import WholeFile.Buffer
import WholeFile.Driver.Open
import WholeFile.Driver.Transfer
import WholeFile.Payload
import WholeFile.Text.Lossy

/-!
# Reading a whole file

The buffer starts at the reported size and is filled from the front. Once it is full, a small read
past its end tells whether there is more; if so, the buffer at least doubles. The result has as
many bytes as were read, whatever size was reported.
-/

namespace WholeFile

/-- How an operation of a driver ended, and what it left behind. -/
structure Run (ε α : Type) where
  result : Except ε α
  driver : Driver
  machine : Machine

/-- How many bytes are asked for past the end of a full buffer. -/
def probeSize : Nat := 32

/-- A buffer whose first `filled` bytes have been read. -/
structure Fill where
  buffer : Buffer
  filled : Nat
  /-- How many tickets had been given out when the buffer got the memory that it has. -/
  since : Nat

inductive FillStep where
  | more (f : Fill)
  | done (f : Fill)
  | failed (cause : Failure)

namespace Fill

/-- The size that a full buffer grows to for `n` more bytes. -/
def grownSize (f : Fill) (n : Nat) : Nat := max (f.filled + n) (min (f.filled * 2) (wordLimit - 1))

/-- What is lent for a read: the buffer as it is, and an empty probe. -/
def loan (f : Fill) : Loan := ⟨f.buffer.bytes, Bytes.zeros probeSize, f.since⟩

/-- The buffer as it comes back. -/
def returned (f : Fill) (l : Loan) : Fill :=
  { f with buffer := (f.buffer.overwrite? 0 l.buffer).getD f.buffer }

/-- Takes in the first `n` bytes found past the end of a full buffer, which moves. -/
def grow (f : Fill) (n : Nat) (probe : Bytes) (since : Nat) : FillStep :=
  match f.buffer.resize (f.grownSize n) with
  | .error e => .failed (.error (.alloc e))
  | .ok b =>
    if n ≤ probe.length then
      .more ⟨(b.overwrite? f.filled (probe.take n)).getD b, f.filled + n, since⟩
    else .failed (.abort .outOfBounds)

/-- Takes in `n` bytes read into the rest of the buffer. -/
def advance (f : Fill) (n : Nat) : Fill := { f with filled := f.filled + n }

end Fill

namespace Host

/-- One read past the end of a full buffer, or into the rest of one that is not. -/
def readStep (h : Host) (fd : Descriptor) (f : Fill) : FillStep × Host :=
  if f.filled = f.buffer.size then
    let a := h.readAt fd f.filled .probe f.loan
    let f := f.returned a.loan
    match a.result with
    | .error e => (.failed (.error (.io e)), a.host)
    | .ok n => (if n = 0 then .done f else f.grow n a.loan.probe a.host.issued, a.host)
  else if f.filled < f.buffer.size then
    let a := h.readAt fd f.filled .buffer f.loan
    let f := f.returned a.loan
    match a.result with
    | .error e => (.failed (.error (.io e)), a.host)
    | .ok n => (if n = 0 then .done f else .more (f.advance n), a.host)
  else (.failed (.abort .outOfBounds), h)

/-- A step after which there is more to read uses something up, or gets nearer to the end. -/
theorem readStep_more {h h' : Host} {fd : Descriptor} {f f' : Fill}
    (hs : h.readStep fd f = (.more f', h')) :
    h'.weight < h.weight ∨
      h'.weight = h.weight ∧
        h'.machine.extent fd - f'.filled < h.machine.extent fd - f.filled := by
  have nearer {target : Target} {n : Nat}
      (hn : (h.readAt fd f.filled target f.loan).result = .ok n)
      (hpos : n ≠ 0) (hf : f'.filled = f.filled + n)
      (hh : (h.readAt fd f.filled target f.loan).host = h') :
      h'.weight < h.weight ∨ h'.weight = h.weight ∧
        h'.machine.extent fd - f'.filled < h.machine.extent fd - f.filled := by
    rcases readAt_progress hn (Nat.pos_of_ne_zero hpos) with lt | ⟨eq, extent, there⟩
    · exact .inl (hh ▸ lt)
    · rw [hh] at eq extent
      exact .inr ⟨eq, by omega⟩
  unfold readStep at hs
  split at hs
  · simp only at hs
    split at hs
    · cases hs
    · next n hn =>
      split at hs
      · cases hs
      · next hpos =>
        obtain ⟨hg, hh⟩ := Prod.mk.inj hs
        refine nearer hn hpos ?_ hh
        unfold Fill.grow at hg
        repeat' split at hg
        all_goals cases hg
        rfl
  · split at hs
    · simp only at hs
      split at hs
      · cases hs
      · next n hn =>
        split at hs
        · cases hs
        · next hpos =>
          obtain ⟨hg, hh⟩ := Prod.mk.inj hs
          cases hg
          exact nearer hn hpos rfl hh
    · cases hs

/-- Reads until nothing more comes. -/
def readAll (h : Host) (fd : Descriptor) (f : Fill) : Except Failure Fill × Host :=
  match hs : h.readStep fd f with
  | (.more f', h') =>
    have := readStep_more hs
    h'.readAll fd f'
  | (.done f', h') => (.ok f', h')
  | (.failed cause, h') => (.error cause, h')
termination_by (h.weight, h.machine.extent fd - f.filled)
decreasing_by exact Prod.lex_def.2 this

/-- Reads an open file. -/
def readOpen (h : Host) (fd : Descriptor) (p : Path) : Except Failure Buffer × Host :=
  let (answer, machine) := h.machine.size fd
  let h := { h with machine }
  match answer with
  | .error e => (.error (.error (.io (.os e))), h)
  | .ok hint =>
    match Buffer.withSize hint with
    | .error e => (.error (.error (.alloc e)), h)
    | .ok b =>
      match h.readAll fd ⟨b, 0, h.issued⟩ with
      | (.error cause, h) => (.error cause, h)
      | (.ok f, h) =>
        match f.buffer.resize f.filled with
        | .error e => (.error (.error (.alloc e)), h)
        | .ok b =>
          let message := s!"read file path={Text.lossy p} len={f.filled}"
          (.ok b, { h with machine := h.machine.log .debug .driver message })

end Host

/-- Reads the whole file at `p`. It is closed however the reading ends. -/
def Driver.readFile (d : Driver) (m : Machine) (p : Path) : Run Failure Buffer :=
  match m.openPath p .read 0 with
  | (.error e, m) => ⟨.error (.error (.io e)), d, m⟩
  | (.ok fd, m) =>
    let (result, h) := Host.readOpen ⟨m, d.backend⟩ fd p
    ⟨result, { d with backend := h.backend }, (h.machine.close fd).2⟩

end WholeFile
