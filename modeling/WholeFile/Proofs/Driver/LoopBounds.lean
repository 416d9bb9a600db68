import Mathlib
import WholeFile.Proofs.Driver.Retrieved

/-!
# Bounds of the reading loop

Whenever the loop starts over, the buffer holds what has been read and zero bytes after it, and it
is never much longer than what has been read or was reported. So no index is out of range, no
number wraps, and memory is asked for only in proportion to what is there.
-/

namespace WholeFile

/-! ## What is left zero -/

/-- Bytes written at the start of a run of zero bytes leave the rest of it. -/
theorem Bytes.drop_spliced_zeros {xs ys : Bytes} {pos : Nat} (fits : pos + ys.length ≤ xs.length)
    (zero : xs.drop pos = zeros (xs.length - pos)) :
    (xs.spliced pos ys).drop (pos + ys.length) =
      zeros ((xs.spliced pos ys).length - (pos + ys.length)) := by
  rw [drop_spliced ys (by omega), length_spliced_of_le fits, ← List.drop_drop, zero, zeros,
    List.drop_replicate, Nat.sub_sub, zeros]

namespace Fill

variable {f f' : Fill} {l : Loan}

/-- Every byte that has not been read is zero. -/
def Blank (f : Fill) : Prop :=
  f.buffer.bytes.drop f.filled = Bytes.zeros (f.buffer.size - f.filled)

theorem blank_advance {bytes : Bytes} (blank : f.Blank)
    (fits : f.filled + bytes.length ≤ f.buffer.size)
    (lent : l.buffer = f.buffer.bytes.spliced f.filled bytes) :
    ((f.returned l).advance bytes.length).Blank := by
  have length : l.buffer.length = f.buffer.size := by
    rw [lent, Bytes.length_spliced_of_le fits, Buffer.length_bytes]
  change (f.returned l).buffer.bytes.drop (f.filled + bytes.length) =
    Bytes.zeros ((f.returned l).buffer.bytes.length - (f.filled + bytes.length))
  rw [bytes_returned length, lent]
  exact Bytes.drop_spliced_zeros fits blank

/-- Growing exposes zero bytes, and what was found is put at their start. -/
theorem blank_grow {n since : Nat} {probe : Bytes} (full : f.filled = f.buffer.size)
    (grown : f.grow n probe since = .more f') : f'.Blank := by
  unfold grow at grown
  cases hr : f.buffer.resize (f.grownSize n) with
  | error e =>
    rw [hr] at grown
    cases grown
  | ok b =>
    simp only [hr] at grown
    split at grown
    · next enough =>
      cases grown
      have size : b.size = f.grownSize n := Buffer.size_of_resize_eq_ok hr
      have larger : f.filled + n ≤ f.grownSize n := Nat.le_max_left ..
      have found : (probe.take n).length = n := List.length_take_of_le enough
      have exposed : b.bytes.drop f.filled = Bytes.zeros (b.bytes.length - f.filled) := by
        have held : f.buffer.bytes.length ≤ f.grownSize n := by
          rw [Buffer.length_bytes]
          omega
        rw [Buffer.resize_eq_ok hr, Bytes.length_resized, Bytes.resized_of_ge held, full,
          ← Buffer.length_bytes, List.drop_left]
        rfl
      cases ho : b.overwrite? f.filled (probe.take n) with
      | none =>
        have := Buffer.overwrite?_eq_none_iff.1 ho
        omega
      | some c =>
        obtain ⟨fits, placed⟩ := Buffer.overwrite?_eq_some ho
        have rest := Bytes.drop_spliced_zeros fits exposed
        rw [← placed, found] at rest
        exact rest
    · cases grown

end Fill

/-! ## One time round -/

namespace Fill

/-- The memory that the next read fills. -/
def target (f : Fill) : Target := if f.filled = f.buffer.size then .probe else .buffer

/-- How many bytes that memory has. -/
def space (f : Fill) : Nat :=
  if f.filled = f.buffer.size then probeSize else f.buffer.size - f.filled

theorem room_loan (f : Fill) : f.loan.room f.filled f.target = f.space := by
  unfold target space
  split
  · exact Bytes.length_zeros probeSize
  · rfl

end Fill

namespace Host

variable {h h' : Host} {fd : Descriptor} {f f' : Fill} {hint : Nat}

/-- The read that the next step makes. -/
def nextRead (h : Host) (fd : Descriptor) (f : Fill) : Attempt :=
  h.readAt fd f.filled f.target f.loan

theorem readStep_nextRead (fits : f.filled ≤ f.buffer.size) (h : Host) (fd : Descriptor) :
    h.readStep fd f =
      (h.nextRead fd f).step fun n =>
        if n = 0 then .done (f.returned (h.nextRead fd f).loan)
        else if f.filled = f.buffer.size then
          (f.returned (h.nextRead fd f).loan).grow n (h.nextRead fd f).loan.probe
            (h.nextRead fd f).host.issued
        else .more ((f.returned (h.nextRead fd f).loan).advance n) := by
  unfold nextRead Fill.target
  rcases Nat.lt_or_eq_of_le fits with room | full
  · rw [readStep_room fd room]
    simp only [if_neg (Nat.ne_of_lt room)]
  · rw [readStep_full fd full]
    simp only [if_pos full]

theorem nextRead_readsAt (ready : h.Ready) (since : f.since ≤ h.issued) (fd : Descriptor) :
    h.ReadsAt fd f.filled f.target f.loan (h.asks f) (h.nextRead fd f) := by
  have readsAt : h.ReadsAt fd f.filled f.target f.loan
      (h.backend.kind.limited (f.loan.room f.filled f.target)) (h.nextRead fd f) :=
    readAt_readsAt ready fd f.filled f.target since
  rwa [f.room_loan] at readsAt

theorem ReadsAt.of_ok {offset length n : Nat} {target : Target} {loan : Loan} {a : Attempt}
    (readsAt : h.ReadsAt fd offset target loan length a) (result : a.result = .ok n) :
    n ≤ length ∧ ∃ bytes, bytes.length = n ∧ a.loan = loan.landed offset target (.ok bytes) := by
  cases readsAt with
  | lost tries e lost deeds failed =>
    rw [failed] at result
    cases result
  | answered tries answer ne deeds answered le lent =>
    rw [answered] at result
    cases answer with
    | error e => cases result
    | ok bytes =>
      cases result
      exact ⟨le bytes rfl, bytes, rfl, lent⟩

/-- Each try asks for the same bytes. -/
theorem ReadsAt.requests {offset length : Nat} {target : Target} {loan : Loan} {a : Attempt}
    (readsAt : h.ReadsAt fd offset target loan length a) :
    ∀ c ∈ (h.machine.since a.host.machine).deeds, ∃ answer, c = .read fd length offset answer := by
  intro c mem
  cases readsAt with
  | answered tries answer ne deeds | lost tries e lost deeds =>
    rw [deeds] at mem
    obtain ⟨r, there, answer, -, rfl⟩ := mem_readCalls mem
    obtain ⟨length, offset⟩ := mem_tried there
    rw [length, offset]
    exact ⟨answer, rfl⟩

/-- The step keeps zero what has not been read. -/
theorem readStep_blank (ready : h.Ready) (since : f.since ≤ h.issued)
    (fits : f.filled ≤ f.buffer.size) (blank : f.Blank)
    (hs : h.readStep fd f = (.more f', h')) : f'.Blank := by
  rw [readStep_nextRead fits] at hs
  obtain ⟨-, n, result, took⟩ := Attempt.step_more hs
  obtain ⟨le, bytes, count, lent⟩ := (nextRead_readsAt ready since fd).of_ok result
  split at took
  · cases took
  · split at took
    · next full =>
      have kept : (h.nextRead fd f).loan.buffer = f.buffer.bytes := by
        rw [lent, Fill.target, if_pos full]
        rfl
      have same := Fill.size_returned (congrArg List.length kept)
      have still : (f.returned (h.nextRead fd f).loan).filled =
          (f.returned (h.nextRead fd f).loan).buffer.size := full.trans same.symm
      exact Fill.blank_grow still took
    · next room =>
      cases took
      have landed : (h.nextRead fd f).loan.buffer = f.buffer.bytes.spliced f.filled bytes := by
        rw [lent, Fill.target, if_neg room]
        rfl
      have within : n ≤ f.space := Nat.le_trans le (DriverKind.limited_le ..)
      rw [Fill.space, if_neg room] at within
      rw [← count]
      exact Fill.blank_advance blank (by omega) landed

/-- How one time round the loop keeps within bounds, if `hint` bytes were reported. -/
structure InRange (h : Host) (fd : Descriptor) (hint : Nat) (f : Fill) : Prop where
  offset : f.filled < 2 ^ 63
  /-- Something is asked for, and no more than there is memory for. -/
  asks : 0 < h.asks f ∧ h.asks f ≤ f.space
  requests : ∀ c ∈ (h.machine.since (h.readStep fd f).2.machine).deeds,
    ∃ answer, c = .read fd (h.asks f) f.filled answer
  position : ∀ n, (h.nextRead fd f).result = .ok n → f.filled + n < wordLimit
  room : f.filled ≠ f.buffer.size → ∀ n, (h.nextRead fd f).result = .ok n →
    f.filled + n ≤ f.buffer.size
  /-- What was found past the end is in the probe, and has its place in the buffer that grows. -/
  full : f.filled = f.buffer.size → ∀ n, (h.nextRead fd f).result = .ok n →
    n ≤ probeSize ∧ f.filled + n ≤ f.grownSize n ∧
      f.grownSize n ≤ max hint (max (f.filled + probeSize) (2 * f.filled))
  /-- In the end the buffer is cut, for which no memory is asked. -/
  cut : ∀ f', (h.readStep fd f).1 = .done f' → f'.filled ≤ f'.buffer.size
  sound : ∀ cause, (h.readStep fd f).1 ≠ .failed (.abort cause)

theorem inRange (ready : h.Ready) (since : f.since ≤ h.issued) (fits : f.filled ≤ f.buffer.size)
    (fd : Descriptor) (hint : Nat) : h.InRange fd hint f := by
  have small : f.buffer.size < 2 ^ 57 := f.buffer.size_lt_grantLimit
  have readsAt := nextRead_readsAt ready since fd
  have step := readStep_reads ready since fd fits
  have host : (h.readStep fd f).2 = (h.nextRead fd f).host := by
    rw [readStep_nextRead fits]
    rfl
  have within {n : Nat} (result : (h.nextRead fd f).result = .ok n) : n ≤ f.space :=
    Nat.le_trans (readsAt.of_ok result).1 (DriverKind.limited_le ..)
  have space : f.space = if f.filled = f.buffer.size then probeSize
    else f.buffer.size - f.filled := rfl
  refine ⟨?_, ?_, ?_, ?_, ?_, ?_, ?_, ?_⟩
  · omega
  · exact ⟨DriverKind.asks_pos _ fits, DriverKind.limited_le ..⟩
  · intro c mem
    rw [host] at mem
    exact readsAt.requests c mem
  · intro n result
    have := within result
    simp only [wordLimit, probeSize] at *
    split at space <;> omega
  · intro room n result
    have := within result
    rw [if_neg room] at space
    omega
  · intro full n result
    have := within result
    rw [if_pos full] at space
    unfold Fill.grownSize
    omega
  · intro f' done
    rw [done] at step
    cases step with
    | done deeds reads nothing gained => exact gained.fits
  · intro cause aborted
    rw [aborted] at step
    cases step

/-! ## All times round -/

/-- With which hosts and buffers the loop starts over, the first ones included. -/
inductive Heads (fd : Descriptor) (h : Host) (f : Fill) : Host → Fill → Prop
  | first : Heads fd h f h f
  | next {h₁ h₂ : Host} {f₁ f₂ : Fill} (head : Heads fd h f h₁ f₁)
      (step : h₁.readStep fd f₁ = (.more f₂, h₂)) : Heads fd h f h₂ f₂

/-- The rest of the loop decides what the whole of it comes to. -/
theorem Heads.readAll_eq (heads : Heads fd h f h' f') : h.readAll fd f = h'.readAll fd f' := by
  induction heads with
  | first => rfl
  | @next h₁ h₂ f₁ f₂ head step ih =>
    rw [ih, h₁.readAll_eq, step]

end Host

/-- How the buffer stands whenever the loop starts over, if `hint` bytes were reported. -/
structure Fill.Bounded (hint : Nat) (f : Fill) : Prop where
  fits : f.filled ≤ f.buffer.size
  size_le : f.buffer.size ≤ max hint (2 * f.filled)
  blank : f.Blank

namespace Host

variable {h h' : Host} {fd : Descriptor} {f f' : Fill} {hint : Nat}

theorem bounded_readStep (ready : h.Ready) (since : f.since ≤ h.issued) (bounded : f.Bounded hint)
    (hs : h.readStep fd f = (.more f', h')) : f'.Bounded hint := by
  have blank := readStep_blank ready since bounded.fits bounded.blank hs
  have step := readStep_reads ready since fd bounded.fits
  rw [hs] at step
  cases step with
  | more nonempty le deeds size gained =>
    refine ⟨gained.fits, ?_, blank⟩
    have before := bounded.size_le
    have filled := gained.filled
    rw [size, sizeFor]
    split <;> omega

theorem Heads.bounded (heads : Heads fd h f h' f') (ready : h.Ready) (since : f.since ≤ h.issued)
    (bounded : f.Bounded hint) : h'.Ready ∧ f'.since ≤ h'.issued ∧ f'.Bounded hint := by
  induction heads with
  | first => exact ⟨ready, since, bounded⟩
  | @next h₁ h₂ f₁ f₂ head step ih =>
    obtain ⟨ready', since', bounded'⟩ := ih
    have onward := readStep_onward ready' fd f₁
    rw [step] at onward
    exact ⟨onward.ready, readStep_since since' step, bounded_readStep ready' since' bounded' step⟩

end Host

/-! ## Storage -/

/-- No request for storage is for more than twice of what has been delivered by then. -/
theorem le_of_mem_sizesAsked {rs : List ReadRequest} {size filled total : Nat}
    (asked : total ∈ sizesAsked size filled rs) : total ≤ 2 * (filled + (gathered rs).length) := by
  induction rs generalizing size filled with
  | nil => cases asked
  | cons r rs ih =>
    have all : (gathered (r :: rs)).length = r.delivered.length + (gathered rs).length :=
      List.length_append
    unfold sizesAsked at asked
    simp only at asked
    split at asked
    · next grows =>
      rcases List.mem_cons.1 asked with now | later
      · rw [now, sizeFor, if_pos grows.2]
        omega
      · have := ih later
        omega
    · have := ih asked
      omega

/-- What a read delivered. -/
def Call.received : Call → Bytes
  | .read _ _ _ (.ok bytes) => bytes
  | _ => []

/-- What was read, in order, whoever carried the reads out. -/
def Journal.received (j : Journal) : Bytes := j.deeds.flatMap Call.received

theorem received_readCalls (fd : Descriptor) (rs : List ReadRequest) :
    (readCalls fd rs).flatMap Call.received = gathered rs := by
  induction rs with
  | nil => rfl
  | cons r rs ih =>
    unfold readCalls at ih ⊢
    change _ = r.delivered ++ gathered rs
    rw [← ih]
    obtain ⟨length, offset, outcome⟩ := r
    cases outcome with
    | unserved cause => rfl
    | answered answer => cases answer <;> rfl

/-! ## Rings -/

/-- Of `room` bytes, a ring entry can ask for `length`. -/
structure Clamped (room length : Nat) : Prop where
  pos : 0 < room → 0 < length
  le : length ≤ room
  word : length < 2 ^ 32
  whole : room < 2 ^ 32 → length = room

theorem clamped_min (room : Nat) : Clamped room (min room maxRequest) := by
  simp only [maxRequest]
  constructor <;> omega

namespace Ring

variable (r : Ring) (m : Machine) (fd : Descriptor) (offset : Nat)

theorem tryRead_clamped (target : Target) (loan : Loan) :
    ∃ length, Clamped (loan.room offset target) length ∧
      Host.tryRead ⟨m, .ring r⟩ fd offset target loan =
        r.attempt m fd offset (.read length target) loan :=
  ⟨_, clamped_min _, rfl⟩

theorem tryWrite_clamped (bytes : Bytes) :
    ∃ length, Clamped bytes.length length ∧
      Host.tryWrite ⟨m, .ring r⟩ fd offset bytes =
        r.attempt m fd offset (.write (bytes.take length)) (.nothing r.issued) := by
  refine ⟨_, clamped_min _, ?_⟩
  rw [Nat.min_comm, ← List.take_eq_take_min]
  rfl

end Ring

/-! ## Whole files -/

namespace Driver

/-- The file at `p` is open as `fd` and has reported the size `hint`, and the loop that reads it
starts over with `h` and `f`. -/
def AtHead (d : Driver) (m : Machine) (p : Path) (fd : Descriptor) (hint : Nat) (h : Host)
    (f : Fill) : Prop :=
  ∃ n b, m.openPath p .read 0 = (.ok fd, n) ∧ (n.size fd).1 = .ok hint ∧
    Buffer.withSize hint = .ok b ∧
      Host.Heads fd ((d.host n).sized fd) ⟨b, 0, (d.host n).issued⟩ h f

variable {d : Driver} {m : Machine} {p : Path} {fd : Descriptor} {hint : Nat} {h : Host} {f : Fill}

theorem AtHead.result_eq (head : d.AtHead m p fd hint h f) :
    (d.readFile m p).result = (Host.finish p (h.readAll fd f)).1 := by
  obtain ⟨n, b, opened, sized, made, heads⟩ := head
  unfold readFile
  rw [opened]
  simp only
  have read := Host.readOpen_of_ok (h := d.host n) sized made p
  rw [heads.readAll_eq] at read
  exact congrArg Prod.fst read

theorem AtHead.bounded (ready : (d.host m).Ready) (head : d.AtHead m p fd hint h f) :
    h.Ready ∧ f.since ≤ h.issued ∧ f.Bounded hint := by
  obtain ⟨n, b, opened, sized, made, heads⟩ := head
  have before := m.before_openPath p .read 0
  rw [opened] at before
  have first : (d.host m).Onward (d.host n) := .of_before ready before
  have size : b.size = hint := Buffer.size_of_resize_eq_ok made
  refine heads.bounded (Host.sized_onward first.ready fd).ready (Nat.le_refl _) ⟨?_, ?_, ?_⟩
  · exact Nat.zero_le _
  · exact Nat.le_trans (Nat.le_of_eq size) (Nat.le_max_left ..)
  · change b.bytes = Bytes.zeros b.size
    rw [Buffer.withSize_eq_ok made, size]

theorem not_alloc_of_sized {run : Run Failure Buffer} {rs : List ReadRequest}
    (ends : d.Sized m run hint rs) (small : hint < 2 ^ 57) (few : (gathered rs).length < 2 ^ 56)
    (e : AllocError) : run.result ≠ .error (.error (.alloc e)) := by
  intro failed
  cases ends with
  | refused refusal =>
    rw [refusal?_eq_none_iff.2 small] at refusal
    cases refusal
  | failed granted reads result =>
    rw [result] at failed
    cases failed
    obtain ⟨total, asked, refusal⟩ := reads.refused_iff.1 rfl
    have limit := le_of_mem_sizesAsked asked
    have fits : total < grantLimit := by
      simp only [grantLimit]
      omega
    rw [refusal?_eq_none_iff.2 fits] at refusal
    cases refusal
  | complete granted reads whole result =>
    rw [result] at failed
    cases failed

theorem received_of_sized {tries : Nat} {rs : List ReadRequest} {closed : Except Errno Unit}
    {j : Journal} (deeds : j.deeds = List.replicate tries (Machine.interruptedOpen p .read 0) ++
      .openFile p .read 0 (.ok fd) :: .size fd (.ok hint) ::
        (readCalls fd rs ++ [.close fd closed])) : j.received = gathered rs := by
  have opening : (List.replicate tries (Machine.interruptedOpen p .read 0)).flatMap Call.received =
      [] := by
    simp [Machine.interruptedOpen, Call.received]
  unfold Journal.received
  rw [deeds, List.flatMap_append, opening, List.nil_append, List.flatMap_cons, List.flatMap_cons,
    List.flatMap_append, received_readCalls]
  exact List.append_nil _

/-- Whatever size a file reports and whatever the kernel answers, the loop that reads it keeps within
bounds each time round, so that it never aborts. Storage is refused only to a file that is huge. What
a ring is asked for has been cut to what an entry can ask for. -/
theorem readFile_bounded (reached : d.Reached) (honest : d.kind = .ring → m.schedule.Honest)
    (p : Path) :
    (∀ fd hint h f, d.AtHead m p fd hint h f →
      (d.readFile m p).result = (Host.finish p (h.readAll fd f)).1 ∧ f.Bounded hint ∧
        h.InRange fd hint f) ∧
      (∀ cause, (d.readFile m p).result ≠ .error (.abort cause)) ∧
      (∀ fd hint, .size fd (.ok hint) ∈ (m.since (d.readFile m p).machine).deeds →
        hint < 2 ^ 57 → (m.since (d.readFile m p).machine).received.length < 2 ^ 56 →
          ∀ e, (d.readFile m p).result ≠ .error (.error (.alloc e))) ∧
      ∀ (r : Ring) (fd : Descriptor) (offset : Nat),
        (∀ (target : Target) (loan : Loan), ∃ length, Clamped (loan.room offset target) length ∧
          Host.tryRead ⟨m, .ring r⟩ fd offset target loan =
            r.attempt m fd offset (.read length target) loan) ∧
        ∀ bytes : Bytes, ∃ length, Clamped bytes.length length ∧
          Host.tryWrite ⟨m, .ring r⟩ fd offset bytes =
            r.attempt m fd offset (.write (bytes.take length)) (.nothing r.issued) := by
  have ready : (d.host m).Ready := ready_iff.2 ⟨reached.settled, honest⟩
  refine ⟨?_, (retrieves ready p).sound, ?_, ?_⟩
  · intro fd hint h f head
    obtain ⟨ready', since, bounded⟩ := head.bounded ready
    exact ⟨head.result_eq, bounded, Host.inRange ready' since bounded.fits fd hint⟩
  · intro fd hint sized small few e
    obtain ⟨tries, rs, closed, ends, deeds⟩ := readFile_sized ready sized
    rw [received_of_sized deeds] at few
    exact not_alloc_of_sized ends small few e
  · intro r fd offset
    exact ⟨r.tryRead_clamped m fd offset, r.tryWrite_clamped m fd offset⟩

/-- Over a ring, with a completion that is late: the buffer has grown past the size that was
reported, and is not full. -/
theorem readFile_bounded_grown :
    let d : Driver := ⟨.ring { capacity := Nat.nextPowerOfTwo 8 }, 0o666⟩
    let m : Machine :=
      { files := ⟨[([0x61], { content := [1, 2, 3, 4, 5], reported := some 4 })]⟩
        schedule.enter := [{ take := false }] }
    d.Reached ∧ m.schedule.Honest ∧
      ∃ h f, d.AtHead m [0x61] 0 4 h f ∧ f.filled = 5 ∧
        f.buffer.bytes = [1, 2, 3, 4, 5, 0, 0, 0] ∧ f.Bounded 4 ∧ h.InRange 0 4 f := by
  intro d m
  have made : create {} { driver := .ring } = (.ok d, (create {} { driver := .ring }).2) := rfl
  have reached : d.Reached := .created made
  have honest : m.schedule.Honest := by
    refine ⟨?_, ?_, ?_⟩
    · simp [m, Schedule.Strayless]
    · simp [m]
    · simp [m]
  obtain ⟨bounded, -⟩ := readFile_bounded reached (fun _ => honest) [0x61]
  have head : ∃ h f, d.AtHead m [0x61] 0 4 h f ∧ f.filled = 5 ∧
      f.buffer.bytes = [1, 2, 3, 4, 5, 0, 0, 0] := by
    refine ⟨?h₂, ?f₂, ⟨?n, ?b, ?opened, ?sized, ?made,
      @Host.Heads.next _ _ _ ?h₁ _ ?f₁ _ (.next .first ?first) ?second⟩, ?filled, ?bytes⟩
    case opened =>
      cbv
      rfl
    case made => rfl
    case sized => cbv
    case first =>
      cbv
      rfl
    case second =>
      cbv
      rfl
    case filled => cbv
    case bytes => cbv
  obtain ⟨h, f, head, filled, bytes⟩ := head
  obtain ⟨-, bounded, inRange⟩ := bounded 0 4 h f head
  exact ⟨reached, honest, h, f, head, filled, bytes, bounded, inRange⟩

end Driver

end WholeFile
