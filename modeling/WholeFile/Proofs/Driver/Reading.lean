import WholeFile.Proofs.Driver.Retry
import WholeFile.Proofs.Machine.Files

/-!
# What reading a file does

Each read asks for what follows the bytes that have been delivered. When one of them delivers
nothing, the buffer holds what the others have delivered, in order.
-/

namespace WholeFile

/-! ## Requests -/

/-- What came of a read. The kernel does not see one that the backend does not serve. -/
inductive ReadOutcome where
  | answered (answer : Except Errno Bytes)
  | unserved (cause : IoError)

/-- A read that was asked for, and what came of it. -/
structure ReadRequest where
  length : Nat
  offset : Nat
  outcome : ReadOutcome

namespace ReadRequest

/-- The call that the kernel saw. -/
def call? (fd : Descriptor) (r : ReadRequest) : Option Call :=
  match r.outcome with
  | .answered answer => some (.read fd r.length r.offset answer)
  | .unserved _ => none

def delivered (r : ReadRequest) : Bytes :=
  match r.outcome with
  | .answered (.ok bytes) => bytes
  | _ => []

/-- What the read failed with, unless it is made again. -/
def failure? (r : ReadRequest) : Option IoError :=
  match r.outcome with
  | .answered (.ok _) => none
  | .answered (.error e) => if e = .interrupted then none else some (.os e)
  | .unserved cause => some cause

/-- More reads may come after an interruption and after some bytes. -/
def GoesOn (r : ReadRequest) : Prop :=
  r.outcome = .answered (.error .interrupted) ∨ r.delivered ≠ []

end ReadRequest

/-- The calls that the kernel saw, in order. -/
def readCalls (fd : Descriptor) (rs : List ReadRequest) : List Call :=
  rs.filterMap (ReadRequest.call? fd)

/-- What the reads delivered, in order. -/
def gathered (rs : List ReadRequest) : Bytes := rs.flatMap ReadRequest.delivered

theorem readCalls_append (fd : Descriptor) (rs rs' : List ReadRequest) :
    readCalls fd (rs ++ rs') = readCalls fd rs ++ readCalls fd rs' := List.filterMap_append ..

theorem mem_readCalls {fd : Descriptor} {rs : List ReadRequest} {c : Call}
    (mem : c ∈ readCalls fd rs) : ∃ r ∈ rs, ∃ answer, r.outcome = .answered answer ∧
      c = .read fd r.length r.offset answer := by
  obtain ⟨r, there, seen⟩ := List.mem_filterMap.1 mem
  unfold ReadRequest.call? at seen
  split at seen
  · next answer outcome =>
    cases seen
    exact ⟨r, there, answer, outcome, rfl⟩
  · cases seen

theorem gathered_append (rs rs' : List ReadRequest) :
    gathered (rs ++ rs') = gathered rs ++ gathered rs' := List.flatMap_append

/-- One read, with the interruptions before it. -/
def tried (tries length offset : Nat) (outcome : ReadOutcome) : List ReadRequest :=
  List.replicate tries ⟨length, offset, .answered (.error .interrupted)⟩ ++
    [⟨length, offset, outcome⟩]

theorem readCalls_interrupted (fd : Descriptor) (tries length offset : Nat) :
    readCalls fd (List.replicate tries ⟨length, offset, .answered (.error .interrupted)⟩) =
      List.replicate tries (.read fd length offset (.error .interrupted)) := by
  have seen : ReadRequest.call? fd ⟨length, offset, .answered (.error .interrupted)⟩ =
      some (.read fd length offset (.error .interrupted)) := rfl
  exact List.filterMap_replicate_of_some seen

theorem mem_tried {tries length offset : Nat} {outcome : ReadOutcome} {r : ReadRequest}
    (mem : r ∈ tried tries length offset outcome) : r.length = length ∧ r.offset = offset := by
  rcases List.mem_append.1 mem with again | last
  · rw [List.eq_of_mem_replicate again]
    exact ⟨rfl, rfl⟩
  · rw [List.mem_singleton.1 last]
    exact ⟨rfl, rfl⟩

theorem readCalls_tried_answered (fd : Descriptor) (tries length offset : Nat)
    (answer : Except Errno Bytes) :
    readCalls fd (tried tries length offset (.answered answer)) =
      List.replicate tries (.read fd length offset (.error .interrupted)) ++
        [.read fd length offset answer] := by
  unfold tried
  rw [readCalls_append, readCalls_interrupted]
  rfl

theorem readCalls_tried_unserved (fd : Descriptor) (tries length offset : Nat) (e : IoError) :
    readCalls fd (tried tries length offset (.unserved e)) =
      List.replicate tries (.read fd length offset (.error .interrupted)) := by
  unfold tried
  rw [readCalls_append, readCalls_interrupted]
  exact List.append_nil _

theorem gathered_tried (tries length offset : Nat) (outcome : ReadOutcome) :
    gathered (tried tries length offset outcome) =
      ReadRequest.delivered ⟨length, offset, outcome⟩ := by
  unfold tried
  rw [gathered_append]
  have nothing : gathered
      (List.replicate tries ⟨length, offset, .answered (.error .interrupted)⟩) = [] := by
    induction tries with
    | zero => rfl
    | succ n ih => exact ih
  rw [nothing]
  exact List.append_nil _

/-- Each request asks for something, at the place where what was delivered before it ends, and only
if the one before it left it open whether there is more. -/
def InOrder (offset : Nat) (rs : List ReadRequest) : Prop :=
  ∀ before r after, rs = before ++ r :: after →
    r.offset = offset + (gathered before).length ∧ 0 < r.length ∧
      r.delivered.length ≤ r.length ∧ (after ≠ [] → r.GoesOn)

theorem InOrder.nil {offset : Nat} : InOrder offset [] := by
  rintro (_ | ⟨q, before⟩) r after h <;> cases h

theorem InOrder.cons {offset : Nat} {r : ReadRequest} {rs : List ReadRequest}
    (here : r.offset = offset) (pos : 0 < r.length) (le : r.delivered.length ≤ r.length)
    (on : rs ≠ [] → r.GoesOn) (rest : InOrder (offset + r.delivered.length) rs) :
    InOrder offset (r :: rs) := by
  rintro (_ | ⟨q, before⟩) r' after h
  · obtain ⟨rfl, rfl⟩ := List.cons.inj h
    exact ⟨here, pos, le, on⟩
  · obtain ⟨rfl, others⟩ := List.cons.inj h
    have later := rest before r' after others
    rwa [Nat.add_assoc, ← List.length_append] at later

/-! ## Sizes -/

/-- How many bytes are asked for when `offset` bytes of a buffer have been read. -/
def DriverKind.asks (k : DriverKind) (size offset : Nat) : Nat :=
  k.limited (if offset = size then probeSize else size - offset)

theorem DriverKind.asks_pos (k : DriverKind) {size offset : Nat} (fits : offset ≤ size) :
    0 < k.asks size offset := by
  apply k.limited_pos
  split
  · decide
  · omega

/-- The size of a buffer once there are `n` more bytes in it than `filled`. A full one grows. -/
def sizeFor (size filled n : Nat) : Nat :=
  if filled = size then max (filled + n) (min (filled * 2) (wordLimit - 1)) else size

theorem le_sizeFor {k : DriverKind} {size filled n : Nat} (fits : filled ≤ size)
    (le : n ≤ k.asks size filled) : filled + n ≤ sizeFor size filled n := by
  unfold sizeFor
  split
  · exact Nat.le_max_left ..
  · next room =>
    have := k.limited_le (size - filled)
    rw [DriverKind.asks, if_neg room] at le
    omega

/-- The sizes that storage is asked for to take in what the requests deliver. -/
def sizesAsked (size filled : Nat) : List ReadRequest → List Nat
  | [] => []
  | r :: rs =>
    let n := r.delivered.length
    if n ≠ 0 ∧ filled = size then
      sizeFor size filled n :: sizesAsked (sizeFor size filled n) (filled + n) rs
    else sizesAsked size (filled + n) rs

/-! ## Runs of reads -/

/-- How a run of reads ends. -/
inductive ReadEnd where
  /-- The last read delivered nothing. -/
  | complete
  | failed (cause : Error)

/-- The reads that are made once `offset` bytes of a buffer of `size` have been read, and how they
end. A read that the backend does not serve fails for one of the `causes`. -/
inductive Reads (k : DriverKind) (causes : IoError → Prop) :
    Nat → Nat → List ReadRequest → ReadEnd → Prop
  | complete {size offset : Nat} :
      Reads k causes size offset [⟨k.asks size offset, offset, .answered (.ok [])⟩] .complete
  | interrupted {size offset : Nat} {rs : List ReadRequest} {ending : ReadEnd}
      (rest : Reads k causes size offset rs ending) :
      Reads k causes size offset
        (⟨k.asks size offset, offset, .answered (.error .interrupted)⟩ :: rs) ending
  | delivered {size offset : Nat} {bytes : Bytes} {rs : List ReadRequest} {ending : ReadEnd}
      (nonempty : bytes ≠ []) (le : bytes.length ≤ k.asks size offset)
      (granted : refusal? (sizeFor size offset bytes.length) = none)
      (rest : Reads k causes (sizeFor size offset bytes.length) (offset + bytes.length) rs ending) :
      Reads k causes size offset (⟨k.asks size offset, offset, .answered (.ok bytes)⟩ :: rs) ending
  | refused {size offset : Nat} {bytes : Bytes} (nonempty : bytes ≠ [])
      (le : bytes.length ≤ k.asks size offset) (full : offset = size) {e : AllocError}
      (refusal : refusal? (sizeFor size offset bytes.length) = some e) :
      Reads k causes size offset [⟨k.asks size offset, offset, .answered (.ok bytes)⟩]
        (.failed (.alloc e))
  | failed {size offset : Nat} (e : Errno) (ne : e ≠ .interrupted) :
      Reads k causes size offset [⟨k.asks size offset, offset, .answered (.error e)⟩]
        (.failed (.io (.os e)))
  | unserved {size offset : Nat} {e : IoError} (cause : causes e) :
      Reads k causes size offset [⟨k.asks size offset, offset, .unserved e⟩] (.failed (.io e))

namespace Reads

variable {k : DriverKind} {causes : IoError → Prop} {size offset : Nat} {rs : List ReadRequest}
  {ending : ReadEnd}

theorem imp {causes' : IoError → Prop} (h : ∀ e, causes e → causes' e)
    (reads : Reads k causes size offset rs ending) : Reads k causes' size offset rs ending := by
  induction reads with
  | complete => exact .complete
  | interrupted rest ih => exact .interrupted ih
  | delivered nonempty le granted rest ih => exact .delivered nonempty le granted ih
  | refused nonempty le full refusal => exact .refused nonempty le full refusal
  | failed e ne => exact .failed e ne
  | unserved cause => exact .unserved (h _ cause)

theorem again {outcome : ReadOutcome} (tries : Nat)
    (reads : Reads k causes size offset (⟨k.asks size offset, offset, outcome⟩ :: rs) ending) :
    Reads k causes size offset (tried tries (k.asks size offset) offset outcome ++ rs) ending := by
  induction tries with
  | zero => exact reads
  | succ n ih => exact .interrupted ih

theorem inOrder (reads : Reads k causes size offset rs ending) (fits : offset ≤ size) :
    InOrder offset rs := by
  induction reads with
  | complete => exact .cons rfl (k.asks_pos fits) (Nat.zero_le _) (absurd rfl) .nil
  | interrupted rest ih =>
    exact .cons rfl (k.asks_pos fits) (Nat.zero_le _) (fun _ => .inl rfl) (ih fits)
  | delivered nonempty le granted rest ih =>
    exact .cons rfl (k.asks_pos fits) le (fun _ => .inr nonempty) (ih (le_sizeFor fits le))
  | refused nonempty le => exact .cons rfl (k.asks_pos fits) le (absurd rfl) .nil
  | failed | unserved => exact .cons rfl (k.asks_pos fits) (Nat.zero_le _) (absurd rfl) .nil

theorem complete_iff (reads : Reads k causes size offset rs ending) :
    ending = .complete ↔ ∃ r ∈ rs, r.outcome = .answered (.ok []) := by
  induction reads with
  | complete => simp
  | interrupted rest ih => simp [ih]
  | delivered nonempty le granted rest ih => simp [ih, nonempty]
  | refused nonempty => simp [nonempty]
  | failed | unserved => simp

theorem failed_iff (reads : Reads k causes size offset rs ending) {e : IoError} :
    ending = .failed (.io e) ↔ ∃ r ∈ rs, r.failure? = some e := by
  induction reads with
  | complete | refused => simp [ReadRequest.failure?]
  | interrupted rest ih | delivered nonempty le granted rest ih => simp [ih, ReadRequest.failure?]
  | failed errno ne => simp [ReadRequest.failure?, ne]
  | unserved cause => simp [ReadRequest.failure?]

theorem refused_iff (reads : Reads k causes size offset rs ending) {e : AllocError} :
    ending = .failed (.alloc e) ↔ ∃ total ∈ sizesAsked size offset rs, refusal? total = some e := by
  induction reads with
  | complete | failed | unserved => simp [sizesAsked, ReadRequest.delivered]
  | interrupted rest ih =>
    rw [ih]
    simp [sizesAsked, ReadRequest.delivered]
  | @delivered size offset bytes rs ending nonempty le granted rest ih =>
    rw [ih]
    by_cases full : offset = size
    · simp [sizesAsked, ReadRequest.delivered, nonempty, full, full ▸ granted]
    · simp [sizesAsked, ReadRequest.delivered, full, sizeFor]
  | refused nonempty le full refusal =>
    subst full
    simp [sizesAsked, ReadRequest.delivered, nonempty, refusal, eq_comm]

theorem cause_of_unserved (reads : Reads k causes size offset rs ending) {r : ReadRequest}
    {e : IoError} (mem : r ∈ rs) (unserved : r.outcome = .unserved e) : causes e := by
  induction reads with
  | complete | refused | failed =>
    rw [List.mem_singleton.1 mem] at unserved
    cases unserved
  | interrupted rest ih | delivered nonempty le granted rest ih =>
    rcases List.mem_cons.1 mem with rfl | mem
    · cases unserved
    · exact ih mem
  | unserved cause =>
    rw [List.mem_singleton.1 mem] at unserved
    cases unserved
    exact cause

end Reads

/-! ## One read -/

namespace Host

variable {h h' : Host} {fd : Descriptor} {offset : Nat} {target : Target} {loan : Loan} {a : Attempt}

/-- How one read goes, interruptions included. -/
inductive ReadsAt (h : Host) (fd : Descriptor) (offset : Nat) (target : Target) (loan : Loan)
    (length : Nat) (a : Attempt) : Prop
  | answered (tries : Nat) (answer : Except Errno Bytes) (ne : answer ≠ .error .interrupted)
      (deeds : (h.machine.since a.host.machine).deeds =
        readCalls fd (tried tries length offset (.answered answer)))
      (result : a.result = (answer.map List.length).mapError .os)
      (le : ∀ bytes, answer = .ok bytes → bytes.length ≤ length)
      (lent : a.loan = loan.landed offset target answer)
  | lost (tries : Nat) (e : IoError) (lost : Lost h a.host e)
      (deeds : (h.machine.since a.host.machine).deeds =
        readCalls fd (tried tries length offset (.unserved e)))
      (result : a.result = .error e) (lent : a.loan = loan)

theorem readAt_readsAt (ready : h.Ready) (fd : Descriptor) (offset : Nat) (target : Target)
    (since : loan.since ≤ h.issued) :
    h.ReadsAt fd offset target loan (h.backend.kind.limited (loan.room offset target))
      (h.readAt fd offset target loan) := by
  have outlasts := readAt_outlasts ready fd offset target since
  unfold reading at outlasts
  generalize h.backend.kind.limited (loan.room offset target) = length at *
  cases outlasts with
  | @lost _ _ k deeds e why result lent =>
    have did := deeds.trans (readCalls_tried_unserved fd k length offset e).symm
    exact .lost k e why did result lent
  | @answered h' _ k deeds ne result lent =>
    have did := deeds.trans
      (readCalls_tried_answered fd k length offset (h'.machine.read fd length offset).1).symm
    refine .answered k (h'.machine.read fd length offset).1 ?_ did result ?_ lent
    · intro interrupted
      apply ne
      simp only [Machine.perform, interrupted]
      rfl
    · intro bytes hb
      exact Machine.length_read_le hb

end Host

/-! ## What becomes of the buffer -/

theorem Bytes.take_spliced_end {xs : Bytes} {pos : Nat} (ys : Bytes) (h : pos ≤ xs.length) :
    (Bytes.spliced xs pos ys).take (pos + ys.length) = xs.take pos ++ ys := by
  have length : (xs.take pos ++ ys).length = pos + ys.length := by
    rw [List.length_append, List.length_take]
    omega
  rw [Bytes.spliced_of_le ys h, ← length, List.take_left]

namespace Fill

variable {f f' : Fill} {l : Loan}

/-- Between the two, `bytes` were taken in. -/
structure Gained (f : Fill) (bytes : Bytes) (f' : Fill) : Prop where
  filled : f'.filled = f.filled + bytes.length
  fits : f'.filled ≤ f'.buffer.size
  bytes : f'.buffer.bytes.take f'.filled = f.buffer.bytes.take f.filled ++ bytes

theorem Gained.trans {f'' : Fill} {bytes more : Bytes} (first : f.Gained bytes f')
    (second : f'.Gained more f'') : f.Gained (bytes ++ more) f'' where
  filled := by rw [second.filled, first.filled, List.length_append, Nat.add_assoc]
  fits := second.fits
  bytes := by rw [second.bytes, first.bytes, List.append_assoc]

theorem bytes_returned (h : l.buffer.length = f.buffer.size) :
    (f.returned l).buffer.bytes = l.buffer := by
  unfold returned
  cases ho : f.buffer.overwrite? 0 l.buffer with
  | none =>
    have := Buffer.overwrite?_eq_none_iff.1 ho
    omega
  | some b =>
    have bytes := (Buffer.overwrite?_eq_some ho).2
    rw [Option.getD_some, bytes]
    exact Bytes.spliced_zero_of_length_le (Nat.le_of_eq h.symm)

theorem size_returned (h : l.buffer.length = f.buffer.size) :
    (f.returned l).buffer.size = f.buffer.size := by
  rw [← Buffer.length_bytes, bytes_returned h, h]

/-- Bytes that were read into the rest of the buffer. -/
theorem gained_advance {bytes : Bytes} (fits : f.filled + bytes.length ≤ f.buffer.size)
    (lent : l.buffer = f.buffer.bytes.spliced f.filled bytes) :
    f.Gained bytes ((f.returned l).advance bytes.length) := by
  have length : l.buffer.length = f.buffer.size := by
    rw [lent, Bytes.length_spliced_of_le fits, Buffer.length_bytes]
  refine ⟨rfl, ?_, ?_⟩
  · exact Nat.le_trans fits (Nat.le_of_eq (size_returned length).symm)
  · change (f.returned l).buffer.bytes.take (f.filled + bytes.length) = _
    rw [bytes_returned length, lent]
    exact Bytes.take_spliced_end bytes (by rw [Buffer.length_bytes]; omega)

/-- A buffer that comes back as it was. -/
theorem gained_returned (fits : f.filled ≤ f.buffer.size) (lent : l.buffer = f.buffer.bytes) :
    f.Gained [] (f.returned l) := by
  have length : l.buffer.length = f.buffer.size := congrArg List.length lent
  refine ⟨rfl, ?_, ?_⟩
  · rw [size_returned length]
    exact fits
  · rw [bytes_returned length, lent, List.append_nil]
    rfl

/-- Bytes that were found past the end of the buffer. -/
theorem grow_gained {bytes probe : Bytes} (full : f.filled = f.buffer.size)
    (found : probe.take bytes.length = bytes) (since : Nat) :
    (∃ e, refusal? (f.grownSize bytes.length) = some e ∧
      f.grow bytes.length probe since = .failed (.error (.alloc e))) ∨
    ∃ f', f.grow bytes.length probe since = .more f' ∧
      f'.buffer.size = f.grownSize bytes.length ∧ f.Gained bytes f' := by
  have enough : bytes.length ≤ probe.length := by
    have := congrArg List.length found
    rw [List.length_take] at this
    omega
  unfold grow
  cases hr : f.buffer.resize (f.grownSize bytes.length) with
  | error e => exact .inl ⟨e, Buffer.resize_eq_error_iff.1 hr, rfl⟩
  | ok b =>
    right
    have grown := Buffer.size_of_resize_eq_ok hr
    have size : f.filled + bytes.length ≤ b.size := by
      rw [grown]
      exact Nat.le_max_left ..
    have kept : b.bytes.take f.filled = f.buffer.bytes.take f.filled := by
      have larger : f.buffer.bytes.length ≤ f.grownSize bytes.length :=
        Nat.le_trans (Nat.le_trans (Nat.le_of_eq full.symm) (Nat.le_add_right ..))
          (Nat.le_max_left ..)
      rw [Buffer.resize_eq_ok hr, Bytes.resized_of_ge larger, full, ← Buffer.length_bytes,
        List.take_left, List.take_length]
    cases ho : b.overwrite? f.filled (probe.take bytes.length) with
    | none =>
      have := Buffer.overwrite?_eq_none_iff.1 ho
      rw [found] at this
      omega
    | some c =>
      have placed := (Buffer.overwrite?_eq_some ho).2
      rw [found] at placed
      simp only [ho, if_pos enough, Option.getD_some]
      have same : c.size = b.size := by
        rw [← Buffer.length_bytes, placed, Bytes.length_spliced_of_le size, Buffer.length_bytes]
      refine ⟨_, rfl, same.trans grown, rfl, ?_, ?_⟩
      · exact Nat.le_trans size (Nat.le_of_eq same.symm)
      · change c.bytes.take (f.filled + bytes.length) = _
        rw [placed, Bytes.take_spliced_end bytes (by rw [Buffer.length_bytes]; omega), kept]

end Fill

/-! ## One step -/

namespace Host

variable {h h' : Host} {fd : Descriptor} {f f' : Fill} {target : Target} {a : Attempt}

/-- What the kind of backend asks for when so much of the buffer is full. -/
def asks (h : Host) (f : Fill) : Nat := h.backend.kind.asks f.buffer.size f.filled

/-- How one step of a reading goes. -/
inductive ReadsStep (h : Host) (fd : Descriptor) (f : Fill) : FillStep → Host → Prop
  | more {f' : Fill} {h' : Host} {tries : Nat} {bytes : Bytes} (nonempty : bytes ≠ [])
      (le : bytes.length ≤ h.asks f)
      (deeds : (h.machine.since h'.machine).deeds =
        readCalls fd (tried tries (h.asks f) f.filled (.answered (.ok bytes))))
      (size : f'.buffer.size = sizeFor f.buffer.size f.filled bytes.length)
      (gained : f.Gained bytes f') : ReadsStep h fd f (.more f') h'
  | done {f' : Fill} {h' : Host} {rs : List ReadRequest}
      (deeds : (h.machine.since h'.machine).deeds = readCalls fd rs)
      (reads : Reads h.backend.kind (Lost h h') f.buffer.size f.filled rs .complete)
      (nothing : gathered rs = []) (gained : f.Gained [] f') : ReadsStep h fd f (.done f') h'
  | failed {h' : Host} {rs : List ReadRequest} {e : Error}
      (deeds : (h.machine.since h'.machine).deeds = readCalls fd rs)
      (reads : Reads h.backend.kind (Lost h h') f.buffer.size f.filled rs (.failed e)) :
      ReadsStep h fd f (.failed (.error e)) h'

/-- What the buffer makes of `bytes`: it takes them in, or it would have to grow and cannot. -/
inductive Takes (f : Fill) (bytes : Bytes) : FillStep → Prop
  | taken {f' : Fill} (size : f'.buffer.size = sizeFor f.buffer.size f.filled bytes.length)
      (gained : f.Gained bytes f') : Takes f bytes (.more f')
  | refused {e : AllocError} (full : f.filled = f.buffer.size)
      (refusal : refusal? (sizeFor f.buffer.size f.filled bytes.length) = some e) :
      Takes f bytes (.failed (.error (.alloc e)))

/-- A step goes as its read does, whatever the buffer has to do to take the bytes in. -/
theorem ReadsAt.step {took : Nat → FillStep}
    (readsAt : h.ReadsAt fd f.filled target f.loan (h.asks f) a)
    (stops : a.loan = f.loan.landed f.filled target (.ok []) →
      ∃ f', took 0 = .done f' ∧ f.Gained [] f')
    (goes : ∀ bytes, bytes ≠ [] → a.loan = f.loan.landed f.filled target (.ok bytes) →
      bytes.length ≤ h.asks f → Takes f bytes (took bytes.length)) :
    h.ReadsStep fd f (a.step took).1 (a.step took).2 := by
  have last {tries : Nat} {outcome : ReadOutcome} {ending : ReadEnd}
      (reads : Reads h.backend.kind (Lost h a.host) f.buffer.size f.filled
        [⟨h.asks f, f.filled, outcome⟩] ending) :
      Reads h.backend.kind (Lost h a.host) f.buffer.size f.filled
        (tried tries (h.asks f) f.filled outcome) ending := by
    have all := reads.again tries
    rwa [List.append_nil] at all
  unfold Attempt.step
  cases readsAt with
  | lost tries e lost deeds result lent =>
    rw [result]
    exact .failed deeds (last (.unserved lost))
  | answered tries answer ne deeds result le lent =>
    rw [result]
    cases answer with
    | error e =>
      have other : e ≠ .interrupted := fun he => ne (congrArg Except.error he)
      exact .failed deeds (last (.failed e other))
    | ok bytes =>
      have arrived :
          (Except.map List.length (.ok bytes)).mapError IoError.os = .ok bytes.length := rfl
      simp only [arrived]
      by_cases nonempty : bytes = []
      · subst nonempty
        obtain ⟨f', hf, gained⟩ := stops lent
        rw [List.length_nil, hf]
        exact .done deeds (last .complete) (gathered_tried ..) gained
      · have takes := goes bytes nonempty lent (le _ rfl)
        generalize took bytes.length = step at takes
        cases takes with
        | taken size gained => exact .more nonempty (le _ rfl) deeds size gained
        | refused full refusal =>
          exact .failed deeds (last (.refused nonempty (le _ rfl) full refusal))

theorem readStep_reads_room (ready : h.Ready) (since : f.since ≤ h.issued) (fd : Descriptor)
    (room : f.filled < f.buffer.size) :
    h.ReadsStep fd f (h.readStep fd f).1 (h.readStep fd f).2 := by
  have asks : h.asks f = h.backend.kind.limited (f.buffer.size - f.filled) := by
    unfold Host.asks DriverKind.asks
    rw [if_neg (Nat.ne_of_lt room)]
  have readsAt : h.ReadsAt fd f.filled .buffer f.loan
      (h.backend.kind.limited (f.buffer.size - f.filled)) (h.readAt fd f.filled .buffer f.loan) :=
    readAt_readsAt ready fd f.filled .buffer since
  rw [← asks] at readsAt
  rw [readStep_room fd room]
  generalize h.readAt fd f.filled .buffer f.loan = a at readsAt ⊢
  have length (bytes : Bytes) (lent : a.loan = f.loan.landed f.filled .buffer (.ok bytes))
      (le : bytes.length ≤ f.buffer.size - f.filled) :
      a.loan.buffer = f.buffer.bytes.spliced f.filled bytes ∧
        a.loan.buffer.length = f.buffer.size := by
    have landed : a.loan.buffer = f.buffer.bytes.spliced f.filled bytes := by
      rw [lent]
      rfl
    refine ⟨landed, ?_⟩
    rw [landed, Bytes.length_spliced_of_le (by rw [Buffer.length_bytes]; omega),
      Buffer.length_bytes]
  refine readsAt.step ?_ ?_
  · intro lent
    obtain ⟨landed, -⟩ := length [] lent (Nat.zero_le _)
    exact ⟨_, rfl, Fill.gained_advance (Nat.le_of_lt room) landed⟩
  · intro bytes nonempty lent le
    rw [asks] at le
    have le' := Nat.le_trans le (h.backend.kind.limited_le _)
    obtain ⟨landed, same⟩ := length bytes lent le'
    rw [if_neg (mt List.length_eq_zero_iff.1 nonempty)]
    refine .taken ?_ (Fill.gained_advance (by omega) landed)
    rw [sizeFor, if_neg (Nat.ne_of_lt room)]
    exact Fill.size_returned same

theorem readStep_reads_full (ready : h.Ready) (since : f.since ≤ h.issued) (fd : Descriptor)
    (full : f.filled = f.buffer.size) :
    h.ReadsStep fd f (h.readStep fd f).1 (h.readStep fd f).2 := by
  have readsAt : h.ReadsAt fd f.filled .probe f.loan
      (h.backend.kind.limited (Bytes.zeros probeSize).length)
      (h.readAt fd f.filled .probe f.loan) := readAt_readsAt ready fd f.filled .probe since
  have asks : h.asks f = h.backend.kind.limited (Bytes.zeros probeSize).length := by
    unfold Host.asks DriverKind.asks
    rw [if_pos full, Bytes.length_zeros]
  rw [← asks] at readsAt
  rw [readStep_full fd full]
  generalize h.readAt fd f.filled .probe f.loan = a at readsAt ⊢
  have kept (bytes : Bytes) (lent : a.loan = f.loan.landed f.filled .probe (.ok bytes)) :
      a.loan.buffer = f.buffer.bytes := by
    rw [lent]
    rfl
  refine readsAt.step ?_ ?_
  · intro lent
    exact ⟨_, rfl, Fill.gained_returned (Nat.le_of_eq full) (kept [] lent)⟩
  · intro bytes nonempty lent _
    have found : a.loan.probe.take bytes.length = bytes := by
      have landed : a.loan.probe = (Bytes.zeros probeSize).spliced 0 bytes := by
        rw [lent]
        rfl
      have front := Bytes.take_spliced_end bytes (Nat.zero_le (Bytes.zeros probeSize).length)
      rwa [Nat.zero_add, List.take_zero, List.nil_append, ← landed] at front
    have unchanged := Fill.gained_returned (Nat.le_of_eq full) (kept bytes lent)
    have same := Fill.size_returned (congrArg List.length (kept bytes lent))
    have still : (f.returned a.loan).filled = (f.returned a.loan).buffer.size := full.trans same.symm
    have grown : (f.returned a.loan).grownSize bytes.length =
        sizeFor f.buffer.size f.filled bytes.length := by
      rw [sizeFor, if_pos full]
      rfl
    rw [if_neg (mt List.length_eq_zero_iff.1 nonempty)]
    rcases Fill.grow_gained still found a.host.issued with ⟨e, refusal, hf⟩ | ⟨f', hf, size, gained⟩
    · rw [hf]
      rw [grown] at refusal
      exact .refused full refusal
    · rw [hf]
      rw [grown] at size
      exact .taken size (unchanged.trans gained)

theorem readStep_reads (ready : h.Ready) (since : f.since ≤ h.issued) (fd : Descriptor)
    (fits : f.filled ≤ f.buffer.size) :
    h.ReadsStep fd f (h.readStep fd f).1 (h.readStep fd f).2 := by
  rcases Nat.lt_or_eq_of_le fits with room | full
  · exact readStep_reads_room ready since fd room
  · exact readStep_reads_full ready since fd full

/-! ## All reads -/

/-- What a run of reads comes to. -/
inductive Filled (f : Fill) (bytes : Bytes) : ReadEnd → Except Failure Fill → Prop
  | complete {f' : Fill} (gained : f.Gained bytes f') : Filled f bytes .complete (.ok f')
  | failed (e : Error) : Filled f bytes (.failed e) (.error (.error e))

theorem Filled.after {bytes more : Bytes} {ending : ReadEnd} {result : Except Failure Fill}
    (gained : f.Gained bytes f') (filled : Filled f' more ending result) :
    Filled f (bytes ++ more) ending result := by
  cases filled with
  | complete rest => exact .complete (gained.trans rest)
  | failed e => exact .failed e

theorem readAll_reads (ready : h.Ready) (since : f.since ≤ h.issued) (fd : Descriptor)
    (fits : f.filled ≤ f.buffer.size) :
    ∃ rs ending, (h.machine.since (h.readAll fd f).2.machine).deeds = readCalls fd rs ∧
      Reads h.backend.kind (Lost h (h.readAll fd f).2) f.buffer.size f.filled rs ending ∧
      Filled f (gathered rs) ending (h.readAll fd f).1 := by
  fun_induction readAll h fd f with
  | case1 h f f' h' hs _ ih =>
    have onward := readStep_onward ready fd f
    have step := readStep_reads ready since fd fits
    have since' := readStep_since since hs
    rw [hs] at onward step
    have rest := readAll_onward onward.ready fd f'
    cases step with
    | @more _ _ tries bytes nonempty le deeds size gained =>
      obtain ⟨rs, ending, deeds', reads, filled⟩ := ih onward.ready since' gained.fits
      refine ⟨tried tries (h.asks f) f.filled (.answered (.ok bytes)) ++ rs, ending, ?_, ?_, ?_⟩
      · rw [Machine.since_trans onward.before rest.before, Journal.deeds_append, deeds, deeds',
          readCalls_append]
      · have granted : refusal? (sizeFor f.buffer.size f.filled bytes.length) = none := by
          rw [← size]
          exact refusal?_eq_none_iff.2 f'.buffer.size_lt_grantLimit
        rw [gained.filled, size, onward.kind] at reads
        -- Whatever a later read is lost for has come about since `h` as well.
        have later := reads.imp fun e (lost : Lost h' _ e) =>
          lost.within onward rest (.refl rest.ready)
        exact (Reads.delivered nonempty le granted later).again tries
      · rw [gathered_append, gathered_tried]
        exact filled.after gained
  | case2 h f f' h' hs =>
    have step := readStep_reads ready since fd fits
    rw [hs] at step
    cases step with
    | done deeds reads nothing gained => exact ⟨_, _, deeds, reads, nothing ▸ .complete gained⟩
  | case3 h f cause h' hs =>
    have step := readStep_reads ready since fd fits
    rw [hs] at step
    cases step with
    | failed deeds reads => exact ⟨_, _, deeds, reads, .failed _⟩

/-! ## Open files -/

/-- How the reading of an open file goes, its size asked for and the buffer made. -/
inductive ReadsOpen (h : Host) (fd : Descriptor) (h' : Host) : Except Failure Buffer → Prop
  | unsized {e : Errno} (deeds : (h.machine.since h'.machine).deeds = [.size fd (.error e)]) :
      ReadsOpen h fd h' (.error (.error (.io (.os e))))
  | refused {hint : Nat} {e : AllocError} (refusal : refusal? hint = some e)
      (deeds : (h.machine.since h'.machine).deeds = [.size fd (.ok hint)]) :
      ReadsOpen h fd h' (.error (.error (.alloc e)))
  | failed {hint : Nat} {rs : List ReadRequest} {e : Error} (granted : refusal? hint = none)
      (reads : Reads h.backend.kind (Lost h h') hint 0 rs (.failed e))
      (deeds : (h.machine.since h'.machine).deeds = .size fd (.ok hint) :: readCalls fd rs) :
      ReadsOpen h fd h' (.error (.error e))
  | complete {hint : Nat} {rs : List ReadRequest} {b : Buffer} (granted : refusal? hint = none)
      (reads : Reads h.backend.kind (Lost h h') hint 0 rs .complete) (whole : b.bytes = gathered rs)
      (deeds : (h.machine.since h'.machine).deeds = .size fd (.ok hint) :: readCalls fd rs) :
      ReadsOpen h fd h' (.ok b)

/-- A buffer can always be cut down to what has been read. -/
theorem finish_eq_ok (fits : f.filled ≤ f.buffer.size) (p : Path) :
    ∃ b m, finish p (.ok f, h) = (.ok b, { h with machine := m }) ∧
      b.bytes = f.buffer.bytes.take f.filled ∧ m.plain = h.machine.plain := by
  obtain ⟨b, hr⟩ : ∃ b, f.buffer.resize f.filled = .ok b :=
    Buffer.resize_eq_ok_iff.2 (Nat.lt_of_le_of_lt fits f.buffer.size_lt_grantLimit)
  let message := s!"read file path={Text.lossy p} len={f.filled}"
  refine ⟨b, h.machine.log .debug .driver message, ?_, ?_, Machine.plain_log ..⟩
  · unfold finish
    simp only [hr]
    rfl
  · rw [Buffer.resize_eq_ok hr]
    exact Bytes.resized_of_le fits 0

theorem deeds_since_sized (h : Host) (fd : Descriptor) :
    (h.machine.since (h.sized fd).machine).deeds = [.size fd (h.machine.size fd).1] := by
  have : h.machine.since (h.machine.size fd).2 = [.call (.size fd (h.machine.size fd).1)] :=
    (Machine.since_eq_iff (Machine.before_size ..)).2 rfl
  unfold sized
  rw [this]
  rfl

theorem finish_readsOpen {run : Except Failure Fill × Host} {rs : List ReadRequest}
    {ending : ReadEnd} {hint : Nat} (ready : h.Ready) (onward : h.Onward run.2)
    (deeds : (h.machine.since run.2.machine).deeds = .size fd (.ok hint) :: readCalls fd rs)
    (granted : refusal? hint = none)
    (reads : Reads h.backend.kind (Lost h run.2) hint 0 rs ending)
    (empty : f.filled = 0) (filled : Filled f (gathered rs) ending run.1) (p : Path) :
    h.ReadsOpen fd (finish p run).2 (finish p run).1 := by
  obtain ⟨result, h'⟩ := run
  cases filled with
  | failed e => exact .failed granted reads deeds
  | @complete f' gained =>
    have noted : h'.Onward (finish p (.ok f', h')).2 := finish_onward (.refl onward.ready) p
    obtain ⟨b, m, hf, bytes, plain⟩ := finish_eq_ok (h := h') gained.fits p
    rw [hf] at noted ⊢
    have whole : b.bytes = gathered rs := by
      rw [bytes, gained.bytes, empty]
      rfl
    have deeds' : (h.machine.since m).deeds = .size fd (.ok hint) :: readCalls fd rs := by
      rw [← deeds]
      exact Machine.deeds_since (onward.before.trans noted.before) onward.before plain
    have causes := reads.imp fun e lost => lost.within (.refl ready) onward noted
    exact .complete granted causes whole deeds'

theorem readOpen_reads (ready : h.Ready) (fd : Descriptor) (p : Path) :
    h.ReadsOpen fd (h.readOpen fd p).2 (h.readOpen fd p).1 := by
  have asked := sized_onward ready fd
  have deeds := h.deeds_since_sized fd
  apply readOpen_cases (P := fun run => h.ReadsOpen fd run.2 run.1)
  · intro e answer
    rw [answer] at deeds
    exact .unsized deeds
  · intro hint e answer hb
    rw [answer] at deeds
    exact .refused (Buffer.withSize_eq_error_iff.1 hb) deeds
  · intro hint b answer hb
    rw [answer] at deeds
    have size : b.size = hint := Buffer.size_of_resize_eq_ok hb
    have granted : refusal? hint = none := by
      rw [← size]
      exact refusal?_eq_none_iff.2 b.size_lt_grantLimit
    obtain ⟨rs, ending, deeds', reads, filled⟩ :=
      readAll_reads (f := ⟨b, 0, h.issued⟩) asked.ready (Nat.le_refl _) fd (Nat.zero_le _)
    have onward := readAll_onward asked.ready fd ⟨b, 0, h.issued⟩
    have did : (h.machine.since ((h.sized fd).readAll fd ⟨b, 0, h.issued⟩).2.machine).deeds =
        .size fd (.ok hint) :: readCalls fd rs := by
      rw [Machine.since_trans asked.before onward.before, Journal.deeds_append, deeds, deeds']
      rfl
    have causes := reads.imp fun e lost => lost.within asked onward (.refl onward.ready)
    rw [asked.kind, size] at causes
    exact finish_readsOpen ready (asked.trans onward) did granted causes rfl filled p

end Host

/-! ## Whole files -/

theorem Driver.readFile_ends (d : Driver) (m : Machine) (p : Path) :
    (∃ e, Machine.Opens m p .read 0 (.error e) (d.readFile m p).machine ∧
      (d.readFile m p).result = .error (.error (.io e))) ∨
    ∃ fd n, Machine.Opens m p .read 0 (.ok fd) n ∧ m.Before n ∧
      (d.readFile m p).driver.backend = ((d.host n).readOpen fd p).2.backend ∧
      (d.readFile m p).result = ((d.host n).readOpen fd p).1 ∧
      (d.readFile m p).machine = (((d.host n).readOpen fd p).2.machine.close fd).2 := by
  have opens := m.openPath_opens p .read 0
  have before := m.before_openPath p .read 0
  unfold readFile
  cases ho : m.openPath p .read 0 with
  | mk answer n =>
    rw [ho] at opens before
    cases answer with
    | error e => exact .inl ⟨e, opens, rfl⟩
    | ok fd => exact .inr ⟨fd, n, opens, before, rfl, rfl, rfl⟩

/-- The file is not to be had, or it is opened, read and closed. -/
theorem Driver.readFile_reads {d : Driver} {m : Machine} (ready : (d.host m).Ready) (p : Path) :
    (∃ e, Machine.Opens m p .read 0 (.error e) (d.readFile m p).machine ∧
      (d.readFile m p).result = .error (.error (.io e))) ∨
    ∃ fd h h' tries closed, (d.host m).Onward h ∧ h.Onward h' ∧ h'.Onward (d.readFile m p).host ∧
      h.ReadsOpen fd h' (d.readFile m p).result ∧
      (m.since (d.readFile m p).machine).deeds =
        List.replicate tries (Machine.interruptedOpen p .read 0) ++
          .openFile p .read 0 (.ok fd) ::
            ((h.machine.since h'.machine).deeds ++ [.close fd closed]) := by
  rcases d.readFile_ends m p with
    ⟨e, opens, result⟩ | ⟨fd, n, opens, before, backend, result, closed⟩
  · exact .inl ⟨e, opens, result⟩
  · right
    have first : (d.host m).Onward (d.host n) := .of_before ready before
    have reads := Host.readOpen_reads first.ready fd p
    have onward := Host.readOpen_onward first.ready fd p
    rw [← result] at reads
    generalize ((d.host n).readOpen fd p).2 = h' at *
    have last : h'.Onward (d.readFile m p).host := by
      unfold Run.host
      rw [backend, closed]
      exact .of_before onward.ready (Machine.before_close ..)
    cases opens with
    | opened _ tries _ opening files path =>
      refine ⟨fd, d.host n, h', tries, (h'.machine.close fd).1, first, onward, last, reads, ?_⟩
      have middle : n.Before h'.machine := onward.before
      have ended := Machine.before_close h'.machine fd
      rw [closed, Machine.since_trans before (middle.trans ended), Machine.since_trans middle ended,
        Journal.deeds_append, Journal.deeds_append, opening, Machine.deeds_since_close,
        List.append_assoc]
      rfl

namespace Driver

/-- What the reads of a file come to that has reported the size `hint`. -/
inductive Sized (d : Driver) (m : Machine) (run : Run Failure Buffer) (hint : Nat) :
    List ReadRequest → Prop
  | refused {e : AllocError} (refusal : refusal? hint = some e)
      (result : run.result = .error (.error (.alloc e))) : Sized d m run hint []
  | failed {rs : List ReadRequest} {e : Error} (granted : refusal? hint = none)
      (reads : Reads d.backend.kind ((d.host m).Lost run.host) hint 0 rs (.failed e))
      (result : run.result = .error (.error e)) : Sized d m run hint rs
  | complete {rs : List ReadRequest} {b : Buffer} (granted : refusal? hint = none)
      (reads : Reads d.backend.kind ((d.host m).Lost run.host) hint 0 rs .complete)
      (whole : b.bytes = gathered rs) (result : run.result = .ok b) : Sized d m run hint rs

variable {d : Driver} {m : Machine} {p : Path} {fd : Descriptor} {hint : Nat}

/-- Once the file has reported its size, the reads follow. -/
theorem readFile_sized (ready : (d.host m).Ready)
    (sized : .size fd (.ok hint) ∈ (m.since (d.readFile m p).machine).deeds) :
    ∃ tries rs closed, d.Sized m (d.readFile m p) hint rs ∧
      (m.since (d.readFile m p).machine).deeds =
        List.replicate tries (Machine.interruptedOpen p .read 0) ++
          .openFile p .read 0 (.ok fd) :: .size fd (.ok hint) ::
            (readCalls fd rs ++ [.close fd closed]) := by
  rcases readFile_reads ready p with
    ⟨e, opens, -⟩ | ⟨fd', h, h', tries, closed, first, onward, last, reads, deeds⟩
  · generalize (d.readFile m p).machine = n at opens sized
    cases opens with
    | unspeakable =>
      rw [Machine.since_self] at sized
      cases sized
    | failed _ tries e _ deeds =>
      rw [deeds] at sized
      simp [Machine.interruptedOpen] at sized
  · rw [deeds] at sized
    have there : .size fd (.ok hint) ∈ (h.machine.since h'.machine).deeds := by
      simpa [Machine.interruptedOpen] using sized
    have causes {rs : List ReadRequest} {ending : ReadEnd}
        (reads : Reads h.backend.kind (h.Lost h') hint 0 rs ending) :
        Reads d.backend.kind ((d.host m).Lost (d.readFile m p).host) hint 0 rs ending := by
      rw [← show h.backend.kind = d.backend.kind from first.kind]
      exact reads.imp fun e lost => lost.within first onward last
    have unread {rs : List ReadRequest} : .size fd (.ok hint) ∉ readCalls fd' rs := by
      intro mem
      obtain ⟨r, -, answer, -, same⟩ := mem_readCalls mem
      cases same
    generalize answer : (d.readFile m p).result = result at reads
    cases reads with
    | unsized did =>
      rw [did] at there
      cases List.mem_singleton.1 there
    | refused refusal did =>
      rw [did] at there deeds
      cases List.mem_singleton.1 there
      exact ⟨tries, [], closed, .refused refusal answer, deeds⟩
    | failed granted reads did =>
      rw [did] at there deeds
      cases (List.mem_cons.1 there).resolve_right unread
      exact ⟨tries, _, closed, .failed granted (causes reads) answer, deeds⟩
    | complete granted reads whole did =>
      rw [did] at there deeds
      cases (List.mem_cons.1 there).resolve_right unread
      exact ⟨tries, _, closed, .complete granted (causes reads) whole answer, deeds⟩

end Driver

end WholeFile
