import WholeFile.Driver.ReadFile
import WholeFile.Proofs.Ring.Settled

/-!
# One attempt at a transfer

Over either backend, one attempt does what the blocking call would do, or nothing at all. Nothing
happens only where the ring is poisoned, or is by now.
-/

namespace WholeFile

/-! ## What kernels keep to -/

/-- Every completion is that of an entry, and error numbers are positive. -/
structure Schedule.Honest (s : Schedule) : Prop where
  strayless : s.Strayless
  read : ∀ a ∈ s.read, ∀ e, a.errno = some e → 0 < e.code
  write : ∀ a ∈ s.write, ∀ e, a.errno = some e → 0 < e.code

theorem Schedule.Honest.of_leftOf {s t : Schedule} (ht : t.Honest) (h : s.LeftOf t) : s.Honest where
  strayless := ht.strayless.of_leftOf h
  read a ha := ht.read a (h.read.subset ha)
  write a ha := ht.write a (h.write.subset ha)

/-! ## Backends and hosts -/

namespace Backend

def kind : Backend → DriverKind
  | .blocking => .blocking
  | .ring _ => .ring

def poisoned : Backend → Bool
  | .blocking => false
  | .ring r => r.poisoned

end Backend

/-- How many of `n` bytes one request asks for. -/
def DriverKind.limited : DriverKind → Nat → Nat
  | .ring, n => min n maxRequest
  | _, n => n

theorem DriverKind.limited_le (k : DriverKind) (n : Nat) : k.limited n ≤ n := by
  cases k
  · exact Nat.le_refl n
  · exact Nat.le_refl n
  · exact Nat.min_le_left ..

theorem DriverKind.limited_pos (k : DriverKind) {n : Nat} (h : 0 < n) : 0 < k.limited n := by
  cases k
  · exact h
  · exact h
  · exact Nat.lt_min.2 ⟨h, by decide⟩

namespace Host

/-- Nothing is left over from earlier transfers. -/
def Ready (h : Host) : Prop :=
  match h.backend with
  | .blocking => True
  | .ring r => r.Settled ∧ h.machine.schedule.Honest

/-- `h'` is what `h` has become by calls. -/
structure Onward (h h' : Host) : Prop where
  before : h.machine.Before h'.machine
  ready : h'.Ready
  kind : h'.backend.kind = h.backend.kind
  issued : h.issued ≤ h'.issued
  sealed : h.backend.poisoned = true → h'.backend.poisoned = true
  cause : h'.backend.poisoned = true →
    h.backend.poisoned = true ∨ ∃ a ∈ h.machine.schedule.enter, a.Fails

theorem Onward.refl {h : Host} (ready : h.Ready) : h.Onward h :=
  ⟨.refl _, ready, rfl, Nat.le_refl _, id, .inl⟩

theorem Onward.trans {h h' h'' : Host} (o : h.Onward h') (o' : h'.Onward h'') : h.Onward h'' where
  before := o.before.trans o'.before
  ready := o'.ready
  kind := o'.kind.trans o.kind
  issued := Nat.le_trans o.issued o'.issued
  sealed := o'.sealed ∘ o.sealed
  cause poisoned := by
    rcases o'.cause poisoned with now | ⟨a, ha, fails⟩
    · exact o.cause now
    · exact .inr ⟨a, o.before.schedule.enter.subset ha, fails⟩

/-- Calls that do not go through the backend. -/
theorem Onward.of_before {h : Host} (ready : h.Ready) {m : Machine} (before : h.machine.Before m) :
    h.Onward { h with machine := m } where
  before := before
  ready := by
    obtain ⟨n, backend⟩ := h
    cases backend with
    | blocking => exact trivial
    | ring r => exact ⟨ready.1, ready.2.of_leftOf before.schedule⟩
  kind := rfl
  issued := Nat.le_refl _
  sealed := id
  cause := .inl

end Host

/-! ## What one transfer does -/

/-- A transfer that has been carried out: the answer, the memory lent, and the machine. -/
structure Performed where
  answer : Except Errno Nat
  loan : Loan
  machine : Machine

/-- The blocking call that does what the transfer asks for. -/
def Machine.perform (m : Machine) (fd : Descriptor) (offset : Nat) (t : Transfer) (loan : Loan) :
    Performed :=
  match t with
  | .read length target =>
    let (answer, m) := m.read fd length offset
    ⟨answer.map List.length, loan.landed offset target answer, m⟩
  | .write bytes =>
    let (answer, m) := m.write fd bytes offset
    ⟨answer, loan, m⟩

namespace Machine

theorem transferIn_error_pos {m : Machine} (honest : m.schedule.Honest) {fd : Descriptor}
    {length offset : Nat} {e : Errno} (h : (m.transferIn fd length offset).1 = .error e) :
    0 < e.code := by
  have scheduled {e : Errno} (he : (next ({} : ReadAnswer) m.schedule.read).1.errno = some e) :
      0 < e.code := by
    cases hq : m.schedule.read with
    | nil =>
      rw [hq] at he
      cases he
    | cons a rest =>
      rw [hq] at he
      exact honest.read a (hq ▸ List.mem_cons_self) e he
  simp only [transferIn] at h
  split at h
  · next e' he =>
    cases h
    exact scheduled he
  · cases h
    decide
  · split at h
    · cases h
      decide
    · cases h

theorem transferOut_error_pos {m : Machine} (honest : m.schedule.Honest) {fd : Descriptor}
    {bytes : Bytes} {offset : Nat} {e : Errno} (h : (m.transferOut fd bytes offset).1 = .error e) :
    0 < e.code := by
  have scheduled {e : Errno} (he : (next ({} : WriteAnswer) m.schedule.write).1.errno = some e) :
      0 < e.code := by
    cases hq : m.schedule.write with
    | nil =>
      rw [hq] at he
      cases he
    | cons a rest =>
      rw [hq] at he
      exact honest.write a (hq ▸ List.mem_cons_self) e he
  simp only [transferOut] at h
  split at h
  · next e' he =>
    cases h
    exact scheduled he
  · cases h
    decide
  · split at h <;> cases h

theorem before_perform (m : Machine) (fd : Descriptor) (offset : Nat) (t : Transfer) (loan : Loan) :
    m.Before (m.perform fd offset t loan).machine := by
  cases t with
  | read length target => exact before_read ..
  | write bytes => exact before_write ..

end Machine

theorem delivered_eq {answer : Except Errno Nat} (h : ∀ e, answer = .error e → 0 < e.code) :
    delivered answer = answer.mapError .os := by
  cases answer with
  | ok n => exact delivered_ok n
  | error e => exact delivered_error (h e rfl)

namespace Wait

/-- Carrying out an entry is performing its transfer. -/
theorem machine_execute (w : Wait) (e : Entry) :
    (w.execute e).machine.plain = (w.machine.perform e.fd e.offset e.transfer w.loan).machine.plain := by
  unfold execute Machine.perform
  cases e.transfer with
  | read length target =>
    simp only [Machine.read]
    rw [Machine.plain_record (c := .ringRead ..) rfl, Machine.plain_record (c := .read ..) rfl]
  | write bytes =>
    simp only [Machine.write]
    rw [Machine.plain_record (c := .ringWrite ..) rfl, Machine.plain_record (c := .write ..) rfl]

theorem answered_eq (w : Wait) (e : Entry) :
    w.answered e = (w.machine.perform e.fd e.offset e.transfer w.loan).answer := by
  unfold answered Machine.perform
  cases e.transfer <;> rfl

theorem loan_execute {w : Wait} {e : Entry} (since : w.loan.since ≤ e.ticket) :
    (w.execute e).loan = (w.machine.perform e.fd e.offset e.transfer w.loan).loan := by
  unfold execute Machine.perform
  cases e.transfer with
  | read length target => simp [Machine.read, Loan.receive, since]
  | write bytes => rfl

theorem delivered_answered {w : Wait} (honest : w.machine.schedule.Honest) (e : Entry) :
    delivered (w.answered e) = (w.answered e).mapError .os := by
  apply delivered_eq
  intro errno h
  unfold answered at h
  split at h
  · next length target _ =>
    cases hr : (w.machine.transferIn e.fd length e.offset).1 with
    | ok bytes =>
      rw [hr] at h
      cases h
    | error e =>
      rw [hr] at h
      cases h
      exact Machine.transferIn_error_pos honest hr
  · exact Machine.transferOut_error_pos honest h

end Wait

/-! ## How an attempt ends -/

namespace Host

/-- Why an attempt came to nothing. -/
inductive Refuses (h : Host) (a : Attempt) : IoError → Prop
  | poisoned (sealed : h.backend.poisoned = true) (same : a.host = h) : Refuses h a .ringPoisoned
  | waitFailed (sound : h.backend.poisoned = false) (errno : Errno) (ne : errno ≠ .interrupted)
      (failed : ∃ queued, .call (.enter queued (.error errno)) ∈ h.machine.since a.host.machine)
      (cause : ∃ x ∈ h.machine.schedule.enter, x.Fails)
      (sealed : a.host.backend.poisoned = true) : Refuses h a (.os errno)

/-- An attempt at the transfer `t` either did what the blocking call would do, or nothing. -/
inductive Tries (h : Host) (fd : Descriptor) (offset : Nat) (t : Transfer) (loan : Loan)
    (a : Attempt) : Prop
  | answered
      (result : a.result = (h.machine.perform fd offset t loan).answer.mapError .os)
      (lent : a.loan = (h.machine.perform fd offset t loan).loan)
      (plain : a.host.machine.plain = (h.machine.perform fd offset t loan).machine.plain)
  | refused (e : IoError) (why : h.Refuses a e) (result : a.result = .error e)
      (lent : a.loan = loan) (plain : a.host.machine.plain = h.machine.plain)

theorem Refuses.not_interrupted {h : Host} {a : Attempt} {e : IoError} (why : h.Refuses a e) :
    e.isInterrupted = false := by
  cases why with
  | poisoned => rfl
  | waitFailed sound errno ne =>
    apply Bool.eq_false_iff.2
    intro hi
    exact ne (isInterrupted_os.1 hi)

end Host

namespace Ring

variable {r : Ring} {m : Machine} {loan : Loan}

/-- What becomes of a transfer, as a host with that ring would tell it. -/
def attempt (r : Ring) (m : Machine) (fd : Descriptor) (offset : Nat) (t : Transfer) (loan : Loan) :
    Attempt :=
  let ended := r.transfer m fd offset t loan
  ⟨ended.1, ended.2.loan, ended.2.machine, .ring ended.2.ring⟩

theorem onward_attempt (settled : r.Settled) (honest : m.schedule.Honest) (fd : Descriptor)
    (offset : Nat) (t : Transfer) (loan : Loan) :
    Host.Onward ⟨m, .ring r⟩ (r.attempt m fd offset t loan).host := by
  have before := before_transfer r m fd offset t loan
  have serves := transfer_serves settled honest.strayless fd offset t loan
  have after := settled_transfer settled honest.strayless fd offset t loan
  simp only [attempt]
  generalize (r.transfer m fd offset t loan).1 = result at serves
  generalize (r.transfer m fd offset t loan).2 = w at before serves after ⊢
  have ready : Host.Ready ⟨w.machine, .ring w.ring⟩ := ⟨after, honest.of_leftOf before.schedule⟩
  cases serves with
  | refused poisoned =>
    exact .refl (h := ⟨m, .ring r⟩) ⟨settled, honest⟩
  | carriedOut sound poisoned quiet cause =>
    refine ⟨before, ready, rfl, ?_, ?_, ?_⟩
    · change r.issued ≤ w.ring.issued
      rw [Wait.ring_of_quiet quiet]
      exact Nat.le_succ _
    · intro sealed
      rw [show r.poisoned = true from sealed] at sound
      cases sound
    · intro sealed
      right
      apply cause
      rw [← show w.ring.poisoned = true from sealed, Wait.ring_of_quiet quiet]
      rfl
  | givenUp sound errno queued ne quiet failed cause =>
    refine ⟨before, ready, rfl, ?_, ?_, fun _ => .inr cause⟩
    · change r.issued ≤ w.ring.issued
      rw [Wait.ring_of_quiet quiet]
      exact Nat.le_succ _
    · intro _
      change w.ring.poisoned = true
      rw [Wait.ring_of_quiet quiet]
      rfl

theorem attempt_tries (settled : r.Settled) (honest : m.schedule.Honest)
    (since : loan.since ≤ r.issued) (fd : Descriptor) (offset : Nat) (t : Transfer) :
    Host.Tries ⟨m, .ring r⟩ fd offset t loan (r.attempt m fd offset t loan) := by
  have serves := transfer_serves settled honest.strayless fd offset t loan
  simp only [attempt]
  generalize (r.transfer m fd offset t loan).1 = result at serves ⊢
  generalize (r.transfer m fd offset t loan).2 = w at serves ⊢
  cases serves with
  | refused poisoned => exact .refused _ (.poisoned poisoned rfl) rfl rfl rfl
  | carriedOut sound poisoned quiet cause =>
    refine .answered ?_ ?_ ?_
    · rw [Wait.delivered_answered honest, Wait.answered_eq]
    · rw [Wait.loan_of_quiet quiet]
      exact Wait.loan_execute (w := ⟨m, r.ticketed, loan⟩) since
    · rw [Machine.plain_eq_of_quiet_eq (Wait.machine_of_quiet quiet)]
      exact Wait.machine_execute ⟨m, r.ticketed, loan⟩ _
  | givenUp sound errno queued ne quiet failed cause =>
    refine .refused _ (.waitFailed (h := ⟨m, .ring r⟩) sound errno ne ⟨queued, failed⟩ cause ?_)
      rfl ?_ ?_
    · change w.ring.poisoned = true
      rw [Wait.ring_of_quiet quiet]
      rfl
    · rw [Wait.loan_of_quiet quiet]
      rfl
    · rw [Machine.plain_eq_of_quiet_eq (Wait.machine_of_quiet quiet)]
      rfl

end Ring

namespace Host

variable {h : Host}

theorem tryRead_onward (ready : h.Ready) (fd : Descriptor) (offset : Nat) (target : Target)
    (loan : Loan) : h.Onward (h.tryRead fd offset target loan).host := by
  obtain ⟨m, backend⟩ := h
  cases backend with
  | blocking => exact Onward.of_before ready (m.before_read ..)
  | ring r => exact Ring.onward_attempt ready.1 ready.2 fd offset _ loan

theorem tryWrite_onward (ready : h.Ready) (fd : Descriptor) (offset : Nat) (bytes : Bytes) :
    h.Onward (h.tryWrite fd offset bytes).host := by
  obtain ⟨m, backend⟩ := h
  cases backend with
  | blocking => exact Onward.of_before ready (m.before_write ..)
  | ring r => exact Ring.onward_attempt ready.1 ready.2 fd offset _ _

/-- What a read asks for. -/
def reading (h : Host) (offset : Nat) (target : Target) (loan : Loan) : Transfer :=
  .read (h.backend.kind.limited (loan.room offset target)) target

/-- What a write asks for. -/
def writing (h : Host) (bytes : Bytes) : Transfer :=
  .write (bytes.take (h.backend.kind.limited bytes.length))

theorem writing_of_blocking (m : Machine) (bytes : Bytes) :
    (⟨m, .blocking⟩ : Host).writing bytes = .write bytes := congrArg Transfer.write List.take_length

theorem writing_of_ring (m : Machine) (r : Ring) (bytes : Bytes) :
    (⟨m, .ring r⟩ : Host).writing bytes = .write (bytes.take maxRequest) := by
  change Transfer.write (bytes.take (min bytes.length maxRequest)) = _
  rw [Nat.min_comm, ← List.take_eq_take_min]

theorem tryRead_tries (ready : h.Ready) (fd : Descriptor) (offset : Nat) (target : Target)
    {loan : Loan} (since : loan.since ≤ h.issued) :
    h.Tries fd offset (h.reading offset target loan) loan (h.tryRead fd offset target loan) := by
  obtain ⟨m, backend⟩ := h
  cases backend with
  | blocking => exact .answered rfl rfl rfl
  | ring r => exact Ring.attempt_tries ready.1 ready.2 since fd offset _

theorem tryWrite_tries (ready : h.Ready) (fd : Descriptor) (offset : Nat) (bytes : Bytes) :
    h.Tries fd offset (h.writing bytes) (.nothing h.issued) (h.tryWrite fd offset bytes) := by
  obtain ⟨m, backend⟩ := h
  cases backend with
  | blocking =>
    rw [writing_of_blocking]
    exact .answered rfl rfl rfl
  | ring r =>
    rw [writing_of_ring]
    exact Ring.attempt_tries ready.1 ready.2 (Nat.le_refl _) fd offset _

end Host

end WholeFile
