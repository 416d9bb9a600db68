import WholeFile.Driver.Transfer
import WholeFile.Proofs.Ring.Await

/-!
# Rings between transfers

Between transfers a ring is settled: the kernel owes it nothing, and what is still queued will
never be handed over. A transfer through a settled ring leaves it settled, whatever the kernel
answers.
-/

namespace WholeFile

/-! ## What arrives of an answer -/

/-- What the caller gets to see of a count or an error that travelled through a ring. -/
def delivered (answer : Except Errno Nat) : Except IoError Nat :=
  Completion.outcome ⟨0, encodedResult answer, none⟩

theorem delivered_ok (n : Nat) : delivered (.ok n) = .ok n :=
  Completion.outcome_of_nonneg (Int.natCast_nonneg n)

theorem delivered_error {e : Errno} (h : 0 < e.code) : delivered (.error e) = .error (.os e) := by
  apply Completion.outcome_encodedResult_error
  have positive : 0 < e.code.toInt := Int32.lt_iff_toInt_lt.1 h
  have small : e.code.toInt < 2 ^ 31 := Int32.toInt_lt e.code
  rw [Int32.toInt_neg]
  simp only [Int.bmod_def]
  omega

namespace Ring

/-! ## Settled rings -/

structure Settled (r : Ring) : Prop where
  inFlight : r.inFlight = []
  posted : r.posted = []
  abandoned : r.queued ≠ [] → r.poisoned = true
  capacity : 0 < r.capacity

theorem Settled.idle {r : Ring} (h : r.Settled) (sound : r.poisoned = false) : r.Idle where
  queued := by
    cases hq : r.queued with
    | nil => rfl
    | cons e es =>
      rw [h.abandoned (hq ▸ List.cons_ne_nil e es)] at sound
      cases sound
  inFlight := h.inFlight
  posted := h.posted

/-- A new ring, once it is had, is idle and not poisoned. -/
theorem create_eq_ok {m m' : Machine} {entries : Nat} {r : Ring}
    (h : create m entries = (.ok r, m')) : r = { capacity := entries.nextPowerOfTwo } := by
  have made {m m' : Machine} {r : Ring} (hs : m.setup entries = (.ok r, m')) :
      r = { capacity := entries.nextPowerOfTwo } := by
    have answer : (m.setup entries).1 = .ok r := by rw [hs]
    simp only [Machine.setup] at answer
    split at answer
    · cases answer
    · split at answer
      · cases answer
      · cases answer
        rfl
  unfold create at h
  split at h
  · cases h
  · next hs =>
    split at h
    · cases h
    · split at h
      · cases h
        exact made hs
      · cases h

theorem settled_of_create {m m' : Machine} {entries : Nat} {r : Ring}
    (h : create m entries = (.ok r, m')) : r.Settled := by
  rw [create_eq_ok h]
  refine ⟨rfl, rfl, fun hq => absurd rfl hq, ?_⟩
  exact Nat.pos_of_isPowerOfTwo (Nat.isPowerOfTwo_nextPowerOfTwo entries)

/-! ## One transfer -/

/-- The ring once it has given out a ticket. -/
def ticketed (r : Ring) : Ring := { r with issued := r.issued + 1 }

/-- How a transfer through a settled ring ends. -/
inductive Serves (r : Ring) (m : Machine) (e : Entry) (loan : Loan) :
    Except IoError Nat → Wait → Prop
  | refused (poisoned : r.poisoned = true) : Serves r m e loan (.error .ringPoisoned) ⟨m, r, loan⟩
  | carriedOut {w : Wait} (sound : r.poisoned = false) (poisoned : Bool)
      (quiet : w.quiet = (Wait.concluded ⟨m, r.ticketed, loan⟩ e poisoned).quiet)
      (cause : poisoned = true → ∃ a ∈ m.schedule.enter, a.Fails) :
      Serves r m e loan (delivered (Wait.answered ⟨m, r.ticketed, loan⟩ e)) w
  | givenUp {w : Wait} (sound : r.poisoned = false) (errno : Errno) (queued : Nat)
      (ne : errno ≠ .interrupted)
      (quiet : w.quiet = (Wait.holding ⟨m, r.ticketed, loan⟩ e).poisoned.quiet)
      (failed : .call (.enter queued (.error errno)) ∈ m.since w.machine)
      (cause : ∃ a ∈ m.schedule.enter, a.Fails) :
      Serves r m e loan (.error (.os errno)) w

theorem transfer_leads (r : Ring) (m : Machine) (fd : Descriptor) (offset : Nat) (t : Transfer)
    (loan : Loan) :
    (r.transfer m fd offset t loan).2 = ⟨m, r, loan⟩ ∨
      Wait.Leads ⟨m, r.push fd offset t, loan⟩ (r.transfer m fd offset t loan).2 := by
  refine (r.transfer_cases m fd offset t loan).imp_right fun waited => ?_
  rw [waited]
  exact Wait.leads_await ..

theorem before_transfer (r : Ring) (m : Machine) (fd : Descriptor) (offset : Nat) (t : Transfer)
    (loan : Loan) : m.Before (r.transfer m fd offset t loan).2.machine := by
  rcases r.transfer_leads m fd offset t loan with refused | leads
  · rw [refused]
    exact .refl m
  · exact leads.before

theorem issued_transfer (r : Ring) (m : Machine) (fd : Descriptor) (offset : Nat) (t : Transfer)
    (loan : Loan) : r.issued ≤ (r.transfer m fd offset t loan).2.ring.issued := by
  rcases r.transfer_leads m fd offset t loan with refused | leads
  · exact Nat.le_of_eq (congrArg (·.ring.issued) refused).symm
  · rw [leads.issued]
    exact Nat.le_succ _

variable {r : Ring} {m : Machine}

theorem transfer_serves (settled : r.Settled) (strayless : m.schedule.Strayless) (fd : Descriptor)
    (offset : Nat) (t : Transfer) (loan : Loan) :
    Serves r m ⟨r.issued, fd, offset, t⟩ loan (r.transfer m fd offset t loan).1
      (r.transfer m fd offset t loan).2 := by
  unfold transfer
  cases hp : r.poisoned with
  | true => exact .refused hp
  | false =>
    have idle := settled.idle hp
    have room : ¬ r.capacity ≤ r.queued.length := by
      rw [idle.queued]
      exact Nat.not_le.2 settled.capacity
    rw [if_neg Bool.false_ne_true, if_neg room]
    have pushed : (⟨m, r.push fd offset t, loan⟩ : Wait) =
        Wait.holding ⟨m, r.ticketed, loan⟩ ⟨r.issued, fd, offset, t⟩ := by
      simp [push, Wait.holding, ticketed, idle.queued]
    have idle' : r.ticketed.Idle := ⟨idle.queued, idle.inFlight, idle.posted⟩
    have ends := Wait.await_concludes (b := ⟨m, r.ticketed, loan⟩)
      (w := ⟨m, r.push fd offset t, loan⟩) idle' strayless (.queued (congrArg Wait.quiet pushed)) rfl
      (r.tag_mem_owed_push fd offset t)
    generalize (Wait.await _ _ _).1 = result at ends ⊢
    generalize (Wait.await _ _ _).2 = w at ends ⊢
    cases ends with
    | carriedOut poisoned quiet cause =>
      refine .carriedOut hp poisoned quiet fun h => (cause h).resolve_left ?_
      rw [show (⟨m, r.ticketed, loan⟩ : Wait).ring.poisoned = false from hp]
      exact Bool.false_ne_true
    | givenUp errno queued ne quiet failed cause =>
      exact .givenUp hp errno queued ne quiet failed cause

/-- What is left of the ring, and which memory it had. -/
theorem Serves.settled {e : Entry} {loan : Loan} {result : Except IoError Nat} {w : Wait}
    (settled : r.Settled) (serves : Serves r m e loan result w) : w.ring.Settled := by
  cases serves with
  | refused poisoned => exact settled
  | carriedOut sound poisoned quiet cause =>
    rw [Wait.ring_of_quiet quiet]
    have idle := settled.idle sound
    exact ⟨idle.inFlight, idle.posted, fun hq => absurd idle.queued hq, settled.capacity⟩
  | givenUp sound errno queued ne quiet failed cause =>
    rw [Wait.ring_of_quiet quiet]
    exact ⟨settled.inFlight, settled.posted, fun _ => rfl, settled.capacity⟩

theorem settled_transfer (settled : r.Settled) (strayless : m.schedule.Strayless) (fd : Descriptor)
    (offset : Nat) (t : Transfer) (loan : Loan) :
    (r.transfer m fd offset t loan).2.ring.Settled :=
  (transfer_serves settled strayless fd offset t loan).settled settled

end Ring

end WholeFile
