import WholeFile.Proofs.Driver.Reached

/-!
# Transfers that outlast signals

A transfer is made again until it is not interrupted. All attempts but the last one were answered
with an interruption, and the last one comes to what the whole comes to.
-/

namespace WholeFile

/-- The call that an interrupted attempt makes. -/
def Transfer.interrupted (t : Transfer) (fd : Descriptor) (offset : Nat) : Call :=
  match t with
  | read length _ => .read fd length offset (.error .interrupted)
  | write bytes => .write fd bytes offset (.error .interrupted)

namespace Machine

/-- The call that performing the transfer is. -/
def deed (m : Machine) (fd : Descriptor) (offset : Nat) (t : Transfer) : Call :=
  match t with
  | .read length _ => .read fd length offset (m.read fd length offset).1
  | .write bytes => .write fd bytes offset (m.write fd bytes offset).1

theorem deeds_since_perform (m : Machine) (fd : Descriptor) (offset : Nat) (t : Transfer)
    (loan : Loan) : (m.since (m.perform fd offset t loan).machine).deeds = [m.deed fd offset t] := by
  cases t with
  | read length target =>
    have before := m.before_transferIn fd length offset
    have moved : m.since (m.transferIn fd length offset).2 = [] := by
      rw [since_eq_iff before, journal_transferIn, List.append_nil]
    simp only [perform, read]
    rw [since_record before, moved]
    rfl
  | write bytes =>
    have before := m.before_transferOut fd bytes offset
    have moved : m.since (m.transferOut fd bytes offset).2 = [] := by
      rw [since_eq_iff before, journal_transferOut, List.append_nil]
    simp only [perform, write]
    rw [since_record before, moved]
    rfl

variable {m : Machine} {fd : Descriptor} {offset : Nat} {t : Transfer} {loan : Loan}

theorem deed_of_interrupted (h : (m.perform fd offset t loan).answer = .error .interrupted) :
    m.deed fd offset t = t.interrupted fd offset := by
  cases t with
  | read length target =>
    simp only [deed, Transfer.interrupted]
    cases hr : (m.read fd length offset).1 with
    | ok bytes =>
      simp only [perform, hr] at h
      cases h
    | error e =>
      simp only [perform, hr] at h
      cases h
      rfl
  | write bytes =>
    have answer : (m.write fd bytes offset).1 = .error .interrupted := h
    simp only [deed, Transfer.interrupted, answer]

/-- What fails delivers nothing. -/
theorem loan_perform_of_error {e : Errno} (h : (m.perform fd offset t loan).answer = .error e) :
    (m.perform fd offset t loan).loan = loan := by
  cases t with
  | read length target =>
    cases hr : (m.read fd length offset).1 with
    | ok bytes =>
      simp only [perform, hr] at h
      cases h
    | error e => simp only [perform, hr, Loan.landed]
  | write bytes => rfl

end Machine

namespace Attempt

theorem interrupted_of_error {a : Attempt} {e : IoError} (h : a.result = .error e) :
    a.interrupted = e.isInterrupted := by
  unfold interrupted
  rw [h]

theorem interrupted_of_answer {a : Attempt} {answer : Except Errno Nat}
    (h : a.result = answer.mapError .os) :
    a.interrupted = true ↔ answer = .error .interrupted := by
  unfold interrupted
  cases answer with
  | ok n =>
    have delivered : a.result = .ok n := h
    simp [delivered]
  | error e =>
    have failed : a.result = .error (.os e) := h
    simp [failed, isInterrupted_os]

end Attempt

namespace Host

/-- From the first host to the second, the transfer `t` is attempted and interrupted. -/
inductive Retries (fd : Descriptor) (offset : Nat) (t : Transfer) : Host → Host → Prop
  | none (h : Host) : Retries fd offset t h h
  | again {h h' h'' : Host} (loan : Loan)
      (answer : (h.machine.perform fd offset t loan).answer = .error .interrupted)
      (plain : h'.machine.plain = (h.machine.perform fd offset t loan).machine.plain)
      (onward : h.Onward h') (rest : Retries fd offset t h' h'') : Retries fd offset t h h''

variable {h h' : Host} {fd : Descriptor} {offset : Nat} {t : Transfer} {loan : Loan} {a : Attempt}

theorem Retries.onward (retries : Retries fd offset t h h') (ready : h.Ready) : h.Onward h' := by
  induction retries with
  | none => exact .refl ready
  | again loan answer plain onward rest ih => exact onward.trans (ih onward.ready)

/-- What the interrupted attempts have done. -/
theorem Retries.deeds (retries : Retries fd offset t h h') (ready : h.Ready) :
    ∃ k, (h.machine.since h'.machine).deeds = List.replicate k (t.interrupted fd offset) := by
  induction retries with
  | none h =>
    refine ⟨0, ?_⟩
    rw [Machine.since_self]
    rfl
  | @again h h' h'' loan answer plain onward rest ih =>
    obtain ⟨k, deeds⟩ := ih onward.ready
    refine ⟨k + 1, ?_⟩
    rw [Machine.since_trans onward.before (rest.onward onward.ready).before, Journal.deeds_append,
      deeds, Machine.deeds_since onward.before (Machine.before_perform ..) plain,
      Machine.deeds_since_perform, Machine.deed_of_interrupted answer, List.replicate_succ]
    rfl

/-- An attempt that is interrupted was answered so. -/
theorem Tries.of_interrupted (tries : h.Tries fd offset t loan a) (hi : a.interrupted = true) :
    (h.machine.perform fd offset t loan).answer = .error .interrupted ∧
      a.loan = (h.machine.perform fd offset t loan).loan ∧
      a.host.machine.plain = (h.machine.perform fd offset t loan).machine.plain := by
  cases tries with
  | answered result lent plain => exact ⟨(Attempt.interrupted_of_answer result).1 hi, lent, plain⟩
  | refused e why result =>
    rw [Attempt.interrupted_of_error result, why.not_interrupted] at hi
    cases hi

/-- All attempts but the last were interrupted. -/
theorem writeAt_retries (ready : h.Ready) (fd : Descriptor) (offset : Nat) (bytes : Bytes) :
    ∃ h', Retries fd offset (h.writing bytes) h h' ∧
      h'.Tries fd offset (h.writing bytes) (.nothing h'.issued) (h.writeAt fd offset bytes) ∧
      h'.Onward (h.writeAt fd offset bytes).host ∧
      (h.writeAt fd offset bytes).interrupted = false := by
  fun_induction writeAt h fd offset bytes with
  | case1 h a hi ih =>
    have onward : h.Onward a.host := tryWrite_onward ready ..
    have tries : h.Tries fd offset (h.writing bytes) (.nothing h.issued) a := tryWrite_tries ready ..
    have same : a.host.writing bytes = h.writing bytes := by
      unfold writing
      rw [onward.kind]
    obtain ⟨answer, -, plain⟩ := tries.of_interrupted hi
    obtain ⟨h', retries, last⟩ := ih onward.ready
    rw [same] at retries last
    exact ⟨h', .again _ answer plain onward retries, last⟩
  | case2 h a hi =>
    exact ⟨h, .none h, tryWrite_tries ready .., tryWrite_onward ready .., by simpa using hi⟩

theorem readAt_retries (ready : h.Ready) (fd : Descriptor) (offset : Nat) (target : Target)
    (since : loan.since ≤ h.issued) :
    ∃ h', Retries fd offset (h.reading offset target loan) h h' ∧
      h'.Tries fd offset (h.reading offset target loan) loan (h.readAt fd offset target loan) ∧
      h'.Onward (h.readAt fd offset target loan).host ∧
      (h.readAt fd offset target loan).interrupted = false := by
  fun_induction readAt h fd offset target loan with
  | case1 h loan a hi ih =>
    have onward : h.Onward a.host := tryRead_onward ready ..
    have tries : h.Tries fd offset (h.reading offset target loan) loan a :=
      tryRead_tries ready _ _ _ since
    obtain ⟨answer, lent, plain⟩ := tries.of_interrupted hi
    -- Nothing was delivered, so the next attempt has the same room.
    have kept : a.loan = loan := by rw [lent, Machine.loan_perform_of_error answer]
    have same : a.host.reading offset target loan = h.reading offset target loan := by
      unfold reading
      rw [onward.kind]
    rw [kept] at ih ⊢
    obtain ⟨h', retries, last⟩ := ih onward.ready (Nat.le_trans since onward.issued)
    rw [same] at retries last
    exact ⟨h', .again _ answer plain onward retries, last⟩
  | case2 h loan a hi =>
    exact ⟨h, .none h, tryRead_tries ready _ _ _ since, tryRead_onward ready .., by simpa using hi⟩

/-! ## Requests that were not served -/

/-- Why a backend did not serve a request, between two hosts. -/
inductive Lost (h h' : Host) : IoError → Prop
  | poisoned (sealed : h'.backend.poisoned = true) : Lost h h' .ringPoisoned
  | waitFailed (sealed : h'.backend.poisoned = true) (e : Errno) (ne : e ≠ .interrupted)
      (failed : ∃ queued, .call (.enter queued (.error e)) ∈ h.machine.since h'.machine) :
      Lost h h' (.os e)

theorem Refuses.lost {h : Host} {a : Attempt} {e : IoError} (why : h.Refuses a e) :
    Lost h a.host e := by
  cases why with
  | poisoned sealed same =>
    rw [same]
    exact .poisoned sealed
  | waitFailed sound errno ne failed cause sealed => exact .waitFailed sealed errno ne failed

theorem Lost.within {h h₁ h₂ h' : Host} {e : IoError} (lost : Lost h₁ h₂ e) (first : h.Onward h₁)
    (second : h₁.Onward h₂) (third : h₂.Onward h') : Lost h h' e := by
  cases lost with
  | poisoned sealed => exact .poisoned (third.sealed sealed)
  | waitFailed sealed e ne failed =>
    refine .waitFailed (third.sealed sealed) e ne ?_
    obtain ⟨queued, recorded⟩ := failed
    refine ⟨queued, ?_⟩
    rw [Machine.since_trans first.before (second.trans third).before,
      Machine.since_trans second.before third.before]
    exact List.mem_append_right _ (List.mem_append_left _ recorded)

/-! ## How transfers end -/

/-- How a transfer ends that is made again for as long as it is interrupted. -/
inductive Outlasts (h : Host) (fd : Descriptor) (offset : Nat) (t : Transfer) (loan : Loan)
    (a : Attempt) : Prop
  | answered {h' : Host} (retries : Retries fd offset t h h') (k : Nat)
      (deeds : (h.machine.since a.host.machine).deeds =
        List.replicate k (t.interrupted fd offset) ++ [h'.machine.deed fd offset t])
      (ne : (h'.machine.perform fd offset t loan).answer ≠ .error .interrupted)
      (result : a.result = (h'.machine.perform fd offset t loan).answer.mapError .os)
      (lent : a.loan = (h'.machine.perform fd offset t loan).loan)
      (plain : a.host.machine.plain = (h'.machine.perform fd offset t loan).machine.plain)
  | lost {h' : Host} (retries : Retries fd offset t h h') (k : Nat)
      (deeds : (h.machine.since a.host.machine).deeds =
        List.replicate k (t.interrupted fd offset))
      {e : IoError} (why : Lost h a.host e) (result : a.result = .error e) (lent : a.loan = loan)
      (plain : a.host.machine.plain = h'.machine.plain)

theorem Retries.outlasts {h h' : Host} {fd : Descriptor} {offset : Nat} {t : Transfer} {loan : Loan}
    {a : Attempt} (retries : Retries fd offset t h h') (ready : h.Ready)
    (tries : h'.Tries fd offset t loan a) (last : h'.Onward a.host) (hi : a.interrupted = false) :
    h.Outlasts fd offset t loan a := by
  have first := retries.onward ready
  obtain ⟨k, deeds⟩ := retries.deeds ready
  cases tries with
  | refused e why result lent plain =>
    refine .lost retries k ?_ (why.lost.within first last (.refl last.ready)) result lent plain
    rw [Machine.since_trans first.before last.before, Journal.deeds_append, deeds,
      Machine.deeds_since last.before (.refl _) plain, Machine.since_self]
    exact List.append_nil _
  | answered result lent plain =>
    refine .answered retries k ?_ ?_ result lent plain
    · rw [Machine.since_trans first.before last.before, Journal.deeds_append, deeds,
        Machine.deeds_since last.before (Machine.before_perform ..) plain,
        Machine.deeds_since_perform]
    · intro interrupted
      rw [(Attempt.interrupted_of_answer result).2 interrupted] at hi
      cases hi

theorem writeAt_outlasts {h : Host} (ready : h.Ready) (fd : Descriptor) (offset : Nat)
    (bytes : Bytes) :
    ∃ issued, h.Outlasts fd offset (h.writing bytes) (.nothing issued)
      (h.writeAt fd offset bytes) := by
  obtain ⟨h', retries, tries, last, hi⟩ := writeAt_retries ready fd offset bytes
  exact ⟨_, retries.outlasts ready tries last hi⟩

theorem readAt_outlasts {h : Host} (ready : h.Ready) (fd : Descriptor) (offset : Nat)
    (target : Target) {loan : Loan} (since : loan.since ≤ h.issued) :
    h.Outlasts fd offset (h.reading offset target loan) loan (h.readAt fd offset target loan) := by
  obtain ⟨h', retries, tries, last, hi⟩ := readAt_retries ready fd offset target since
  exact retries.outlasts ready tries last hi

end Host

end WholeFile
