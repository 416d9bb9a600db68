import WholeFile.Driver.Transfer
import WholeFile.Proofs.Ring.Await

/-!
# How many calls a wait takes

A wait makes calls only as long as there are answers to come that keep it from ending, and the
kernel makes one for each entry that is queued. So what has been called and what can be called yet
is at most one call more after a wait than it was before.
-/

namespace WholeFile

/-! ## Counting calls -/

/-- How many calls have been made. -/
def Machine.callCount (m : Machine) : Nat := m.journal.calls.length

namespace Machine

theorem callCount_of_call {m n : Machine} {c : Call}
    (journal : n.journal = m.journal ++ [.call c]) : n.callCount = m.callCount + 1 := by
  unfold callCount
  rw [journal, Journal.calls_append, List.length_append]
  rfl

theorem callCount_log (m : Machine) (level : LogLevel) (source : LogSource) (message : String) :
    (m.log level source message).callCount = m.callCount := by
  unfold callCount
  rw [log, Journal.calls_append, List.length_append]
  rfl

/-- What has been called since then is what the count has gone up by. -/
theorem Before.callCount_eq {m n : Machine} (before : m.Before n) :
    n.callCount = m.callCount + (m.since n).calls.length := by
  unfold callCount
  rw [before.journal_eq, Journal.calls_append, List.length_append]

end Machine

namespace Wait

/-- The calls made, and those that entries and answers to come stand for. -/
def tally (w : Wait) : Nat :=
  w.machine.callCount + w.machine.schedule.enter.length + w.ring.queued.length

/-! ## What the kernel does -/

theorem callCount_execute (w : Wait) (e : Entry) :
    (w.execute e).machine.callCount = w.machine.callCount + 1 := by
  unfold execute
  split
  · next length _ _ =>
    have journal := w.machine.journal_transferIn e.fd length e.offset
    exact Machine.callCount_of_call (congrArg (· ++ [_]) journal)
  · next bytes _ =>
    have journal := w.machine.journal_transferOut e.fd bytes e.offset
    exact Machine.callCount_of_call (congrArg (· ++ [_]) journal)

theorem callCount_takeQueued (w : Wait) :
    w.takeQueued.machine.callCount = w.machine.callCount + w.ring.queued.length := by
  have (es : List Entry) (w : Wait) :
      (es.foldl execute w).machine.callCount = w.machine.callCount + es.length := by
    induction es generalizing w with
    | nil => rfl
    | cons e es ih =>
      rw [List.foldl_cons, ih, callCount_execute, List.length_cons]
      omega
  rw [takeQueued, this]

theorem tally_takeQueued (w : Wait) : w.takeQueued.tally = w.tally := by
  rw [tally, tally, callCount_takeQueued, enterQueue_takeQueued, queued_takeQueued]
  simp only [List.length_nil]
  omega

/-- A call takes an answer, if there is one, and the rest is as it was. -/
theorem tally_enter (w : Wait) :
    w.enter.2.tally + w.machine.schedule.enter.length =
      w.tally + w.machine.schedule.enter.tail.length + 1 := by
  have took (v : Wait) (take : Bool) : (if take then v.takeQueued else v).tally = v.tally := by
    split
    · exact tally_takeQueued v
    · rfl
  have posted (v : Wait) (post : Bool) : (if post then v.post else v).tally = v.tally := by
    split <;> rfl
  have recorded (v : Wait) (c : Call) :
      ({ v with machine := v.machine.record c } : Wait).tally = v.tally + 1 := by
    change (v.machine.record c).callCount + v.machine.schedule.enter.length +
      v.ring.queued.length = v.tally + 1
    rw [Machine.callCount_of_call rfl, tally]
    omega
  have answered : ((w.withAnswers (next {} w.machine.schedule.enter).2).strays
      (next {} w.machine.schedule.enter).1.stray).tally + w.machine.schedule.enter.length =
        w.tally + w.machine.schedule.enter.tail.length := by
    rw [Machine.next_rest]
    change w.machine.callCount + w.machine.schedule.enter.tail.length + w.ring.queued.length +
      _ = w.machine.callCount + _ + w.ring.queued.length + _
    omega
  simp only [enter, recorded, posted, took]
  omega

theorem tally_enter_le (w : Wait) : w.enter.2.tally ≤ w.tally + 1 := by
  have := w.tally_enter
  rw [List.length_tail] at this
  omega

theorem tally_enter_of_ne_nil {w : Wait} (answers : w.machine.schedule.enter ≠ []) :
    w.enter.2.tally = w.tally := by
  have := w.tally_enter
  have := List.length_pos_iff.2 answers
  rw [List.length_tail] at *
  omega

theorem tally_enterAgain (w : Wait) : w.enterAgain.tally = w.enter.2.tally := by
  unfold enterAgain
  split
  · next h => rw [h]
  · next h =>
    rw [h]
    split
    · rfl
    · unfold tally
      rw [Machine.callCount_log]
      rfl

/-! ## Whole waits -/

theorem tally_collected {w : Wait} {r : Ring} {tag : Nat} {found : Option Completion}
    (h : w.ring.collect tag = (found, r)) : ({ w with ring := r } : Wait).tally = w.tally := by
  unfold Ring.collect at h
  split at h <;> cases h <;> rfl

theorem tally_poison (w : Wait) (e : Errno) : (w.poison e).tally = w.tally := by
  simp only [tally, poison, Machine.callCount_log]
  rfl

theorem tally_reapEntering (w : Wait) (tag : Nat) (owed : tag ∈ w.ring.owed) :
    (w.reapEntering tag owed).2.tally ≤ w.tally + 1 := by
  fun_induction reapEntering w tag owed with
  | case1 w owed w' c ring hc =>
    rw [tally_collected hc, tally_enterAgain]
    exact tally_enter_le w
  | case2 w owed w' ring hc ih =>
    -- The completion is still to come, so the call took an answer.
    have answers := enterQueue_ne_nil_of_collect owed ((enterAgain_eq w).1 ▸ hc)
    rwa [tally_collected hc, tally_enterAgain, tally_enter_of_ne_nil answers] at ih

theorem tally_reap (w : Wait) (tag : Nat) (owed : tag ∈ w.ring.owed) :
    (w.reap tag owed).2.tally ≤ w.tally + 1 := by
  unfold reap
  split
  · next hc =>
    rw [tally_collected hc]
    exact Nat.le_succ _
  · next ring hc =>
    have reaped := tally_reapEntering { w with ring } tag ((Ring.collect_none hc).2 owed)
    rwa [tally_collected hc] at reaped

/-- Each call but the last takes an answer. -/
theorem tally_await (w : Wait) (tag : Nat) (owed : tag ∈ w.ring.owed) :
    (w.await tag owed).2.tally ≤ w.tally + 1 := by
  have failed {w v : Wait} {e : Errno} (h : w.enter = (.error e, v)) : v.tally = w.tally := by
    rw [← tally_enter_of_ne_nil (enterQueue_ne_nil_of_error h), h]
  fun_induction await w tag owed with
  | case1 w owed v h owed' ih => rwa [failed h] at ih
  | case2 w owed e v h owed' he hq c u hr =>
    have reaped := tally_reap (v.poison e) tag owed'
    rwa [hr, tally_poison, failed h] at reaped
  | case3 w owed e v h owed' he hq =>
    rw [tally_poison, failed h]
    exact Nat.le_succ _
  | case4 w owed n v h owed' c ring hc =>
    have entered := tally_enter_le w
    rw [h] at entered
    rwa [tally_collected hc]
  | case5 w owed n v h owed' ring hc ih =>
    have answers := enterQueue_ne_nil_of_collect owed (by rw [h]; exact hc)
    have entered := tally_enter_of_ne_nil answers
    rw [h] at entered
    rwa [tally_collected hc, entered] at ih

end Wait

/-- The entry itself takes one call as well. -/
theorem Ring.tally_transfer (r : Ring) (m : Machine) (fd : Descriptor) (offset : Nat)
    (t : Transfer) (loan : Loan) :
    (r.transfer m fd offset t loan).2.tally ≤ Wait.tally ⟨m, r, loan⟩ + 2 := by
  have pushed : Wait.tally ⟨m, r.push fd offset t, loan⟩ = Wait.tally ⟨m, r, loan⟩ + 1 := by
    simp only [Wait.tally, push, List.length_append, List.length_singleton]
    omega
  rcases r.transfer_cases m fd offset t loan with refused | waited
  · rw [refused]
    exact Nat.le_add_right _ 2
  · rw [waited]
    exact Nat.le_trans (Wait.tally_await ..) (Nat.succ_le_succ (Nat.le_of_eq pushed))

end WholeFile
