import WholeFile.Driver.Transfer
import WholeFile.Proofs.Ring.Await

/-!
# How a ring comes to be poisoned

A ring is poisoned by a wait that fails, which is logged at once, and by nothing else. Nothing makes
it sound again, and it takes no further transfer. All this is so whatever the kernel does.
-/

namespace WholeFile

/-! ## What a journal tells of it -/

/-- The line that is logged as a ring is poisoned. -/
def poisonLine (e : Errno) : LogLine :=
  ⟨.warn, .ring, s!"io_uring wait failed, driver poisoned error={(IoError.os e).message}"⟩

/-- The line warns that a ring has been poisoned. -/
def LogLine.tellsOfPoison (l : LogLine) : Bool :=
  l.level = .warn && l.source = .ring &&
    "io_uring wait failed, driver poisoned".toList.isPrefixOf l.message.toList

namespace Journal

/-- How often it was logged that a ring has been poisoned. -/
def poisonings (j : Journal) : Nat := j.lines.countP LogLine.tellsOfPoison

theorem poisonings_append (i j : Journal) :
    poisonings (i ++ j) = poisonings i + poisonings j := by
  unfold poisonings
  rw [lines_append, List.countP_append]

theorem poisonings_of_lines {j : Journal} (h : ∀ l ∈ j.lines, l.level = .debug) :
    poisonings j = 0 := by
  apply List.countP_eq_zero.2
  intro l hl
  simp [LogLine.tellsOfPoison, h l hl]

theorem poisonings_poisonLine (e : Errno) : poisonings [.log (poisonLine e)] = 1 := by
  simp [poisonings, lines, Event.log?, LogLine.tellsOfPoison, poisonLine, toString,
    String.toList_append]

/-- A failure while a completion is waited for is logged in other words. -/
theorem poisonings_reaping (text : String) :
    poisonings [.log ⟨.warn, .ring, s!"io_uring wait failed while reaping error={text}"⟩] = 0 := by
  simp [poisonings, lines, Event.log?, LogLine.tellsOfPoison, toString, String.toList_append]

/-- What a stretch of a run has done, from a ring that is poisoned or not to one that is or not. -/
inductive Poisons : Bool → Journal → Bool → Prop
  /-- The ring stays as it is. A poisoned one is left alone. -/
  | unchanged {poisoned : Bool} {j : Journal} (silent : j.poisonings = 0)
      (alone : poisoned = true → ∀ c ∈ j.calls, c.viaRing = false) : Poisons poisoned j poisoned
  /-- A wait fails, and the ring is poisoned. -/
  | poisoned {earlier later : Journal} (queued : Nat) (e : Errno) (ne : e ≠ .interrupted)
      (before : earlier.poisonings = 0) (after : later.poisonings = 0) :
      Poisons false
        (earlier ++ .call (.enter queued (.error e)) :: .log (poisonLine e) :: later) true

namespace Poisons

variable {a b c : Bool} {i j : Journal}

theorem trans (h : Poisons a i b) (h' : Poisons b j c) : Poisons a (i ++ j) c := by
  cases h with
  | unchanged silent alone =>
    cases h' with
    | unchanged silent' alone' =>
      refine .unchanged (by rw [poisonings_append, silent, silent']) fun sealed => ?_
      rw [calls_append]
      intro d hd
      exact (List.mem_append.1 hd).elim (alone sealed d) (alone' sealed d)
    | poisoned queued e ne before after =>
      rw [← List.append_assoc]
      exact .poisoned queued e ne (by rw [poisonings_append, silent, before]) after
  | poisoned queued e ne before after =>
    cases h' with
    | unchanged silent' =>
      rw [List.append_assoc, List.cons_append, List.cons_append]
      exact .poisoned queued e ne before (by rw [poisonings_append, after, silent'])

/-- A ring is told to be poisoned as often as it becomes so. -/
theorem count (h : Poisons a j b) : a.toNat + j.poisonings = b.toNat := by
  cases h with
  | unchanged silent => rw [silent, Nat.add_zero]
  | @poisoned earlier later queued e ne before after =>
    have split : earlier ++ Event.call (.enter queued (.error e)) :: .log (poisonLine e) :: later =
        earlier ++ ([.call (.enter queued (.error e))] ++ ([.log (poisonLine e)] ++ later)) := rfl
    rw [split]
    simp only [poisonings_append, before, after, poisonings_poisonLine]
    rfl

theorem sealed (h : Poisons true j b) : b = true ∧ ∀ c ∈ j.calls, c.viaRing = false := by
  cases h with
  | unchanged silent alone => exact ⟨rfl, alone rfl⟩

end Poisons

end Journal

theorem Machine.Aside.poisons {m n : Machine} (aside : m.Aside n) (poisoned : Bool) :
    Journal.Poisons poisoned (m.since n) poisoned :=
  .unchanged (Journal.poisonings_of_lines aside.lines) fun _ => aside.calls

/-! ## Waiting -/

theorem Ring.poisoned_collect {r s : Ring} {tag : Nat} {found : Option Completion}
    (h : r.collect tag = (found, s)) : s.poisoned = r.poisoned := by
  unfold collect at h
  split at h <;> cases h <;> rfl

namespace Wait

/-- `v` is what `w` has become by waiting, with nothing logged of a poisoned ring, and none
poisoned. -/
structure Quietly (w v : Wait) : Prop where
  leads : w.Leads v
  poisoned : v.ring.poisoned = w.ring.poisoned
  silent : (w.machine.since v.machine).poisonings = 0

theorem Quietly.trans {w v u : Wait} (h : w.Quietly v) (h' : v.Quietly u) : w.Quietly u where
  leads := h.leads.trans h'.leads
  poisoned := h'.poisoned.trans h.poisoned
  silent := by rw [Machine.since_trans h.leads.before h'.leads.before, Journal.poisonings_append,
    h.silent, h'.silent]

theorem Quietly.refl (w : Wait) : w.Quietly w := by
  refine ⟨.of_ring w rfl, rfl, ?_⟩
  rw [Machine.since_self]
  rfl

theorem Quietly.collected {w : Wait} {r : Ring} {tag : Nat} {found : Option Completion}
    (h : w.ring.collect tag = (found, r)) : w.Quietly { w with ring := r } :=
  ⟨.collected h, Ring.poisoned_collect h, (Quietly.refl w).silent⟩

theorem lines_execute (w : Wait) (e : Entry) :
    (w.execute e).machine.journal.lines = w.machine.journal.lines := by
  unfold execute
  split
  · next length _ _ =>
    rw [← w.machine.journal_transferIn e.fd length e.offset]
    simp [Machine.record, Journal.lines, Event.log?]
  · next bytes _ =>
    rw [← w.machine.journal_transferOut e.fd bytes e.offset]
    simp [Machine.record, Journal.lines, Event.log?]

theorem takeQueued_keeps (w : Wait) :
    w.takeQueued.machine.journal.lines = w.machine.journal.lines ∧
      w.takeQueued.ring.poisoned = w.ring.poisoned := by
  have (es : List Entry) (w : Wait) :
      (es.foldl execute w).machine.journal.lines = w.machine.journal.lines ∧
        (es.foldl execute w).ring.poisoned = w.ring.poisoned := by
    induction es generalizing w with
    | nil => exact ⟨rfl, rfl⟩
    | cons e es ih =>
      obtain ⟨lines, poisoned⟩ := ih (w.execute e)
      exact ⟨lines.trans (lines_execute w e), poisoned.trans (by rw [ring_execute])⟩
  exact this w.ring.queued { w with ring := { w.ring with queued := [] } }

/-- A call that hands over the queue logs nothing, and poisons nothing by itself. -/
theorem enter_keeps (w : Wait) :
    w.enter.2.machine.journal.lines = w.machine.journal.lines ∧
      w.enter.2.ring.poisoned = w.ring.poisoned := by
  have taken (v : Wait) (take : Bool) :
      (if take then v.takeQueued else v).machine.journal.lines = v.machine.journal.lines ∧
        (if take then v.takeQueued else v).ring.poisoned = v.ring.poisoned := by
    cases take
    · exact ⟨rfl, rfl⟩
    · exact takeQueued_keeps v
  have posted (v : Wait) (post : Bool) :
      (if post then v.post else v).machine = v.machine ∧
        (if post then v.post else v).ring.poisoned = v.ring.poisoned := by
    cases post <;> exact ⟨rfl, rfl⟩
  simp only [enter, Machine.record, Journal.lines_append]
  refine ⟨?_, ?_⟩
  · rw [(posted _ _).1, (taken _ _).1]
    exact List.append_nil _
  · rw [(posted _ _).2, (taken _ _).2]
    rfl

theorem quietly_enter {w v : Wait} {answer : Except Errno Nat} (h : w.enter = (answer, v)) :
    w.Quietly v := by
  have leads := Leads.entered h
  obtain ⟨lines, poisoned⟩ := enter_keeps w
  rw [h] at lines poisoned
  refine ⟨leads, poisoned, ?_⟩
  rw [leads.before.journal_eq, Journal.lines_append] at lines
  rw [Journal.poisonings, List.append_right_eq_self.1 lines]
  rfl

theorem quietly_enterAgain (w : Wait) : w.Quietly w.enterAgain := by
  refine ⟨leads_enterAgain w, ?_, ?_⟩
  · rw [(enterAgain_eq w).1]
    exact (enter_keeps w).2
  · unfold enterAgain
    split
    · next h => exact (quietly_enter h).silent
    · next e v h =>
      have entered := quietly_enter h
      split
      · exact entered.silent
      · rw [Machine.since_trans entered.leads.before (Machine.before_log ..),
          Journal.poisonings_append, entered.silent, Nat.zero_add,
          (Machine.since_eq_iff (Machine.before_log ..)).2 rfl]
        exact Journal.poisonings_reaping _

theorem quietly_lasting : Lasting Quietly where
  trans := .trans
  again := quietly_enterAgain
  collected := .collected

/-- What a run tells of the ring that it was on. -/
def Tells (w v : Wait) : Prop :=
  Journal.Poisons w.ring.poisoned (w.machine.since v.machine) v.ring.poisoned

theorem Quietly.tells {w v : Wait} (h : w.Quietly v) (sound : w.ring.poisoned = false) :
    w.Tells v := by
  unfold Tells
  rw [h.poisoned, sound]
  exact .unchanged h.silent nofun

theorem Quietly.then {w v u : Wait} (h : w.Quietly v) (sound : w.ring.poisoned = false)
    (later : v.machine.Before u.machine) (h' : v.Tells u) : w.Tells u := by
  have first := h.tells sound
  unfold Tells at *
  rw [Machine.since_trans h.leads.before later]
  exact first.trans h'

/-- The wait has failed, and whatever follows is quiet. -/
theorem tells_poison {w v u : Wait} {e : Errno} (h : w.enter = (.error e, v))
    (ne : e ≠ .interrupted) (sound : w.ring.poisoned = false) (rest : (v.poison e).Quietly u) :
    w.Tells u := by
  obtain ⟨x, leads, -, last⟩ := enter_recorded w
  have entered := quietly_enter h
  have failed := (entered.leads.trans (leads_poison v e)).before
  rw [h] at last
  have since : w.machine.since (v.poison e).machine =
      w.machine.since x.machine ++
        [.call (.enter w.ring.queued.length (.error e)), .log (poisonLine e)] := by
    rw [Machine.since_eq_iff failed]
    change v.machine.journal ++ _ = _
    rw [last, Machine.record, leads.before.journal_eq, List.append_assoc, List.append_assoc]
    rfl
  have silent : (w.machine.since x.machine).poisonings = 0 := by
    have whole := entered.silent
    rw [last, Machine.since_record leads.before, Journal.poisonings_append] at whole
    exact (Nat.add_eq_zero_iff.1 whole).1
  unfold Tells
  rw [rest.poisoned, sound, Machine.since_trans failed rest.leads.before, since, List.append_assoc]
  exact .poisoned _ e ne silent rest.silent

theorem await_tells {w : Wait} (sound : w.ring.poisoned = false) (tag : Nat)
    (owed : tag ∈ w.ring.owed) : w.Tells (w.await tag owed).2 := by
  fun_induction await w tag owed with
  | case1 w owed v h owed' ih =>
    have entered := quietly_enter h
    exact entered.then sound (leads_await ..).before (ih (entered.poisoned.trans sound))
  | case2 w owed e v h owed' he hq c u hr =>
    have reaped := quietly_lasting.reap (v.poison e) tag owed'
    rw [hr] at reaped
    exact tells_poison h he sound reaped
  | case3 w owed e v h owed' he hq => exact tells_poison h he sound (.refl _)
  | case4 w owed n v h owed' c ring hc =>
    exact ((quietly_enter h).trans (.collected hc)).tells sound
  | case5 w owed n v h owed' ring hc ih =>
    have collected := (quietly_enter h).trans (.collected hc)
    exact collected.then sound (leads_await ..).before (ih (collected.poisoned.trans sound))

end Wait

/-! ## Transfers -/

namespace Ring

variable {r : Ring}

theorem transfer_of_poisoned (sealed : r.poisoned = true) (m : Machine) (fd : Descriptor)
    (offset : Nat) (t : Transfer) (loan : Loan) :
    r.transfer m fd offset t loan = (.error .ringPoisoned, ⟨m, r, loan⟩) := by
  rw [transfer, if_pos sealed]

theorem transfer_tells (r : Ring) (m : Machine) (fd : Descriptor) (offset : Nat) (t : Transfer)
    (loan : Loan) :
    Wait.Tells ⟨m, r, loan⟩ (r.transfer m fd offset t loan).2 := by
  have idle (poisoned : Bool) : Journal.Poisons poisoned (m.since m) poisoned :=
    (Machine.Aside.refl m).poisons poisoned
  unfold transfer
  split
  · exact idle _
  · split
    · exact idle _
    · next sound _ =>
      have sound : r.poisoned = false := Bool.eq_false_iff.2 sound
      exact Wait.await_tells (w := ⟨m, r.push fd offset t, loan⟩) sound _ _

end Ring

end WholeFile
