import WholeFile.Ring.Wait

/-!
# What a wait uses up

Every wait uses up answers, or takes a completion that was still to come. `Wait.weight` counts what
is left of both. A wait that ends with a count or an interruption has paid for it, and where it has
paid no more than that, the file behind each queued read still had bytes to give.
-/

namespace WholeFile

/-! ## Weights -/

/-- The sum of `f` over a list. -/
def sumOver {α : Type} (f : α → Nat) : List α → Nat
  | [] => 0
  | a :: rest => f a + sumOver f rest

theorem sumOver_append {α : Type} (f : α → Nat) (as bs : List α) :
    sumOver f (as ++ bs) = sumOver f as + sumOver f bs := by
  induction as with
  | nil => simp [sumOver]
  | cons a as ih => simp [sumOver, ih, Nat.add_assoc]

theorem sumOver_map {α β : Type} (f : β → Nat) (g : α → β) (as : List α) :
    sumOver f (as.map g) = sumOver (fun a => f (g a)) as := by
  induction as with
  | nil => rfl
  | cons a as ih => simp [sumOver, ih]

/-- What a result costs: an interruption two, a positive count one. -/
def price : Except IoError Nat → Nat
  | .ok n => if n = 0 then 0 else 1
  | .error e => if e.isInterrupted then 2 else 0

def Completion.weight (c : Completion) : Nat := price c.outcome

def Transfer.weight : Transfer → Nat
  | read _ _ => 1
  | write _ => 2

def EnterAnswer.weight (a : EnterAnswer) : Nat :=
  1 + sumOver (fun s => (Completion.stray s).weight) a.stray

def Schedule.weight (s : Schedule) : Nat :=
  3 * s.read.length + 3 * s.write.length + sumOver EnterAnswer.weight s.enter

def Ring.weight (r : Ring) : Nat :=
  sumOver (·.transfer.weight) r.queued + sumOver Completion.weight r.inFlight +
    sumOver Completion.weight r.posted

def Wait.weight (w : Wait) : Nat := w.machine.schedule.weight + w.ring.weight

theorem isInterrupted_os {e : Errno} : (IoError.os e).isInterrupted ↔ e = .interrupted := by
  simp [IoError.isInterrupted, IoError.kind, Errno.kind_eq_interrupted_iff]

/-- What an answer of the kernel costs at most. An error number whose negative is positive arrives as
a count. -/
def answerPrice : Except Errno Nat → Nat
  | .ok n => if n = 0 then 0 else 1
  | .error e => if e = .interrupted then 2 else if 0 < (-e.code).toInt then 1 else 0

theorem answerPrice_le_two (answer : Except Errno Nat) : answerPrice answer ≤ 2 := by
  unfold answerPrice
  repeat' split
  all_goals decide

theorem price_mapError_le (answer : Except Errno Nat) :
    price (answer.mapError IoError.os) ≤ answerPrice answer := by
  cases answer with
  | ok n => exact Nat.le_refl _
  | error e =>
    show price (.error (.os e)) ≤ answerPrice (.error e)
    by_cases h : e = .interrupted <;> simp [price, answerPrice, isInterrupted_os, h]

/-- A result costs the same after its travel. -/
theorem weight_encodedResult (answer : Except Errno Nat) (tag : Nat) (ticket : Option Nat) :
    Completion.weight ⟨tag, encodedResult answer, ticket⟩ = answerPrice answer := by
  unfold Completion.weight
  cases answer with
  | ok n =>
    rw [Completion.outcome_of_nonneg (Int.natCast_nonneg n)]
    rfl
  | error e =>
    by_cases count : 0 ≤ (-e.code).toInt
    · have ne : e ≠ .interrupted := by
        rintro rfl
        revert count
        decide
      rw [Completion.outcome_of_nonneg count]
      show price (.ok (-e.code).toInt.toNat) = answerPrice (.error e)
      simp only [price, answerPrice, if_neg ne]
      split <;> split <;> omega
    · have negative : ¬ 0 < (-e.code).toInt := fun h => count (Int.le_of_lt h)
      rw [Completion.outcome_encodedResult_error (Int.not_le.1 count), answerPrice,
        if_neg negative]
      simp only [price, isInterrupted_os]

/-! ## Transfers -/

namespace Machine

theorem descriptors_refreshed (m : Machine) (fd : Descriptor) (content : Option Bytes) :
    (m.refreshed fd content).descriptors = m.descriptors := by
  unfold refreshed
  split <;> rfl

theorem descriptors_transferIn (m : Machine) (fd : Descriptor) (length offset : Nat) :
    (m.transferIn fd length offset).2.descriptors = m.descriptors := by
  simp only [transferIn, descriptors_refreshed]

theorem descriptors_transferOut (m : Machine) (fd : Descriptor) (bytes : Bytes) (offset : Nat) :
    (m.transferOut fd bytes offset).2.descriptors = m.descriptors := by
  simp only [transferOut]
  split
  · rfl
  · rfl
  · split <;> rfl

/-- A read that finds an answer uses it up. -/
theorem weight_transferIn_of_ne_nil {m : Machine} (fd : Descriptor) (length offset : Nat)
    (h : m.schedule.read ≠ []) :
    (m.transferIn fd length offset).2.schedule.weight + 3 = m.schedule.weight := by
  obtain ⟨a, rest, hr⟩ := List.exists_cons_of_ne_nil h
  simp only [transferIn, schedule_refreshed, hr, next, Schedule.weight, List.length_cons]
  omega

/-- A read that finds no answer changes nothing, is not interrupted, and gives bytes only where
the file has some. -/
theorem transferIn_of_nil {m : Machine} (fd : Descriptor) (length offset : Nat)
    (h : m.schedule.read = []) :
    (m.transferIn fd length offset).2 = m ∧
      answerPrice ((m.transferIn fd length offset).1.map List.length) ≤ 1 ∧
      (answerPrice ((m.transferIn fd length offset).1.map List.length) = 1 →
        offset < m.extent fd) := by
  have same : { m with schedule.read := [] } = m := by rw [← h]
  simp only [transferIn, h, next, refreshed, same, true_and]
  cases hn : m.node? fd with
  | none => simp [answerPrice, Except.map, Errno.badDescriptor, Errno.interrupted]
  | some n =>
    cases hd : n.directory with
    | true => simp [answerPrice, Except.map, hd, Errno.isADirectory, Errno.interrupted]
    | false => simp [answerPrice, Except.map, hd, extent, hn]; grind

/-- A write that finds an answer uses it up, and one that finds none is not interrupted. -/
theorem weight_transferOut (m : Machine) (fd : Descriptor) (bytes : Bytes) (offset : Nat) :
    (m.transferOut fd bytes offset).2.schedule.weight +
      answerPrice (m.transferOut fd bytes offset).1 ≤ m.schedule.weight + 1 := by
  cases hw : m.schedule.write with
  | nil =>
    have same : { m.schedule with write := [] } = m.schedule := by rw [← hw]
    simp only [transferOut, hw, next, same]
    cases m.path? fd with
    | none => simp [answerPrice, Errno.badDescriptor, Errno.interrupted]
    | some p => by_cases hb : bytes = [] <;> simp [answerPrice, hb]
  | cons a rest =>
    have := answerPrice_le_two (m.transferOut fd bytes offset).1
    have : (m.transferOut fd bytes offset).2.schedule = { m.schedule with write := rest } := by
      simp only [transferOut, hw, next]
      repeat' split
      all_goals rfl
    simp only [this, Schedule.weight, hw, List.length_cons] at *
    omega

end Machine

/-! ## Waits -/

namespace Wait

/-- Going from `w` to `w'` has cost `spent`, and more than that unless every entry that was queued
was a read of bytes that are there, with all files left as they were. -/
def Paid (w w' : Wait) (spent : Nat) : Prop :=
  w'.weight + spent < w.weight ∨
    (w'.weight + spent = w.weight ∧ w'.machine.files = w.machine.files ∧
      ∀ e ∈ w.ring.queued, (∃ length target, e.transfer = .read length target) ∧
        e.offset < w.machine.extent e.fd)

theorem Paid.le {w w' : Wait} {spent : Nat} (h : w.Paid w' spent) : w'.weight + spent ≤ w.weight :=
  h.elim Nat.le_of_lt fun h => Nat.le_of_eq h.1

theorem descriptors_execute (w : Wait) (e : Entry) :
    (w.execute e).machine.descriptors = w.machine.descriptors := by
  unfold execute
  split
  · next length _ _ => exact w.machine.descriptors_transferIn e.fd length e.offset
  · next bytes _ => exact w.machine.descriptors_transferOut e.fd bytes e.offset

/-- Carrying out an entry costs what the entry weighs. -/
theorem execute_paid (w : Wait) (e : Entry) :
    (w.execute e).weight < w.weight + e.transfer.weight ∨
      ((w.execute e).weight = w.weight + e.transfer.weight ∧
        (w.execute e).machine.files = w.machine.files ∧
        (∃ length target, e.transfer = .read length target) ∧
        e.offset < w.machine.extent e.fd) := by
  unfold execute
  split
  · next length target he =>
    simp only [weight, Ring.weight, Machine.record, sumOver_append, sumOver, weight_encodedResult,
      he, Transfer.weight]
    have cost : answerPrice ((w.machine.transferIn e.fd length e.offset).1.map List.length) ≤ 2 :=
      answerPrice_le_two _
    by_cases hr : w.machine.schedule.read = []
    · obtain ⟨same, le, lt⟩ := w.machine.transferIn_of_nil e.fd length e.offset hr
      rw [same]
      rcases Nat.lt_or_eq_of_le le with h | h
      · left; omega
      · right; exact ⟨by omega, rfl, ⟨length, target, rfl⟩, lt h⟩
    · have := Machine.weight_transferIn_of_ne_nil e.fd length e.offset hr
      left; omega
  · next bytes he =>
    have := w.machine.weight_transferOut e.fd bytes e.offset
    left
    simp only [weight, Ring.weight, Machine.record, sumOver_append, sumOver, weight_encodedResult,
      he, Transfer.weight]
    omega

theorem foldl_execute_paid (es : List Entry) (w : Wait) :
    (es.foldl execute w).weight < w.weight + sumOver (·.transfer.weight) es ∨
      ((es.foldl execute w).weight = w.weight + sumOver (·.transfer.weight) es ∧
        (es.foldl execute w).machine.files = w.machine.files ∧
        ∀ e ∈ es, (∃ length target, e.transfer = .read length target) ∧
          e.offset < w.machine.extent e.fd) := by
  induction es generalizing w with
  | nil => simp [sumOver]
  | cons e es ih =>
    have rest := ih (w.execute e)
    simp only [List.foldl_cons, sumOver]
    rcases execute_paid w e with h | ⟨h, files, he⟩
    · left; rcases rest with h' | h' <;> omega
    · have extent (fd : Descriptor) :
          (w.execute e).machine.extent fd = w.machine.extent fd := by
        simp only [Machine.extent, Machine.node?, Machine.path?, files, descriptors_execute]
      simp only [extent] at rest
      rcases rest with h' | ⟨h', files', hes⟩
      · left; omega
      · exact .inr ⟨by omega, files'.trans files, by simpa using ⟨he, hes⟩⟩

theorem takeQueued_paid (w : Wait) : w.Paid w.takeQueued 0 := by
  have paid := foldl_execute_paid w.ring.queued { w with ring := { w.ring with queued := [] } }
  have : ({ w with ring := { w.ring with queued := [] } } : Wait).weight +
      sumOver (·.transfer.weight) w.ring.queued = w.weight := by
    simp only [weight, Ring.weight, sumOver]; omega
  rw [this] at paid
  exact paid

theorem weight_post (w : Wait) : w.post.weight = w.weight := by
  simp only [post, weight, Ring.weight, sumOver_append, sumOver]
  omega

theorem weight_strays (w : Wait) (stray : List (Nat × Int32)) :
    (w.strays stray).weight =
      w.weight + sumOver (fun s => (Completion.stray s).weight) stray := by
  simp only [strays, weight, Ring.weight, sumOver_append, sumOver_map]
  omega

theorem weight_withAnswers {w : Wait} {a : EnterAnswer} {rest : List EnterAnswer}
    (h : w.machine.schedule.enter = a :: rest) :
    (w.withAnswers rest).weight + a.weight = w.weight := by
  simp only [weight, withAnswers, Schedule.weight, h, sumOver]
  omega

theorem enter_lt {w : Wait} (h : w.machine.schedule.enter ≠ []) : w.enter.2.weight < w.weight := by
  obtain ⟨a, rest, ha⟩ := List.exists_cons_of_ne_nil h
  have cut := weight_withAnswers ha
  have took (v : Wait) : (if a.take then v.takeQueued else v).weight ≤ v.weight := by
    split
    · exact (takeQueued_paid v).le
    · exact Nat.le_refl _
  have posted (v : Wait) : (if a.post then v.post else v).weight = v.weight := by
    split <;> simp only [weight_post]
  have noted (v : Wait) (c : Call) : ({ v with machine := v.machine.record c } : Wait).weight =
      v.weight := rfl
  have := took ((w.withAnswers rest).strays a.stray)
  simp only [EnterAnswer.weight] at cut
  simp only [weight_strays] at this
  simp only [enter, ha, next, noted, posted]
  omega

theorem enter_paid (w : Wait) : w.Paid w.enter.2 0 := by
  by_cases h : w.machine.schedule.enter = []
  · have same : (w.withAnswers []).strays [] = w := by simp [strays, withAnswers, ← h]
    have took := takeQueued_paid w
    simp only [enter, h, next, same, if_true]
    rw [Paid, ← weight_post] at took
    exact took
  · exact .inl (enter_lt h)

/-! ## Collecting -/

theorem weight_collect_some {w : Wait} {r : Ring} {c : Completion} {tag : Nat}
    (h : w.ring.collect tag = (some c, r)) :
    ({ w with ring := r } : Wait).weight + c.weight ≤ w.weight := by
  unfold Ring.collect at h
  split at h
  · cases h
  · next hs =>
    cases h
    obtain ⟨passed, hp, -⟩ := Ring.search_eq_some hs
    simp only [weight, Ring.weight, hp, sumOver_append, sumOver]
    omega

theorem weight_collect_none {w : Wait} {r : Ring} {tag : Nat}
    (h : w.ring.collect tag = (none, r)) : ({ w with ring := r } : Wait).weight ≤ w.weight := by
  unfold Ring.collect at h
  split at h
  · cases h; simp [weight, Ring.weight, sumOver]
  · cases h

theorem enterAgain_le (w : Wait) : w.enterAgain.weight ≤ w.weight := by
  have : w.enterAgain.weight = w.enter.2.weight := by simp only [weight, enterAgain_eq]
  exact this ▸ (enter_paid w).le

theorem reapEntering_le (w : Wait) (tag : Nat) (owed : tag ∈ w.ring.owed) :
    (w.reapEntering tag owed).2.weight + (w.reapEntering tag owed).1.weight ≤ w.weight := by
  fun_induction reapEntering w tag owed with
  | case1 w owed w' c ring hc =>
    exact Nat.le_trans (weight_collect_some hc) (enterAgain_le w)
  | case2 w owed w' ring hc ih =>
    exact Nat.le_trans ih (Nat.le_trans (weight_collect_none hc) (enterAgain_le w))

theorem reap_le (w : Wait) (tag : Nat) (owed : tag ∈ w.ring.owed) :
    (w.reap tag owed).2.weight + (w.reap tag owed).1.weight ≤ w.weight := by
  unfold reap
  split
  · next hc => exact weight_collect_some hc
  · next hc =>
    exact Nat.le_trans (reapEntering_le _ tag _) (weight_collect_none hc)

/-- Whatever a wait comes to has been paid for. -/
theorem await_paid (w : Wait) (tag : Nat) (owed : tag ∈ w.ring.owed) :
    w.Paid (w.await tag owed).2 (price (w.await tag owed).1) := by
  fun_induction await w tag owed with
  | case1 w owed w' h owed' ih =>
    have lt := enter_lt (enterQueue_ne_nil_of_error h)
    rw [h] at lt
    exact .inl (Nat.lt_of_le_of_lt ih.le lt)
  | case2 w owed e w' h owed' he hq c w'' hr =>
    have lt := enter_lt (enterQueue_ne_nil_of_error h)
    have le := reap_le (w'.poison e) tag owed'
    rw [h] at lt
    rw [hr] at le
    exact .inl (Nat.lt_of_le_of_lt le lt)
  | case3 w owed e w' h owed' he hq =>
    have lt := enter_lt (enterQueue_ne_nil_of_error h)
    rw [h] at lt
    have free : price (.error (.os e)) = 0 := by simp [price, isInterrupted_os, he]
    exact .inl (free.symm ▸ lt)
  | case4 w owed n w' h owed' c ring hc =>
    have paid := enter_paid w
    rw [h] at paid
    have le : ({ w' with ring } : Wait).weight + price c.outcome ≤ w'.weight :=
      weight_collect_some hc
    rcases paid with lt | ⟨eq, files, reads⟩
    · exact .inl (Nat.lt_of_le_of_lt le lt)
    · rcases Nat.lt_or_eq_of_le le with lt | le
      · exact .inl (eq ▸ lt)
      · exact .inr ⟨le.trans eq, files, reads⟩
  | case5 w owed n w' h owed' ring hc ih =>
    have lt := enter_lt (enterQueue_ne_nil_of_collect owed (by rw [h]; exact hc))
    rw [h] at lt
    exact .inl (Nat.lt_of_le_of_lt (Nat.le_trans ih.le (weight_collect_none hc)) lt)

/-! ## What each call keeps, a wait keeps -/

/-- A relation to the waits that can come of a wait by calling again and collecting. -/
structure Lasting (R : Wait → Wait → Prop) : Prop where
  trans {w v u : Wait} : R w v → R v u → R w u
  again (w : Wait) : R w w.enterAgain
  collected {w : Wait} {r : Ring} {tag : Nat} {found : Option Completion} :
    w.ring.collect tag = (found, r) → R w { w with ring := r }

/-- The same for waits that can fail. -/
structure Enduring (R : Wait → Wait → Prop) : Prop extends Lasting R where
  enter (w : Wait) : R w w.enter.2
  poison (w : Wait) (e : Errno) : R w (w.poison e)

variable {R : Wait → Wait → Prop}

theorem Lasting.reapEntering (lasting : Lasting R) (w : Wait) (tag : Nat)
    (owed : tag ∈ w.ring.owed) : R w (w.reapEntering tag owed).2 := by
  fun_induction Wait.reapEntering w tag owed with
  | case1 w owed w' c ring hc => exact lasting.trans (lasting.again w) (lasting.collected hc)
  | case2 w owed w' ring hc ih =>
    exact lasting.trans (lasting.trans (lasting.again w) (lasting.collected hc)) ih

theorem Lasting.reap (lasting : Lasting R) (w : Wait) (tag : Nat) (owed : tag ∈ w.ring.owed) :
    R w (w.reap tag owed).2 := by
  unfold Wait.reap
  split
  · next hc => exact lasting.collected hc
  · next hc => exact lasting.trans (lasting.collected hc) (lasting.reapEntering ..)

theorem Enduring.await (enduring : Enduring R) (w : Wait) (tag : Nat) (owed : tag ∈ w.ring.owed) :
    R w (w.await tag owed).2 := by
  have entered {w v : Wait} {answer : Except Errno Nat} (h : w.enter = (answer, v)) : R w v := by
    have := enduring.enter w
    rwa [h] at this
  fun_induction Wait.await w tag owed with
  | case1 w owed v h owed' ih => exact enduring.trans (entered h) ih
  | case2 w owed e v h owed' he hq c u hr =>
    have reaped := enduring.reap (v.poison e) tag owed'
    rw [hr] at reaped
    exact enduring.trans (enduring.trans (entered h) (enduring.poison v e)) reaped
  | case3 w owed e v h => exact enduring.trans (entered h) (enduring.poison v e)
  | case4 w owed n v h owed' c ring hc => exact enduring.trans (entered h) (enduring.collected hc)
  | case5 w owed n v h owed' ring hc ih =>
    exact enduring.trans (enduring.trans (entered h) (enduring.collected hc)) ih

/-! ## Descriptors -/

theorem descriptors_takeQueued (w : Wait) :
    w.takeQueued.machine.descriptors = w.machine.descriptors := by
  have (es : List Entry) (w : Wait) :
      (es.foldl execute w).machine.descriptors = w.machine.descriptors := by
    induction es generalizing w with
    | nil => rfl
    | cons e es ih => rw [List.foldl_cons, ih, descriptors_execute]
  rw [takeQueued, this]

theorem descriptors_enter (w : Wait) : w.enter.2.machine.descriptors = w.machine.descriptors := by
  simp only [enter, Machine.record]
  split <;> split <;> simp only [post, descriptors_takeQueued, strays, withAnswers]

theorem descriptors_enterAgain (w : Wait) :
    w.enterAgain.machine.descriptors = w.machine.descriptors := by
  rw [← descriptors_enter w]
  unfold enterAgain
  split
  · next h => rw [h]
  · next h => split <;> simp [h, Machine.log]

theorem descriptors_enduring :
    Enduring fun w v => v.machine.descriptors = w.machine.descriptors where
  trans first rest := rest.trans first
  again := descriptors_enterAgain
  collected _ := rfl
  enter := descriptors_enter
  poison _ _ := rfl

/-- Waiting opens and closes nothing. -/
theorem descriptors_await (w : Wait) (tag : Nat) (owed : tag ∈ w.ring.owed) :
    (w.await tag owed).2.machine.descriptors = w.machine.descriptors :=
  descriptors_enduring.await w tag owed

end Wait

end WholeFile
