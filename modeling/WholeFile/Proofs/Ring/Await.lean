import WholeFile.Proofs.Machine.Plain

/-!
# Waiting for one entry

An idle ring is handed one entry and waited on. Whatever the kernel does in between, the entry is
queued, in flight or posted until the wait is over, and then it either was carried out once, its
completion being what the wait comes to, or is given up in the queue of a poisoned ring.
-/

namespace WholeFile

/-- Every completion is that of an entry. -/
def Schedule.Strayless (s : Schedule) : Prop := ∀ a ∈ s.enter, a.stray = []

/-- A wait that is answered so fails, and not because of a signal. -/
def EnterAnswer.Fails (a : EnterAnswer) : Prop := ∃ e, a.errno = some e ∧ e ≠ .interrupted

theorem Schedule.Strayless.of_leftOf {s t : Schedule} (ht : t.Strayless) (h : s.LeftOf t) :
    s.Strayless := fun a ha => ht a (h.enter.subset ha)

theorem Schedule.Strayless.next {s : Schedule} (h : s.Strayless) :
    (WholeFile.next {} s.enter).1.stray = [] := by
  cases he : s.enter with
  | nil => rfl
  | cons a rest =>
    apply h a
    rw [he]
    exact List.mem_cons_self

namespace Wait

/-! ## What a wait leaves behind -/

/-- `v` is what `w` has become by waiting, for which no tickets are given out. -/
structure Leads (w v : Wait) : Prop where
  before : w.machine.Before v.machine
  issued : v.ring.issued = w.ring.issued
  calls : ∀ c ∈ (w.machine.since v.machine).calls, c.viaRing = true

theorem Leads.trans {w v u : Wait} (h : w.Leads v) (h' : v.Leads u) : w.Leads u where
  before := h.before.trans h'.before
  issued := h'.issued.trans h.issued
  calls := by
    rw [Machine.since_trans h.before h'.before, Journal.calls_append]
    intro c hc
    exact (List.mem_append.1 hc).elim (h.calls c) (h'.calls c)

/-- Another ring that has given out as many tickets. -/
theorem Leads.of_ring (w : Wait) {r : Ring} (issued : r.issued = w.ring.issued) :
    w.Leads { w with ring := r } := by
  refine ⟨.refl _, issued, ?_⟩
  rw [Machine.since_self]
  intro c hc
  cases hc

theorem Leads.collected {w : Wait} {r : Ring} {tag : Nat} {found : Option Completion}
    (h : w.ring.collect tag = (found, r)) : w.Leads { w with ring := r } := by
  unfold Ring.collect at h
  split at h <;> cases h <;> exact .of_ring w rfl

theorem leads_execute (w : Wait) (e : Entry) : w.Leads (w.execute e) := by
  have recorded {m : Machine} {c : Call} (before : w.machine.Before m)
      (journal : m.journal = w.machine.journal) (via : c.viaRing = true) :
      ∀ d ∈ (w.machine.since (m.record c)).calls, d.viaRing = true := by
    rw [Machine.since_record before, (Machine.since_eq_iff before).2 (journal.trans
      (List.append_nil _).symm)]
    intro d hd
    rw [List.mem_singleton.1 hd]
    exact via
  unfold execute
  split
  · have before := w.machine.before_transferIn e.fd
    exact ⟨(before ..).trans (Machine.before_record _ _), rfl,
      recorded (before ..) (Machine.journal_transferIn ..) rfl⟩
  · have before := w.machine.before_transferOut e.fd
    exact ⟨(before ..).trans (Machine.before_record _ _), rfl,
      recorded (before ..) (Machine.journal_transferOut ..) rfl⟩

theorem leads_takeQueued (w : Wait) : w.Leads w.takeQueued := by
  have (es : List Entry) (w : Wait) : w.Leads (es.foldl execute w) := by
    induction es generalizing w with
    | nil => exact .of_ring w rfl
    | cons e es ih => exact (leads_execute w e).trans (ih _)
  have emptied : w.Leads { w with ring := { w.ring with queued := [] } } := .of_ring w rfl
  exact emptied.trans (this w.ring.queued _)

/-- Whatever a wait has done, its own line in the journal comes last. -/
theorem enter_recorded (w : Wait) : ∃ v, w.Leads v ∧ w.enter.2.ring = v.ring ∧
    w.enter.2.machine = v.machine.record (.enter w.ring.queued.length w.enter.1) := by
  have used (s : List (Nat × Int32)) :
      w.Leads ((w.withAnswers (next {} w.machine.schedule.enter).2).strays s) := by
    refine ⟨⟨List.prefix_refl _, ?_⟩, rfl, ?_⟩
    · rw [Machine.next_rest]
      exact { Schedule.LeftOf.refl w.machine.schedule with enter := List.tail_suffix _ }
    · intro c hc
      change c ∈ (w.machine.since w.machine).calls at hc
      rw [Machine.since_self] at hc
      cases hc
  have taken (v : Wait) (take : Bool) : v.Leads (if take then v.takeQueued else v) := by
    split
    · exact leads_takeQueued v
    · exact .of_ring v rfl
  have posted (v : Wait) (post : Bool) : v.Leads (if post then v.post else v) := by
    split <;> exact .of_ring v rfl
  exact ⟨_, ((used _).trans (taken _ _)).trans (posted _ _), rfl, rfl⟩

theorem leads_enter (w : Wait) : w.Leads w.enter.2 := by
  obtain ⟨v, leads, ring, machine⟩ := enter_recorded w
  refine ⟨?_, ?_, ?_⟩
  · rw [machine]
    exact leads.before.trans (Machine.before_record _ _)
  · rw [ring]
    exact leads.issued
  · rw [machine, Machine.since_record leads.before, Journal.calls_append]
    intro c hc
    rcases List.mem_append.1 hc with hc | hc
    · exact leads.calls c hc
    · rw [List.mem_singleton.1 hc]
      rfl

theorem Leads.entered {w v : Wait} {answer : Except Errno Nat} (h : w.enter = (answer, v)) :
    w.Leads v := by
  have := leads_enter w
  rwa [h] at this

theorem leads_log (w : Wait) (message : String) {r : Ring} (issued : r.issued = w.ring.issued) :
    w.Leads { w with machine := w.machine.log .warn .ring message, ring := r } := by
  refine ⟨Machine.before_log .., issued, ?_⟩
  rw [(Machine.since_eq_iff (Machine.before_log ..)).2 rfl]
  intro c hc
  cases hc

theorem leads_enterAgain (w : Wait) : w.Leads w.enterAgain := by
  unfold enterAgain
  split
  · next h => exact .entered h
  · next h =>
    split
    · exact .entered h
    · exact (Leads.entered h).trans (leads_log _ _ rfl)

theorem leads_poison (w : Wait) (e : Errno) : w.Leads (w.poison e) := leads_log w _ rfl

theorem leads_enduring : Enduring Leads where
  trans := .trans
  again := leads_enterAgain
  collected := .collected
  enter := leads_enter
  poison := leads_poison

theorem leads_await (w : Wait) (tag : Nat) (owed : tag ∈ w.ring.owed) :
    w.Leads (w.await tag owed).2 := leads_enduring.await w tag owed

/-! ## What a wait does, apart from waiting -/

def quiet (w : Wait) : Wait := { w with machine := w.machine.quiet }

/-- What the kernel does to a ring in one wait that is answered so. -/
def passed (w : Wait) (a : EnterAnswer) : Wait :=
  let w := if a.take then w.takeQueued else w
  if a.post then w.post else w

theorem ring_of_quiet {w v : Wait} (h : w.quiet = v.quiet) : w.ring = v.ring := by
  have : w.quiet.ring = v.quiet.ring := by rw [h]
  exact this

theorem loan_of_quiet {w v : Wait} (h : w.quiet = v.quiet) : w.loan = v.loan := by
  have : w.quiet.loan = v.quiet.loan := by rw [h]
  exact this

theorem machine_of_quiet {w v : Wait} (h : w.quiet = v.quiet) :
    w.machine.quiet = v.machine.quiet := by
  have : w.quiet.machine = v.quiet.machine := by rw [h]
  exact this

theorem quiet_withRing {w v : Wait} (h : w.quiet = v.quiet) (r : Ring) :
    ({ w with ring := r } : Wait).quiet = ({ v with ring := r } : Wait).quiet := by
  unfold quiet
  rw [machine_of_quiet h, loan_of_quiet h]

theorem quiet_execute (w : Wait) (e : Entry) : (w.execute e).quiet = w.quiet.execute e := by
  unfold execute
  split
  · next length target ht =>
    have moved := w.machine.transferIn_rebased [] (w.machine.journal.filter Event.acts) e.fd length
      e.offset
    simp only [quiet, Machine.quiet_record (c := .ringRead ..) rfl]
    simp only [Machine.quiet, moved, Machine.journal_transferIn]
  · next bytes ht =>
    have moved := w.machine.transferOut_rebased [] (w.machine.journal.filter Event.acts) e.fd bytes
      e.offset
    simp only [quiet, Machine.quiet_record (c := .ringWrite ..) rfl]
    simp only [Machine.quiet, moved, Machine.journal_transferOut]

theorem quiet_takeQueued (w : Wait) : w.takeQueued.quiet = w.quiet.takeQueued := by
  have (es : List Entry) (w : Wait) : (es.foldl execute w).quiet = es.foldl execute w.quiet := by
    induction es generalizing w with
    | nil => rfl
    | cons e es ih => rw [List.foldl_cons, ih, quiet_execute, List.foldl_cons]
  exact this w.ring.queued { w with ring := { w.ring with queued := [] } }

theorem quiet_passed (w : Wait) (a : EnterAnswer) : (w.passed a).quiet = w.quiet.passed a := by
  unfold passed
  cases a.take <;> cases a.post
  · rfl
  · rfl
  · exact quiet_takeQueued w
  · exact congrArg post (quiet_takeQueued w)

theorem quiet_enter {w : Wait} (strayless : w.machine.schedule.Strayless) :
    w.enter.2.quiet = w.quiet.passed (next {} w.machine.schedule.enter).1 := by
  have noStrays : (w.withAnswers (next {} w.machine.schedule.enter).2).strays
      (next {} w.machine.schedule.enter).1.stray =
        w.withAnswers (next {} w.machine.schedule.enter).2 := by
    rw [strayless.next]
    simp [strays]
  simp only [enter, noStrays]
  rw [← quiet_passed]
  simp only [quiet, Machine.quiet_record_enter]
  exact quiet_passed (w.withAnswers _) _ |>.trans (quiet_passed w _).symm

end Wait

/-! ## Idle rings -/

/-- Nothing waits, is in flight or is to be collected. -/
structure Ring.Idle (r : Ring) : Prop where
  queued : r.queued = []
  inFlight : r.inFlight = []
  posted : r.posted = []

namespace Wait

/-- The kernel's answer to an entry, had it carried it out now. -/
def answered (w : Wait) (e : Entry) : Except Errno Nat :=
  match e.transfer with
  | .read length _ => (w.machine.transferIn e.fd length e.offset).1.map List.length
  | .write bytes => (w.machine.transferOut e.fd bytes e.offset).1

def completion (w : Wait) (e : Entry) : Completion :=
  ⟨e.transfer.tag, encodedResult (w.answered e), some e.ticket⟩

/-- The ring is handed an entry. -/
def holding (w : Wait) (e : Entry) : Wait :=
  { w with ring := { w.ring with queued := [e] } }

/-- The ring is poisoned, and nothing else is different. -/
def poisoned (w : Wait) : Wait := { w with ring := { w.ring with poisoned := true } }

/-- The wait is over: the kernel has carried out the entry, and the ring is as it was, but may be
poisoned. -/
def concluded (w : Wait) (e : Entry) (poisoned : Bool) : Wait :=
  { w.execute e with ring := { w.ring with poisoned } }

theorem ring_execute (w : Wait) (e : Entry) :
    (w.execute e).ring = { w.ring with inFlight := w.ring.inFlight ++ [w.completion e] } := by
  unfold execute completion answered
  cases e.transfer <;> rfl

variable {b w : Wait} {e : Entry}

theorem takeQueued_of_nil (h : w.ring.queued = []) : w.takeQueued = w := by
  obtain ⟨machine, ⟨capacity, issued, queued, inFlight, posted, poisoned⟩, loan⟩ := w
  subst h
  rfl

theorem takeQueued_holding (idle : b.ring.Idle) : (b.holding e).takeQueued = b.execute e := by
  have : ({ b with ring := { b.ring with queued := [] } } : Wait) = b := by
    rw [← idle.queued]
  rw [takeQueued]
  exact congrArg (execute · e) this

/-! ## Where the entry is -/

/-- The kernel has the entry, or has posted its completion. -/
inductive Taken (b : Wait) (e : Entry) (w : Wait) : Prop
  | inFlight (h : w.quiet = (b.execute e).quiet)
  | posted (h : w.quiet = (b.execute e).post.quiet)

/-- The entry is still queued, or taken. -/
inductive Carries (b : Wait) (e : Entry) (w : Wait) : Prop
  | queued (h : w.quiet = (b.holding e).quiet)
  | taken (h : Taken b e w)

theorem queued_executed (idle : b.ring.Idle) : (b.execute e).ring.queued = [] := by
  rw [ring_execute, idle.queued]

theorem post_post (w : Wait) : w.post.post = w.post := by
  simp [post]

theorem taken_passed (idle : b.ring.Idle) (a : EnterAnswer) {v : Wait} (taken : Taken b e w)
    (h : v.quiet = w.quiet.passed a) : Taken b e v := by
  have took (u : Wait) (hu : u.ring.queued = []) :
      u.passed a = if a.post then u.post else u := by
    unfold passed
    rw [takeQueued_of_nil hu]
    simp
  cases taken with
  | inFlight hw =>
    rw [hw, ← quiet_passed, took _ (queued_executed idle)] at h
    split at h
    · exact .posted h
    · exact .inFlight h
  | posted hw =>
    rw [hw, ← quiet_passed, took (b.execute e).post (queued_executed idle), post_post,
      ite_self] at h
    exact .posted h

theorem carries_passed (idle : b.ring.Idle) (a : EnterAnswer) {v : Wait} (carries : Carries b e w)
    (h : v.quiet = w.quiet.passed a) : Carries b e v := by
  cases carries with
  | taken taken => exact .taken (taken_passed idle a taken h)
  | queued hw =>
    rw [hw, ← quiet_passed, passed, takeQueued_holding idle] at h
    have kept : (b.holding e).post = b.holding e := by
      simp [post, holding, idle.inFlight]
    cases ht : a.take <;> cases hp : a.post <;> rw [ht, hp] at h
    · exact .queued h
    · exact .queued (kept ▸ h)
    · exact .taken (.inFlight h)
    · exact .taken (.posted h)

/-! ## Collecting -/

theorem collect_of_posted_nil {r : Ring} (h : r.posted = []) (tag : Nat) :
    r.collect tag = (none, r) := by
  obtain ⟨capacity, issued, queued, inFlight, posted, poisoned⟩ := r
  subst h
  rfl

theorem collect_holding (idle : b.ring.Idle) (h : w.quiet = (b.holding e).quiet) (tag : Nat) :
    w.ring.collect tag = (none, w.ring) := by
  apply collect_of_posted_nil
  rw [ring_of_quiet h]
  exact idle.posted

theorem collect_inFlight (idle : b.ring.Idle) (h : w.quiet = (b.execute e).quiet) (tag : Nat) :
    w.ring.collect tag = (none, w.ring) := by
  apply collect_of_posted_nil
  rw [ring_of_quiet h, ring_execute]
  exact idle.posted

theorem collect_posted (idle : b.ring.Idle) (h : w.quiet = (b.execute e).post.quiet) :
    w.ring.collect e.transfer.tag = (some (b.completion e), b.ring) := by
  obtain ⟨machine, ⟨capacity, issued, queued, inFlight, posted, poisoned⟩, loan⟩ := b
  obtain ⟨hq, hf, hp⟩ := idle
  rw [ring_of_quiet h, post, ring_execute]
  simp only at hq hf hp
  subst hq hf hp
  simp [Ring.collect, Ring.search, completion]

/-! ## How a wait ends -/

/-- How waiting for `e` ends, from `start` on, on a ring that is idle in `b`. -/
inductive Concludes (b : Wait) (e : Entry) (start : Wait) : Except IoError Nat → Wait → Prop
  | carriedOut {w : Wait} (poisoned : Bool) (quiet : w.quiet = (b.concluded e poisoned).quiet)
      (cause : poisoned = true →
        b.ring.poisoned = true ∨ ∃ a ∈ start.machine.schedule.enter, a.Fails) :
      Concludes b e start (b.completion e).outcome w
  | givenUp {w : Wait} (errno : Errno) (queued : Nat) (ne : errno ≠ .interrupted)
      (quiet : w.quiet = (b.holding e).poisoned.quiet)
      (failed : .call (.enter queued (.error errno)) ∈ start.machine.since w.machine)
      (cause : ∃ a ∈ start.machine.schedule.enter, a.Fails) :
      Concludes b e start (.error (.os errno)) w

theorem Concludes.of_before {start later : Wait} {result : Except IoError Nat}
    (h : Concludes b e later result w) (hb : start.machine.Before later.machine)
    (hw : later.machine.Before w.machine) : Concludes b e start result w := by
  have earlier : (∃ a ∈ later.machine.schedule.enter, a.Fails) →
      ∃ a ∈ start.machine.schedule.enter, a.Fails := by
    rintro ⟨a, ha, fails⟩
    exact ⟨a, hb.schedule.enter.subset ha, fails⟩
  cases h with
  | carriedOut poisoned quiet cause =>
    exact .carriedOut poisoned quiet fun hp => (cause hp).imp_right earlier
  | givenUp errno queued ne quiet failed cause =>
    refine .givenUp errno queued ne quiet ?_ (earlier cause)
    rw [Machine.since_trans hb hw]
    exact List.mem_append_right _ failed

theorem quiet_enterAgain (w : Wait) : w.enterAgain.quiet = w.enter.2.quiet := by
  unfold enterAgain
  split
  · next h => rw [h]
  · next h =>
    rw [h]
    split
    · rfl
    · simp only [quiet, Machine.quiet_log]

theorem quiet_poison (w : Wait) (errno : Errno) : (w.poison errno).quiet = w.poisoned.quiet := by
  simp only [quiet, poison, poisoned, Machine.quiet_log]

theorem quiet_poisoned {v : Wait} (h : w.quiet = v.quiet) : w.poisoned.quiet = v.poisoned.quiet := by
  unfold poisoned
  rw [quiet_withRing h, ring_of_quiet h]

theorem execute_poisoned (w : Wait) (e : Entry) : w.poisoned.execute e = (w.execute e).poisoned := by
  unfold execute
  cases e.transfer <;> rfl

theorem taken_poison {errno : Errno} (taken : Taken b e w) :
    Taken b.poisoned e (w.poison errno) := by
  cases taken with
  | inFlight h =>
    apply Taken.inFlight
    rw [quiet_poison, execute_poisoned, quiet_poisoned h]
  | posted h =>
    apply Taken.posted
    rw [quiet_poison, execute_poisoned, quiet_poisoned h]
    rfl

theorem reapEntering_taken (idle : b.ring.Idle) (strayless : w.machine.schedule.Strayless)
    (taken : Taken b e w) {tag : Nat} (ht : tag = e.transfer.tag) (owed : tag ∈ w.ring.owed) :
    (w.reapEntering tag owed).1 = b.completion e ∧
      (w.reapEntering tag owed).2.quiet = (b.concluded e b.ring.poisoned).quiet := by
  have passes {w : Wait} (strayless : w.machine.schedule.Strayless) (taken : Taken b e w) :
      Taken b e w.enterAgain :=
    taken_passed idle _ taken ((quiet_enterAgain w).trans (quiet_enter strayless))
  fun_induction reapEntering w tag owed with
  | case1 w owed w' c ring hc =>
    cases passes strayless taken with
    | inFlight h =>
      rw [collect_inFlight idle h] at hc
      cases hc
    | posted h =>
      rw [ht, collect_posted idle h] at hc
      cases hc
      exact ⟨rfl, quiet_withRing h _⟩
  | case2 w owed w' ring hc ih =>
    have left := strayless.of_leftOf (leads_enterAgain w).before.schedule
    cases passes strayless taken with
    | inFlight h =>
      rw [collect_inFlight idle h] at hc
      cases hc
      exact ih left (.inFlight h)
    | posted h =>
      rw [ht, collect_posted idle h] at hc
      cases hc

theorem reap_taken (idle : b.ring.Idle) (strayless : w.machine.schedule.Strayless)
    (taken : Taken b e w) {tag : Nat} (ht : tag = e.transfer.tag) (owed : tag ∈ w.ring.owed) :
    (w.reap tag owed).1 = b.completion e ∧
      (w.reap tag owed).2.quiet = (b.concluded e b.ring.poisoned).quiet := by
  unfold reap
  split
  · next c ring hc =>
    cases taken with
    | inFlight h =>
      rw [collect_inFlight idle h] at hc
      cases hc
    | posted h =>
      rw [ht, collect_posted idle h] at hc
      cases hc
      exact ⟨rfl, quiet_withRing h _⟩
  · next ring hc =>
    cases taken with
    | inFlight h =>
      rw [collect_inFlight idle h] at hc
      cases hc
      exact reapEntering_taken idle strayless (.inFlight h) ht _
    | posted h =>
      rw [ht, collect_posted idle h] at hc
      cases hc

/-- A wait that fails was answered so, and says so in the journal. -/
theorem enter_failed {v : Wait} {errno : Errno} (h : w.enter = (.error errno, v)) :
    (∃ a ∈ w.machine.schedule.enter, a.errno = some errno) ∧
      ∃ queued, .call (.enter queued (.error errno)) ∈ w.machine.since v.machine := by
  constructor
  · cases hq : w.machine.schedule.enter with
    | nil =>
      obtain ⟨⟨n, hn⟩, -⟩ := enter_of_enterQueue_nil hq
      rw [h] at hn
      cases hn
    | cons a rest =>
      refine ⟨a, List.mem_cons_self, ?_⟩
      have answer : w.enter.1 = .error errno := by rw [h]
      simp only [enter, hq, next] at answer
      split at answer
      · next e he =>
        cases answer
        exact he
      · cases answer
  · obtain ⟨u, leads, -, hm⟩ := enter_recorded w
    rw [h] at hm
    refine ⟨w.ring.queued.length, ?_⟩
    rw [hm, Machine.since_record leads.before]
    exact List.mem_append_right _ List.mem_cons_self

theorem quiet_of_enter {v : Wait} {answer : Except Errno Nat} (h : w.enter = (answer, v))
    (strayless : w.machine.schedule.Strayless) :
    v.quiet = w.quiet.passed (next {} w.machine.schedule.enter).1 := by
  have := quiet_enter strayless
  rwa [h] at this

/-- Waiting for an entry that an idle ring was handed, and that may have been taken since. -/
theorem await_concludes (idle : b.ring.Idle) (strayless : w.machine.schedule.Strayless)
    (carries : Carries b e w) {tag : Nat} (ht : tag = e.transfer.tag) (owed : tag ∈ w.ring.owed) :
    Concludes b e w (w.await tag owed).1 (w.await tag owed).2 := by
  fun_induction await w tag owed with
  | case1 w owed v h owed' ih =>
    have before := (Leads.entered h).before
    have passed := carries_passed idle _ carries (quiet_of_enter h strayless)
    exact (ih (strayless.of_leftOf before.schedule) passed).of_before before (leads_await ..).before
  | case2 w owed errno v h owed' he hq c u hr =>
    have before := ((Leads.entered h).trans (leads_poison v errno)).before
    obtain ⟨⟨a, ha, answer⟩, -⟩ := enter_failed h
    -- The queue is empty, so the kernel has the entry, and its completion is still to come.
    have idle' : b.poisoned.ring.Idle := ⟨idle.queued, idle.inFlight, idle.posted⟩
    have taken : Taken b.poisoned e (v.poison errno) := by
      cases carries_passed idle _ carries (quiet_of_enter h strayless) with
      | queued held =>
        rw [ring_of_quiet held] at hq
        cases hq
      | taken taken => exact taken_poison taken
    obtain ⟨hc, hu⟩ := reap_taken idle' (strayless.of_leftOf before.schedule) taken ht owed'
    rw [hr] at hc hu
    subst hc
    refine .carriedOut true ?_ fun _ => .inr ⟨a, ha, errno, answer, he⟩
    rw [hu, concluded, execute_poisoned]
    rfl
  | case3 w owed errno v h owed' he hq =>
    obtain ⟨⟨a, ha, answer⟩, queued, recorded⟩ := enter_failed h
    -- The kernel has not seen the entry, and will not see it through a poisoned ring.
    refine .givenUp errno queued he ?_ ?_ ⟨a, ha, errno, answer, he⟩
    · cases carries_passed idle _ carries (quiet_of_enter h strayless) with
      | queued held => rw [quiet_poison, quiet_poisoned held]
      | taken taken =>
        rcases taken with held | held
        all_goals
          rw [ring_of_quiet held] at hq
          exact absurd (queued_executed idle) hq
    · rw [Machine.since_trans (Leads.entered h).before (leads_poison v errno).before]
      exact List.mem_append_left _ recorded
  | case4 w owed n v h owed' c ring hc =>
    cases carries_passed idle _ carries (quiet_of_enter h strayless) with
    | queued held =>
      rw [collect_holding idle held] at hc
      cases hc
    | taken taken =>
      rcases taken with held | held
      · rw [collect_inFlight idle held] at hc
        cases hc
      · rw [ht, collect_posted idle held] at hc
        cases hc
        exact .carriedOut b.ring.poisoned (quiet_withRing held _) .inl
  | case5 w owed n v h owed' ring hc ih =>
    have before := (Leads.entered h).before
    have passed := carries_passed idle _ carries (quiet_of_enter h strayless)
    have same : ring = v.ring := by
      rcases passed with held | ⟨held | held⟩
      · rw [collect_holding idle held] at hc
        cases hc
        rfl
      · rw [collect_inFlight idle held] at hc
        cases hc
        rfl
      · rw [ht, collect_posted idle held] at hc
        cases hc
    subst same
    exact (ih (strayless.of_leftOf before.schedule) passed).of_before before (leads_await ..).before

end Wait

end WholeFile
