import WholeFile.Driver.Open
import WholeFile.Ring.Progress
import WholeFile.Ring.Setup

/-!
# What every call leaves behind

A call adds to the journal and takes answers off the schedule, and does nothing else to either. So
what holds of all answers to come holds of those that are left, and what a run did is the end of
its journal.
-/

namespace WholeFile

/-! ## Earlier and later machines -/

/-- Each queue of `s` is what is left of the same queue of `t`. -/
structure Schedule.LeftOf (s t : Schedule) : Prop where
  openFile : s.openFile <:+ t.openFile
  size : s.size <:+ t.size
  read : s.read <:+ t.read
  write : s.write <:+ t.write
  close : s.close <:+ t.close
  setup : s.setup <:+ t.setup
  probe : s.probe <:+ t.probe
  enter : s.enter <:+ t.enter

namespace Schedule

theorem LeftOf.refl (s : Schedule) : s.LeftOf s := by
  constructor <;> exact List.suffix_refl _

theorem LeftOf.trans {s t u : Schedule} (h : s.LeftOf t) (h' : t.LeftOf u) : s.LeftOf u where
  openFile := h.openFile.trans h'.openFile
  size := h.size.trans h'.size
  read := h.read.trans h'.read
  write := h.write.trans h'.write
  close := h.close.trans h'.close
  setup := h.setup.trans h'.setup
  probe := h.probe.trans h'.probe
  enter := h.enter.trans h'.enter

end Schedule

/-- `n` is what `m` has become by calls alone. -/
structure Machine.Before (m n : Machine) : Prop where
  journal : m.journal <+: n.journal
  schedule : n.schedule.LeftOf m.schedule

namespace Machine

theorem Before.refl (m : Machine) : m.Before m := ⟨List.prefix_refl _, .refl _⟩

theorem Before.trans {m n o : Machine} (h : m.Before n) (h' : n.Before o) : m.Before o :=
  ⟨h.journal.trans h'.journal, h'.schedule.trans h.schedule⟩

/-- What `n` has done that `m` had not. -/
def since (m n : Machine) : Journal := n.journal.drop m.journal.length

theorem Before.journal_eq {m n : Machine} (h : m.Before n) :
    n.journal = m.journal ++ m.since n := by
  obtain ⟨new, hn⟩ := h.journal
  rw [since, ← hn, List.drop_left]

theorem since_eq_iff {m n : Machine} (h : m.Before n) {j : Journal} :
    m.since n = j ↔ n.journal = m.journal ++ j := by
  rw [h.journal_eq, List.append_cancel_left_eq]

theorem since_trans {m n o : Machine} (h : m.Before n) (h' : n.Before o) :
    m.since o = m.since n ++ n.since o := by
  rw [since_eq_iff (h.trans h'), h'.journal_eq, h.journal_eq, List.append_assoc]

theorem since_self (m : Machine) : m.since m = [] := List.drop_length

theorem next_rest {α : Type} (usual : α) (queue : List α) : (next usual queue).2 = queue.tail := by
  cases queue <;> rfl

theorem before_record (m : Machine) (c : Call) : m.Before (m.record c) :=
  ⟨List.prefix_append _ _, .refl _⟩

theorem since_record {m n : Machine} (h : m.Before n) (c : Call) :
    m.since (n.record c) = m.since n ++ [.call c] := by
  rw [since_eq_iff (h.trans (before_record n c)), record, h.journal_eq, List.append_assoc]

theorem before_log (m : Machine) (level : LogLevel) (source : LogSource) (message : String) :
    m.Before (m.log level source message) := ⟨List.prefix_append _ _, .refl _⟩

/-! ## Calls -/

theorem schedule_allocate (m : Machine) (p : Path) : (m.allocate p).2.schedule = m.schedule := by
  unfold allocate
  split <;> rfl

theorem journal_allocate (m : Machine) (p : Path) : (m.allocate p).2.journal = m.journal := by
  unfold allocate
  split <;> rfl

theorem schedule_opened (m : Machine) (p : Path) (access : Access) (mode : Nat) :
    (m.opened p access mode).2.schedule = m.schedule := by
  unfold opened
  split
  · rfl
  · exact schedule_allocate ..

theorem journal_opened (m : Machine) (p : Path) (access : Access) (mode : Nat) :
    (m.opened p access mode).2.journal = m.journal := by
  unfold opened
  split
  · rfl
  · exact journal_allocate ..

theorem schedule_openFile (m : Machine) (p : Path) (access : Access) (mode : Nat) :
    (m.openFile p access mode).2.schedule =
      { m.schedule with openFile := m.schedule.openFile.tail } := by
  simp only [openFile, record, next_rest]
  split
  · rfl
  · exact schedule_opened ..

theorem journal_openFile (m : Machine) (p : Path) (access : Access) (mode : Nat) :
    (m.openFile p access mode).2.journal =
      m.journal ++ [.call (.openFile p access mode (m.openFile p access mode).1)] := by
  simp only [openFile, record]
  congr 1
  split
  · rfl
  · exact journal_opened ..

theorem before_openFile (m : Machine) (p : Path) (access : Access) (mode : Nat) :
    m.Before (m.openFile p access mode).2 := by
  refine ⟨?_, ?_⟩
  · rw [journal_openFile]
    exact List.prefix_append _ _
  · rw [schedule_openFile]
    exact { Schedule.LeftOf.refl m.schedule with openFile := List.tail_suffix _ }

/-- What one call keeps, it keeps when it is made again. -/
theorem openAgain_keeps {R : Machine → Machine → Prop} {p : Path} {access : Access} {mode : Nat}
    (once : ∀ m, R m (m.openFile p access mode).2)
    (trans : ∀ {m n o : Machine}, R m n → R n o → R m o) (m : Machine) :
    R m (m.openAgain p access mode).2 := by
  have called {m n : Machine} {answer : Except Errno Descriptor}
      (h : m.openFile p access mode = (answer, n)) : R m n := by
    have := once m
    rwa [h] at this
  fun_induction openAgain m p access mode with
  | case1 m n h _ ih => exact trans (called h) ih
  | case2 m e n h | case3 m fd n h => exact called h

theorem openPath_keeps {R : Machine → Machine → Prop} {p : Path} {access : Access} {mode : Nat}
    (once : ∀ m, R m (m.openFile p access mode).2) (refl : ∀ m, R m m)
    (trans : ∀ {m n o : Machine}, R m n → R n o → R m o) (m : Machine) :
    R m (m.openPath p access mode).2 := by
  unfold openPath
  split
  · exact refl m
  · exact openAgain_keeps once trans m

theorem before_openAgain (m : Machine) (p : Path) (access : Access) (mode : Nat) :
    m.Before (m.openAgain p access mode).2 :=
  openAgain_keeps (fun m => m.before_openFile p access mode) .trans m

theorem before_openPath (m : Machine) (p : Path) (access : Access) (mode : Nat) :
    m.Before (m.openPath p access mode).2 :=
  openPath_keeps (fun m => m.before_openFile p access mode) .refl .trans m

theorem closeQueue_openPath (m : Machine) (p : Path) (access : Access) (mode : Nat) :
    (m.openPath p access mode).2.schedule.close = m.schedule.close := by
  refine openPath_keeps (R := fun m n => n.schedule.close = m.schedule.close) (fun m => ?_)
    (fun _ => rfl) (fun first rest => rest.trans first) m
  rw [schedule_openFile]

theorem schedule_close (m : Machine) (fd : Descriptor) :
    (m.close fd).2.schedule = { m.schedule with close := m.schedule.close.tail } := by
  rw [← next_rest none]
  rfl

theorem before_close (m : Machine) (fd : Descriptor) : m.Before (m.close fd).2 := by
  refine ⟨List.prefix_append _ _, ?_⟩
  rw [schedule_close]
  exact { Schedule.LeftOf.refl m.schedule with close := List.tail_suffix _ }

theorem schedule_size (m : Machine) (fd : Descriptor) :
    (m.size fd).2.schedule = { m.schedule with size := m.schedule.size.tail } := by
  rw [← next_rest {}]
  rfl

theorem before_size (m : Machine) (fd : Descriptor) : m.Before (m.size fd).2 := by
  refine ⟨List.prefix_append _ _, ?_⟩
  rw [schedule_size]
  exact { Schedule.LeftOf.refl m.schedule with size := List.tail_suffix _ }

theorem schedule_transferIn (m : Machine) (fd : Descriptor) (length offset : Nat) :
    (m.transferIn fd length offset).2.schedule =
      { m.schedule with read := m.schedule.read.tail } := by
  unfold transferIn
  rw [schedule_refreshed, ← next_rest {}]

theorem journal_transferIn (m : Machine) (fd : Descriptor) (length offset : Nat) :
    (m.transferIn fd length offset).2.journal = m.journal := by
  unfold transferIn refreshed
  dsimp only
  split <;> rfl

theorem before_transferIn (m : Machine) (fd : Descriptor) (length offset : Nat) :
    m.Before (m.transferIn fd length offset).2 := by
  refine ⟨?_, ?_⟩
  · rewrite [journal_transferIn]
    exact List.prefix_refl _
  · rw [schedule_transferIn]
    exact { Schedule.LeftOf.refl m.schedule with read := List.tail_suffix _ }

theorem schedule_transferOut (m : Machine) (fd : Descriptor) (bytes : Bytes) (offset : Nat) :
    (m.transferOut fd bytes offset).2.schedule =
      { m.schedule with write := m.schedule.write.tail } := by
  rw [← next_rest {}]
  unfold transferOut
  dsimp only
  repeat' split
  all_goals rfl

theorem journal_transferOut (m : Machine) (fd : Descriptor) (bytes : Bytes) (offset : Nat) :
    (m.transferOut fd bytes offset).2.journal = m.journal := by
  unfold transferOut
  dsimp only
  repeat' split
  all_goals rfl

theorem before_transferOut (m : Machine) (fd : Descriptor) (bytes : Bytes) (offset : Nat) :
    m.Before (m.transferOut fd bytes offset).2 := by
  refine ⟨?_, ?_⟩
  · rewrite [journal_transferOut]
    exact List.prefix_refl _
  · rw [schedule_transferOut]
    exact { Schedule.LeftOf.refl m.schedule with write := List.tail_suffix _ }

theorem before_read (m : Machine) (fd : Descriptor) (length offset : Nat) :
    m.Before (m.read fd length offset).2 :=
  (m.before_transferIn fd length offset).trans (before_record _ _)

theorem before_write (m : Machine) (fd : Descriptor) (bytes : Bytes) (offset : Nat) :
    m.Before (m.write fd bytes offset).2 :=
  (m.before_transferOut fd bytes offset).trans (before_record _ _)

theorem schedule_setup (m : Machine) (entries : Nat) :
    (m.setup entries).2.schedule = { m.schedule with setup := m.schedule.setup.tail } := by
  rw [← next_rest none]
  rfl

theorem before_setup (m : Machine) (entries : Nat) : m.Before (m.setup entries).2 := by
  refine ⟨List.prefix_append _ _, ?_⟩
  rw [schedule_setup]
  exact { Schedule.LeftOf.refl m.schedule with setup := List.tail_suffix _ }

theorem schedule_probe (m : Machine) :
    m.probe.2.schedule = { m.schedule with probe := m.schedule.probe.tail } := by
  rw [← next_rest {}]
  rfl

theorem before_probe (m : Machine) : m.Before m.probe.2 := by
  refine ⟨List.prefix_append _ _, ?_⟩
  rw [schedule_probe]
  exact { Schedule.LeftOf.refl m.schedule with probe := List.tail_suffix _ }

end Machine

/-! ## Calls aside from rings -/

/-- The call waits on a ring, or is carried out by one. -/
def Call.viaRing : Call → Bool
  | enter _ _ | ringRead _ _ _ _ _ | ringWrite _ _ _ _ _ => true
  | _ => false

/-- `n` is what `m` has become without a ring and without a warning. -/
structure Machine.Aside (m n : Machine) : Prop where
  before : m.Before n
  calls : ∀ c ∈ (m.since n).calls, c.viaRing = false
  lines : ∀ l ∈ (m.since n).lines, l.level = .debug

namespace Machine

theorem Aside.refl (m : Machine) : m.Aside m := by
  refine ⟨.refl m, ?_, ?_⟩
  all_goals
    rw [since_self]
    intro x hx
    cases hx

theorem Aside.trans {m n o : Machine} (h : m.Aside n) (h' : n.Aside o) : m.Aside o := by
  refine ⟨h.before.trans h'.before, ?_, ?_⟩
  · rw [since_trans h.before h'.before, Journal.calls_append]
    intro c hc
    exact (List.mem_append.1 hc).elim (h.calls c) (h'.calls c)
  · rw [since_trans h.before h'.before, Journal.lines_append]
    intro l hl
    exact (List.mem_append.1 hl).elim (h.lines l) (h'.lines l)

theorem Aside.of_call {m n : Machine} (before : m.Before n) {c : Call}
    (journal : n.journal = m.journal ++ [.call c]) (apart : c.viaRing = false) : m.Aside n := by
  refine ⟨before, ?_, ?_⟩ <;> rw [(since_eq_iff before).2 journal]
  · intro d hd
    rw [List.mem_singleton.1 hd]
    exact apart
  · intro l hl
    cases hl

theorem aside_log (m : Machine) (source : LogSource) (message : String) :
    m.Aside (m.log .debug source message) := by
  have since : m.since (m.log .debug source message) = [.log ⟨.debug, source, message⟩] :=
    (since_eq_iff (m.before_log ..)).2 rfl
  refine ⟨m.before_log .., ?_, ?_⟩ <;> rw [since]
  · intro c hc
    cases hc
  · intro l hl
    rw [List.mem_singleton.1 hl]

theorem aside_openPath (m : Machine) (p : Path) (access : Access) (mode : Nat) :
    m.Aside (m.openPath p access mode).2 := by
  have opened (m : Machine) : m.Aside (m.openFile p access mode).2 :=
    .of_call (m.before_openFile ..) (m.journal_openFile ..) rfl
  exact openPath_keeps opened .refl .trans m

theorem aside_close (m : Machine) (fd : Descriptor) : m.Aside (m.close fd).2 :=
  .of_call (m.before_close fd) (c := .close fd (m.close fd).1) rfl rfl

theorem aside_size (m : Machine) (fd : Descriptor) : m.Aside (m.size fd).2 :=
  .of_call (m.before_size fd) (c := .size fd (m.size fd).1) rfl rfl

theorem journal_read (m : Machine) (fd : Descriptor) (length offset : Nat) :
    (m.read fd length offset).2.journal =
      m.journal ++ [.call (.read fd length offset (m.read fd length offset).1)] := by
  rw [← m.journal_transferIn fd length offset]
  rfl

theorem journal_write (m : Machine) (fd : Descriptor) (bytes : Bytes) (offset : Nat) :
    (m.write fd bytes offset).2.journal =
      m.journal ++ [.call (.write fd bytes offset (m.write fd bytes offset).1)] := by
  rw [← m.journal_transferOut fd bytes offset]
  rfl

theorem aside_read (m : Machine) (fd : Descriptor) (length offset : Nat) :
    m.Aside (m.read fd length offset).2 :=
  .of_call (m.before_read ..) (m.journal_read ..) rfl

theorem aside_write (m : Machine) (fd : Descriptor) (bytes : Bytes) (offset : Nat) :
    m.Aside (m.write fd bytes offset).2 :=
  .of_call (m.before_write ..) (m.journal_write ..) rfl

end Machine

end WholeFile
