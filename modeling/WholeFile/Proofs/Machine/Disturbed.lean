import WholeFile.Driver.Basic
import WholeFile.Proofs.Machine.Plain

/-!
# More interruptions

A schedule with more interruptions in it, at any places, makes a call either fail because of a
signal, with nothing else done, or do as it would have done without them.
-/

namespace WholeFile

/-! ## Answers put in between -/

/-- `ys` is `xs` with some more in between, all of them `extra`. -/
inductive Interspersed {α : Type} (extra : α → Prop) : List α → List α → Prop
  | nil : Interspersed extra [] []
  | keep {xs ys : List α} (a : α) (rest : Interspersed extra xs ys) :
      Interspersed extra (a :: xs) (a :: ys)
  | insert {xs ys : List α} {a : α} (more : extra a) (rest : Interspersed extra xs ys) :
      Interspersed extra xs (a :: ys)

namespace Interspersed

variable {α : Type} {extra : α → Prop} {xs ys : List α}

theorem refl (xs : List α) : Interspersed extra xs xs := by
  induction xs with
  | nil => exact .nil
  | cons a xs ih => exact .keep a ih

theorem of_mem (h : Interspersed extra xs ys) {a : α} (ha : a ∈ ys) : a ∈ xs ∨ extra a := by
  induction h with
  | nil => cases ha
  | keep b rest ih =>
    rcases List.mem_cons.1 ha with rfl | ha
    · exact .inl List.mem_cons_self
    · exact (ih ha).imp_left (List.mem_cons_of_mem b)
  | insert more rest ih =>
    rcases List.mem_cons.1 ha with rfl | ha
    · exact .inr more
    · exact ih ha

/-- The next answer is one more, or the same. -/
theorem next (h : Interspersed extra xs ys) (usual : α) :
    (extra (WholeFile.next usual ys).1 ∧ Interspersed extra xs ys.tail) ∨
      ((WholeFile.next usual xs).1 = (WholeFile.next usual ys).1 ∧
        Interspersed extra xs.tail ys.tail) := by
  cases h with
  | nil => exact .inr ⟨rfl, .nil⟩
  | keep a rest => exact .inr ⟨rfl, rest⟩
  | insert more rest => exact .inl ⟨more, rest⟩

end Interspersed

/-! ## Schedules with more signals in them -/

/-- The answer is a signal, and the file has no new content with it. -/
def ReadAnswer.Signal (a : ReadAnswer) : Prop := a.errno = some .interrupted ∧ a.content = none

def WriteAnswer.Signal (a : WriteAnswer) : Prop := a.errno = some .interrupted

/-- The wait is interrupted, whatever the kernel has done by then. -/
def EnterAnswer.Signal (a : EnterAnswer) : Prop := a.errno = some .interrupted ∧ a.stray = []

/-- The wait fails only because of a signal, and posts completions of entries only. -/
def EnterAnswer.Calm (a : EnterAnswer) : Prop :=
  a.stray = [] ∧ ∀ e, a.errno = some e → e = .interrupted

theorem EnterAnswer.Signal.calm {a : EnterAnswer} (signal : a.Signal) : a.Calm := by
  refine ⟨signal.2, fun e he => ?_⟩
  rw [signal.1] at he
  exact (Option.some.inj he).symm

namespace Schedule

/-- All waits to come are calm. -/
def Calm (s : Schedule) : Prop := ∀ a ∈ s.enter, a.Calm

theorem Calm.of_leftOf {s t : Schedule} (ht : t.Calm) (h : s.LeftOf t) : s.Calm := fun a ha =>
  ht a (h.enter.subset ha)

/-- `t` is `s` with more interruptions of openings, reads, writes and waits, at any places. -/
structure Interrupted (s t : Schedule) : Prop where
  openFile : Interspersed (· = some .interrupted) s.openFile t.openFile
  read : Interspersed ReadAnswer.Signal s.read t.read
  write : Interspersed WriteAnswer.Signal s.write t.write
  enter : Interspersed EnterAnswer.Signal s.enter t.enter
  size : s.size = t.size
  close : s.close = t.close
  setup : s.setup = t.setup
  probe : s.probe = t.probe

theorem Interrupted.refl (s : Schedule) : s.Interrupted s :=
  ⟨.refl _, .refl _, .refl _, .refl _, rfl, rfl, rfl, rfl⟩

/-- What is left of a schedule and of one with more interruptions. Where there are rings, one may be
waited on more often than the other. -/
structure Disturbed (rings : Prop) (s t : Schedule) : Prop where
  openFile : Interspersed (· = some .interrupted) s.openFile t.openFile
  read : Interspersed ReadAnswer.Signal s.read t.read
  write : Interspersed WriteAnswer.Signal s.write t.write
  enter : rings → s.Calm ∧ t.Calm
  size : s.size = t.size
  close : s.close = t.close
  setup : s.setup = t.setup
  probe : s.probe = t.probe

theorem Interrupted.disturbed {rings : Prop} {s t : Schedule} (h : s.Interrupted t)
    (calm : rings → s.Calm) : s.Disturbed rings t where
  openFile := h.openFile
  read := h.read
  write := h.write
  enter rings := by
    refine ⟨calm rings, fun a ha => ?_⟩
    rcases h.enter.of_mem ha with old | new
    · exact calm rings a old
    · exact new.calm
  size := h.size
  close := h.close
  setup := h.setup
  probe := h.probe

end Schedule

/-! ## Machines with more signals to come -/

/-- `n` is `m` with more interruptions to come. What has been done so far is left open. -/
structure Machine.Disturbed (rings : Prop) (m n : Machine) : Prop where
  files : m.files = n.files
  umask : m.umask = n.umask
  descriptors : m.descriptors = n.descriptors
  ringSupport : m.ringSupport = n.ringSupport
  schedule : m.schedule.Disturbed rings n.schedule

namespace Machine

variable {rings : Prop} {m m' n n' : Machine}

namespace Disturbed

theorem record (h : m.Disturbed rings n) (c d : Call) :
    (m.record c).Disturbed rings (n.record d) :=
  ⟨h.files, h.umask, h.descriptors, h.ringSupport, h.schedule⟩

theorem log (h : m.Disturbed rings n) (level : LogLevel) (source : LogSource) (message : String) :
    (m.log level source message).Disturbed rings (n.log level source message) :=
  ⟨h.files, h.umask, h.descriptors, h.ringSupport, h.schedule⟩

theorem path? (h : m.Disturbed rings n) (fd : Descriptor) : m.path? fd = n.path? fd := by
  unfold Machine.path?
  rw [h.descriptors]

theorem node? (h : m.Disturbed rings n) (fd : Descriptor) : m.node? fd = n.node? fd := by
  unfold Machine.node?
  rw [h.path?, h.files]

/-- Other waits may have been made, and other things recorded. -/
theorem of_plain (h : m.Disturbed rings n) (hm : m'.plain = m.plain) (hn : n'.plain = n.plain)
    (calm : rings → m'.schedule.Calm ∧ n'.schedule.Calm) : m'.Disturbed rings n' := by
  have looks {o o' : Machine} (same : o'.plain = o.plain) : o'.files = o.files ∧
      o'.umask = o.umask ∧ o'.descriptors = o.descriptors ∧ o'.ringSupport = o.ringSupport ∧
      { o'.schedule with enter := [] } = { o.schedule with enter := [] } := by
    obtain ⟨files, umask, descriptors, schedule, journal, ringSupport⟩ := o
    obtain ⟨files', umask', descriptors', schedule', journal', ringSupport'⟩ := o'
    simp only [plain, rebased, mk.injEq] at same
    exact ⟨same.1, same.2.1, same.2.2.1, same.2.2.2.2.2, same.2.2.2.1⟩
  obtain ⟨files, umask, descriptors, ringSupport, schedule⟩ := looks hm
  obtain ⟨files', umask', descriptors', ringSupport', schedule'⟩ := looks hn
  simp only [Schedule.mk.injEq] at schedule schedule'
  obtain ⟨openFile, size, read, write, close, setup, probe, -⟩ := schedule
  obtain ⟨openFile', size', read', write', close', setup', probe', -⟩ := schedule'
  constructor
  case schedule =>
    constructor
    case openFile => exact openFile ▸ openFile' ▸ h.schedule.openFile
    case read => exact read ▸ read' ▸ h.schedule.read
    case write => exact write ▸ write' ▸ h.schedule.write
    case enter => exact calm
    case size => rw [size, size', h.schedule.size]
    case close => rw [close, close', h.schedule.close]
    case setup => rw [setup, setup', h.schedule.setup]
    case probe => rw [probe, probe', h.schedule.probe]
  case files => rw [files, files', h.files]
  case umask => rw [umask, umask', h.umask]
  case descriptors => rw [descriptors, descriptors', h.descriptors]
  case ringSupport => rw [ringSupport, ringSupport', h.ringSupport]

end Disturbed

/-! ## Calls that no signal interrupts -/

/-- The call is answered alike on machines one of which has more interruptions to come, and leaves
machines of which the same is true. -/
def Steady (rings : Prop) {α : Type} (call : Machine → α × Machine) : Prop :=
  ∀ ⦃m n : Machine⦄, m.Disturbed rings n →
    (call m).1 = (call n).1 ∧ (call m).2.Disturbed rings (call n).2

/-- What a steady call comes to on both machines. -/
theorem Steady.both {α : Type} {call : Machine → α × Machine} (steady : Steady rings call)
    (h : m.Disturbed rings n) :
    ∃ a m' n', call m = (a, m') ∧ call n = (a, n') ∧ m'.Disturbed rings n' := by
  obtain ⟨answer, after⟩ := steady h
  exact ⟨(call n).1, (call m).2, (call n).2, Prod.ext answer rfl, rfl, after⟩

theorem steady_log (level : LogLevel) (source : LogSource) (message : String) :
    Steady rings fun m => ((), m.log level source message) := fun _ _ h => ⟨rfl, h.log ..⟩

theorem steady_close (fd : Descriptor) : Steady rings fun m => m.close fd := by
  intro m n h
  dsimp only
  unfold close
  rw [h.schedule.close]
  exact ⟨rfl, h.files, h.umask, congrArg (·.set fd none) h.descriptors, h.ringSupport,
    { h.schedule with close := rfl }⟩

theorem steady_size (fd : Descriptor) : Steady rings fun m => m.size fd := by
  intro m n h
  dsimp only
  have node (queue : List SizeAnswer) : Machine.node? { m with schedule.size := queue } fd =
      Machine.node? { n with schedule.size := queue } fd := h.node? fd
  unfold size
  rw [h.schedule.size]
  simp only [node]
  exact ⟨trivial, h.files, h.umask, h.descriptors, h.ringSupport, { h.schedule with size := rfl }⟩

theorem steady_setup (entries : Nat) : Steady rings fun m => m.setup entries := by
  intro m n h
  dsimp only
  unfold setup
  rw [h.schedule.setup]
  exact ⟨rfl, h.files, h.umask, h.descriptors, h.ringSupport, { h.schedule with setup := rfl }⟩

theorem steady_probe : Steady rings probe := by
  intro m n h
  unfold probe
  rw [h.schedule.probe]
  exact ⟨rfl, h.files, h.umask, h.descriptors, h.ringSupport, { h.schedule with probe := rfl }⟩

/-! ## Opening -/

theorem steady_opened (p : Path) (access : Access) (mode : Nat) :
    Steady rings fun m => m.opened p access mode := by
  intro m n h
  have files : m.filesOpened p access mode = n.filesOpened p access mode := by
    unfold filesOpened
    rw [h.files, h.umask]
  simp only [opened, files]
  cases n.filesOpened p access mode with
  | error e => exact ⟨rfl, h⟩
  | ok files =>
    simp only [allocate, h.descriptors]
    cases n.descriptors.findIdx? Option.isNone with
    | some fd => exact ⟨rfl, rfl, h.umask, rfl, h.ringSupport, h.schedule⟩
    | none => exact ⟨rfl, rfl, h.umask, rfl, h.ringSupport, h.schedule⟩

/-- Opening a file is interrupted once more, or goes the same way. -/
theorem Disturbed.openFile (h : m.Disturbed rings n) (p : Path) (access : Access) (mode : Nat) :
    ((n.openFile p access mode).1 = .error .interrupted ∧
        m.Disturbed rings (n.openFile p access mode).2) ∨
      ((m.openFile p access mode).1 = (n.openFile p access mode).1 ∧
        (m.openFile p access mode).2.Disturbed rings (n.openFile p access mode).2) := by
  simp only [Machine.openFile, next_rest]
  rcases h.schedule.openFile.next none with ⟨more, rest⟩ | ⟨same, rest⟩
  · left
    rw [more]
    exact ⟨rfl, h.files, h.umask, h.descriptors, h.ringSupport,
      { h.schedule with openFile := rest }⟩
  · right
    have left : Disturbed rings { m with schedule.openFile := m.schedule.openFile.tail }
        { n with schedule.openFile := n.schedule.openFile.tail } :=
      ⟨h.files, h.umask, h.descriptors, h.ringSupport, { h.schedule with openFile := rest }⟩
    rw [same]
    cases (next none n.schedule.openFile).1 with
    | some e => exact ⟨rfl, left.record ..⟩
    | none =>
      obtain ⟨answer, after⟩ := steady_opened p access mode left
      exact ⟨answer, after.record ..⟩

/-- Interruptions of openings are not seen. -/
theorem steady_openPath (p : Path) (access : Access) (mode : Nat) :
    Steady rings fun m => m.openPath p access mode := by
  have opened {m n n' : Machine} {answer : Except Errno Descriptor} (h : m.Disturbed rings n)
      (ho : n.openFile p access mode = (answer, n')) :
      (answer = .error .interrupted ∧ m.Disturbed rings n') ∨
        ∃ m', m.openFile p access mode = (answer, m') ∧ m'.Disturbed rings n' := by
    have both := h.openFile p access mode
    rw [ho] at both
    rcases both with more | ⟨same, after⟩
    · exact .inl more
    · exact .inr ⟨(m.openFile p access mode).2, Prod.ext same rfl, after⟩
  have again {m n : Machine} (h : m.Disturbed rings n) :
      (m.openAgain p access mode).1 = (n.openAgain p access mode).1 ∧
        (m.openAgain p access mode).2.Disturbed rings (n.openAgain p access mode).2 := by
    fun_induction openAgain n p access mode generalizing m with
    | case1 n n' ho _ ih =>
      -- The signal is one more, or one that the other machine gets as well.
      rcases opened h ho with ⟨-, after⟩ | ⟨m', hm, after⟩
      · exact ih after
      · rw [openAgain_of_interrupted hm]
        exact ih after
    | case2 n e n' ho ne =>
      rcases opened h ho with ⟨more, -⟩ | ⟨m', hm, after⟩
      · exact absurd (Except.error.inj more) ne
      · rw [openAgain_of_answer hm fun he => ne (Except.error.inj he)]
        exact ⟨rfl, after⟩
    | case3 n fd n' ho =>
      rcases opened h ho with ⟨more, -⟩ | ⟨m', hm, after⟩
      · cases more
      · rw [openAgain_of_answer hm (by simp)]
        exact ⟨rfl, after⟩
  intro m n h
  simp only [openPath]
  split
  · exact ⟨rfl, h⟩
  · obtain ⟨answer, after⟩ := again h
    exact ⟨congrArg (Except.mapError IoError.os) answer, after⟩

/-! ## Transfers -/

theorem Disturbed.refreshed (h : m.Disturbed rings n) (fd : Descriptor) (content : Option Bytes) :
    (m.refreshed fd content).Disturbed rings (n.refreshed fd content) := by
  unfold Machine.refreshed
  rw [h.path?]
  split
  · next bytes p _ =>
    have files : m.files.editContent p (fun _ => bytes) = n.files.editContent p fun _ => bytes := by
      rw [h.files]
    exact ⟨files, h.umask, h.descriptors, h.ringSupport, h.schedule⟩
  · exact h

/-- A read is interrupted once more, or goes the same way. -/
theorem Disturbed.read (h : m.Disturbed rings n) (fd : Descriptor) (length offset : Nat) :
    ((n.read fd length offset).1 = .error .interrupted ∧
        m.Disturbed rings (n.read fd length offset).2) ∨
      ((m.read fd length offset).1 = (n.read fd length offset).1 ∧
        (m.read fd length offset).2.Disturbed rings (n.read fd length offset).2) := by
  simp only [Machine.read, transferIn, next_rest]
  rcases h.schedule.read.next {} with ⟨⟨signal, unchanged⟩, rest⟩ | ⟨same, rest⟩
  · left
    rw [signal, unchanged]
    exact ⟨rfl, h.files, h.umask, h.descriptors, h.ringSupport, { h.schedule with read := rest }⟩
  · right
    have left : Disturbed rings { m with schedule.read := m.schedule.read.tail }
        { n with schedule.read := n.schedule.read.tail } :=
      ⟨h.files, h.umask, h.descriptors, h.ringSupport, { h.schedule with read := rest }⟩
    rw [same]
    have after := left.refreshed fd (next ({} : ReadAnswer) n.schedule.read).1.content
    rw [after.node? fd]
    exact ⟨rfl, after.record ..⟩

/-- A write is interrupted once more, or goes the same way. -/
theorem Disturbed.write (h : m.Disturbed rings n) (fd : Descriptor) (bytes : Bytes) (offset : Nat) :
    ((n.write fd bytes offset).1 = .error .interrupted ∧
        m.Disturbed rings (n.write fd bytes offset).2) ∨
      ((m.write fd bytes offset).1 = (n.write fd bytes offset).1 ∧
        (m.write fd bytes offset).2.Disturbed rings (n.write fd bytes offset).2) := by
  simp only [Machine.write, transferOut, next_rest]
  rcases h.schedule.write.next {} with ⟨signal, rest⟩ | ⟨same, rest⟩
  · left
    rw [signal]
    exact ⟨rfl, h.files, h.umask, h.descriptors, h.ringSupport, { h.schedule with write := rest }⟩
  · right
    have left : Disturbed rings { m with schedule.write := m.schedule.write.tail }
        { n with schedule.write := n.schedule.write.tail } :=
      ⟨h.files, h.umask, h.descriptors, h.ringSupport, { h.schedule with write := rest }⟩
    rw [same, left.path? fd]
    generalize next ({} : WriteAnswer) n.schedule.write = answer
    cases answer.1.errno with
    | some e => exact ⟨rfl, left.record ..⟩
    | none =>
      generalize Machine.path? { n with schedule.write := n.schedule.write.tail } fd = there
      cases there with
      | none => exact ⟨rfl, left.record ..⟩
      | some p =>
        generalize bytes.take (answer.1.short.getD bytes.length) = written
        have files : m.files.editContent p (·.spliced offset written) =
            n.files.editContent p (·.spliced offset written) := by rw [h.files]
        by_cases nothing : written = []
        · simp only [if_pos nothing]
          exact ⟨trivial, left.record ..⟩
        · simp only [if_neg nothing]
          exact ⟨trivial, files, h.umask, h.descriptors, h.ringSupport, left.schedule⟩

end Machine

end WholeFile
