import WholeFile.Proofs.Driver.Closing
import WholeFile.Proofs.Ring.CallCount
import WholeFile.Proofs.Ring.Growth

/-!
# How many calls an operation takes

Reading and writing a whole file end after so many calls as the answers to come, what a ring still
owes, and the bytes to be moved allow for. Each try at a transfer either uses up one of these, or is
the last one at its place in the file.
-/

namespace WholeFile

/-! ## What is left -/

/-- The entries that the kernel has not taken. -/
def Backend.queued : Backend → List Entry
  | .blocking => []
  | .ring r => r.queued

theorem Schedule.LeftOf.weight_le {s t : Schedule} (left : s.LeftOf t) : s.weight ≤ t.weight := by
  obtain ⟨used, enter⟩ := left.enter
  have read := left.read.length_le
  have write := left.write.length_le
  unfold weight
  rw [← enter, sumOver_append]
  omega

namespace Machine

theorem Before.called {m n : Machine} {c : Call} (before : m.Before n)
    (journal : n.journal = m.journal ++ [.call c]) :
    n.callCount + n.schedule.openFile.length ≤
      m.callCount + m.schedule.openFile.length + 1 := by
  have counted := callCount_of_call journal
  have left := before.schedule.openFile.length_le
  omega

/-- Each opening but the last takes an answer. -/
theorem openAgain_called (m : Machine) (p : Path) (access : Access) (mode : Nat) :
    (m.openAgain p access mode).2.callCount +
      (m.openAgain p access mode).2.schedule.openFile.length ≤
        m.callCount + m.schedule.openFile.length + 1 := by
  have last {m n : Machine} {answer : Except Errno Descriptor}
      (h : m.openFile p access mode = (answer, n)) :
      n.callCount + n.schedule.openFile.length ≤
        m.callCount + m.schedule.openFile.length + 1 := by
    have called := (m.before_openFile p access mode).called (m.journal_openFile p access mode)
    rwa [h] at called
  fun_induction openAgain m p access mode with
  | case1 m n h used ih =>
    have called := callCount_of_call (m.journal_openFile p access mode)
    rw [h] at called
    simp only at called
    omega
  | case2 m e n h | case3 m fd n h => exact last h

theorem openPath_called (m : Machine) (p : Path) (access : Access) (mode : Nat) :
    (m.openPath p access mode).2.callCount +
      (m.openPath p access mode).2.schedule.openFile.length ≤
        m.callCount + m.schedule.openFile.length + 1 := by
  unfold openPath
  split
  · exact Nat.le_succ _
  · exact m.openAgain_called p access mode

end Machine

/-- A transfer leaves no more behind than it was handed over with. -/
theorem Ring.weight_transfer (r : Ring) (m : Machine) (fd : Descriptor) (offset : Nat)
    (t : Transfer) (loan : Loan) :
    (r.transfer m fd offset t loan).2.weight ≤ Wait.weight ⟨m, r, loan⟩ + t.weight := by
  have pushed : Wait.weight ⟨m, r.push fd offset t, loan⟩ =
      Wait.weight ⟨m, r, loan⟩ + t.weight := by
    simp only [Wait.weight, weight_push, Nat.add_assoc]
  rcases r.transfer_cases m fd offset t loan with refused | waited
  · rw [refused]
    exact Nat.le_add_right _ _
  · have paid := (Wait.await_paid ⟨m, r.push fd offset t, loan⟩ t.tag
      (r.tag_mem_owed_push fd offset t)).le
    rw [waited]
    omega

namespace Host

variable {h : Host} {fd : Descriptor} {offset : Nat} {target : Target} {loan : Loan}

/-- The calls made, and those that entries and answers to come stand for. -/
def tally (h : Host) : Nat :=
  h.machine.callCount + h.machine.schedule.openFile.length + h.machine.schedule.enter.length +
    h.backend.queued.length

/-- The same, with two more calls for each try that can come to nothing. -/
def budget (h : Host) : Nat := h.tally + 2 * h.weight

theorem callCount_le_budget (h : Host) : h.machine.callCount ≤ h.budget := by
  unfold budget tally
  omega

/-! ## Calls aside from transfers -/

/-- Calls that the backend has no part in. -/
theorem tally_of_before {m n : Machine} (before : m.Before n) (b : Backend) {spent : Nat}
    (called : n.callCount + n.schedule.openFile.length ≤
      m.callCount + m.schedule.openFile.length + spent) :
    tally ⟨n, b⟩ ≤ tally ⟨m, b⟩ + spent := by
  have enter := before.schedule.enter.length_le
  simp only [tally]
  omega

theorem weight_of_before {m n : Machine} (before : m.Before n) (b : Backend) :
    weight ⟨n, b⟩ ≤ weight ⟨m, b⟩ := Nat.add_le_add_right before.schedule.weight_le _

theorem budget_of_before {m n : Machine} (before : m.Before n) (b : Backend) {spent : Nat}
    (called : n.callCount + n.schedule.openFile.length ≤
      m.callCount + m.schedule.openFile.length + spent) :
    budget ⟨n, b⟩ ≤ budget ⟨m, b⟩ + spent := by
  have tallied := tally_of_before before b called
  have lighter := weight_of_before before b
  unfold budget
  omega

theorem budget_log (h : Host) (level : LogLevel) (source : LogSource) (message : String) :
    budget { h with machine := h.machine.log level source message } ≤ h.budget := by
  have before := h.machine.before_log level source message
  have called : (h.machine.log level source message).callCount +
      (h.machine.log level source message).schedule.openFile.length ≤
        h.machine.callCount + h.machine.schedule.openFile.length + 0 := by
    rw [Machine.callCount_log]
    exact Nat.le_refl _
  exact budget_of_before before h.backend called

theorem budget_sized (h : Host) (fd : Descriptor) : (h.sized fd).budget ≤ h.budget + 1 := by
  have before := h.machine.before_size fd
  have called := before.called (c := .size fd (h.machine.size fd).1) rfl
  exact budget_of_before before h.backend called

theorem budget_close (h : Host) (fd : Descriptor) :
    budget { h with machine := (h.machine.close fd).2 } ≤ h.budget + 1 := by
  have before := h.machine.before_close fd
  have called := before.called (c := .close fd (h.machine.close fd).1) rfl
  exact budget_of_before before h.backend called

theorem budget_openPath (m : Machine) (b : Backend) (p : Path) (access : Access) (mode : Nat) :
    budget ⟨(m.openPath p access mode).2, b⟩ ≤ budget ⟨m, b⟩ + 1 :=
  budget_of_before (m.before_openPath p access mode) b (m.openPath_called p access mode)

/-! ## Tries -/

theorem tally_transfer (r : Ring) (m : Machine) (fd : Descriptor) (offset : Nat) (t : Transfer)
    (loan : Loan) :
    tally ⟨(r.transfer m fd offset t loan).2.machine,
      .ring (r.transfer m fd offset t loan).2.ring⟩ ≤ tally ⟨m, .ring r⟩ + 2 := by
  have opens := (r.before_transfer m fd offset t loan).schedule.openFile.length_le
  have tallied := r.tally_transfer m fd offset t loan
  simp only [Wait.tally] at tallied
  simp only [tally, Backend.queued]
  omega

theorem tally_tryRead (h : Host) (fd : Descriptor) (offset : Nat) (target : Target) (loan : Loan) :
    (h.tryRead fd offset target loan).host.tally ≤ h.tally + 2 := by
  obtain ⟨m, backend⟩ := h
  cases backend with
  | blocking =>
    have before := m.before_read fd (loan.room offset target) offset
    exact Nat.le_succ_of_le (tally_of_before before .blocking (before.called (m.journal_read ..)))
  | ring r => exact tally_transfer r m ..

theorem tally_tryWrite (h : Host) (fd : Descriptor) (offset : Nat) (bytes : Bytes) :
    (h.tryWrite fd offset bytes).host.tally ≤ h.tally + 2 := by
  obtain ⟨m, backend⟩ := h
  cases backend with
  | blocking =>
    have before := m.before_write fd bytes offset
    exact Nat.le_succ_of_le (tally_of_before before .blocking (before.called (m.journal_write ..)))
  | ring r => exact tally_transfer r m ..

theorem weight_tryRead (h : Host) (fd : Descriptor) (offset : Nat) (target : Target)
    (loan : Loan) : (h.tryRead fd offset target loan).host.weight ≤ h.weight + 1 := by
  obtain ⟨m, backend⟩ := h
  cases backend with
  | blocking =>
    exact Nat.le_succ_of_le (weight_of_before (m.before_read fd (loan.room offset target) offset) _)
  | ring r => exact r.weight_transfer ..

theorem weight_tryWrite (h : Host) (fd : Descriptor) (offset : Nat) (bytes : Bytes) :
    (h.tryWrite fd offset bytes).host.weight ≤ h.weight + 2 := by
  obtain ⟨m, backend⟩ := h
  cases backend with
  | blocking => exact Nat.le_add_right_of_le (weight_of_before (m.before_write fd bytes offset) _)
  | ring r => exact r.weight_transfer ..

/-! ## Transfers that outlast signals -/

/-- A try that is made again has been paid for by the signal that it met. -/
theorem budget_of_lighter {h' : Host} (tallied : h'.tally ≤ h.tally + 2)
    (lighter : h'.weight < h.weight) : h'.budget ≤ h.budget := by
  unfold budget
  omega

theorem budget_of_heavier {h' : Host} {k : Nat} (tallied : h'.tally ≤ h.tally + 2)
    (weighs : h'.weight ≤ h.weight + k) : h'.budget ≤ h.budget + (2 + 2 * k) := by
  unfold budget
  omega

theorem budget_readAt (h : Host) (fd : Descriptor) (offset : Nat) (target : Target) (loan : Loan) :
    (h.readAt fd offset target loan).host.budget ≤ h.budget + 4 := by
  fun_induction readAt h fd offset target loan with
  | case1 h loan a hi ih =>
    have paid : a.host.budget ≤ h.budget :=
      budget_of_lighter (tally_tryRead ..) (tryRead_interrupted hi)
    exact Nat.le_trans ih (Nat.add_le_add_right paid 4)
  | case2 h loan a hi => exact budget_of_heavier (tally_tryRead ..) (weight_tryRead ..)

theorem budget_writeAt (h : Host) (fd : Descriptor) (offset : Nat) (bytes : Bytes) :
    (h.writeAt fd offset bytes).host.budget ≤ h.budget + 6 := by
  fun_induction writeAt h fd offset bytes with
  | case1 h a hi ih =>
    have paid : a.host.budget ≤ h.budget :=
      budget_of_lighter (tally_tryWrite ..) (tryWrite_interrupted hi)
    exact Nat.le_trans ih (Nat.add_le_add_right paid 6)
  | case2 h a hi => exact budget_of_heavier (tally_tryWrite ..) (weight_tryWrite ..)

/-! ## Whole files -/

/-- Each write but the last gets further. -/
theorem budget_writeAll (h : Host) (fd : Descriptor) (bytes : Bytes) (written : Nat) :
    (h.writeAll fd bytes written).2.budget ≤ h.budget + 6 * (bytes.length - written) := by
  have wrote (h : Host) {written : Nat} (lt : written < bytes.length) :
      (h.writeAt fd written (bytes.drop written)).host.budget ≤
        h.budget + 6 * (bytes.length - written) := by
    have := h.budget_writeAt fd written (bytes.drop written)
    omega
  fun_induction writeAll h fd bytes written with
  | case1 h written lt a e ha | case2 h written lt a ha => exact wrote h lt
  | case3 h written lt a n ha ih =>
    have stepped : a.host.budget ≤ h.budget + 6 := budget_writeAt ..
    omega
  | case4 h written done => exact Nat.le_add_right _ _

theorem budget_readStep (h : Host) (fd : Descriptor) (f : Fill) :
    (h.readStep fd f).2.budget ≤ h.budget + 4 := by
  rcases readStep_host h fd f with same | ⟨target, same⟩
  · rw [same]
    exact Nat.le_add_right _ 4
  · rw [same]
    exact budget_readAt ..

/-! ## How far a reading gets -/

/-- Nothing that the host has makes the file at `p` longer than the limit. -/
structure Within (p : Path) (limit : Nat) (h : Host) : Prop where
  machine : h.machine.Within p limit
  queued : ∀ e ∈ h.backend.queued, e.writeEnd ≤ limit

variable {p : Path} {limit : Nat} {f : Fill}

theorem Within.tryRead (within : h.Within p limit) (fd : Descriptor) (offset : Nat)
    (target : Target) (loan : Loan) : (h.tryRead fd offset target loan).host.Within p limit := by
  obtain ⟨m, backend⟩ := h
  cases backend with
  | blocking =>
    have moved := within.machine.transferIn fd (loan.room offset target) offset
    exact ⟨moved.record _, within.queued⟩
  | ring r =>
    have handed : Wait.Within p limit ⟨m, r, loan⟩ := ⟨within.machine, within.queued⟩
    have waited := handed.transfer fd offset (min (loan.room offset target) maxRequest) target
    exact ⟨waited.machine, waited.queued⟩

theorem Within.readAt (within : h.Within p limit) (fd : Descriptor) (offset : Nat)
    (target : Target) (loan : Loan) : (h.readAt fd offset target loan).host.Within p limit := by
  fun_induction Host.readAt h fd offset target loan with
  | case1 h loan a hi ih => exact ih (within.tryRead ..)
  | case2 h loan a hi => exact within.tryRead ..

theorem Within.readStep (within : h.Within p limit) (fd : Descriptor) (f : Fill) :
    (h.readStep fd f).2.Within p limit := by
  rcases readStep_host h fd f with same | ⟨target, same⟩
  · rw [same]
    exact within
  · rw [same]
    exact within.readAt ..

/-- Each step but the last uses something up, or gets nearer to where no file can end past. -/
theorem budget_readAll (path : h.machine.path? fd = some p) (within : h.Within p limit) (f : Fill) :
    (h.readAll fd f).2.budget ≤ h.budget + 4 * (h.weight + (limit - f.filled) + 1) := by
  have stepped {h h' : Host} {f : Fill} {step : FillStep} (hs : h.readStep fd f = (step, h')) :
      h'.budget ≤ h.budget + 4 := by
    have := h.budget_readStep fd f
    rwa [hs] at this
  fun_induction readAll h fd f with
  | case1 h f f' h' hs closer ih =>
    have stays : h'.machine.path? fd = some p := by
      have same := descriptors_lasting.readStep h fd f
      rw [hs] at same
      rwa [Machine.path?, same]
    have within' := within.readStep fd f
    rw [hs] at within'
    have fewer : h'.weight + (limit - f'.filled) < h.weight + (limit - f.filled) := by
      have further := (readStep_eq_more hs).1
      have ends := within.machine.extent_le path
      rcases closer with lt | ⟨same, nearer⟩
      · omega
      · omega
    have := ih stays within'
    have := stepped hs
    omega
  | case2 h f f' h' hs | case3 h f cause h' hs => exact Nat.le_trans (stepped hs) (by omega)

theorem budget_finish (p : Path) (run : Except Failure Fill × Host) :
    (finish p run).2.budget ≤ run.2.budget := by
  unfold finish
  split
  · exact Nat.le_refl _
  · split
    · exact Nat.le_refl _
    · exact budget_log ..

theorem budget_settle (fd : Descriptor) (p : Path) (run : Except Error Nat × Host) :
    (settle fd p run).2.budget ≤ run.2.budget + 1 := by
  obtain ⟨result, h⟩ := run
  have closed := h.budget_close fd
  cases result with
  | error cause => exact closed
  | ok written =>
    unfold settle
    cases hc : h.machine.close fd with
    | mk answer m =>
      rw [hc] at closed
      simp only [hc]
      cases answer with
      | error e => exact closed
      | ok _ => exact Nat.le_trans (budget_log { h with machine := m } ..) closed

theorem budget_readOpen (path : h.machine.path? fd = some p) (within : h.Within p limit)
    (q : Path) : (h.readOpen fd q).2.budget ≤ h.budget + 4 * (h.weight + limit) + 5 := by
  have before := h.machine.before_size fd
  have asked := h.budget_sized fd
  have lighter : (h.sized fd).weight ≤ h.weight := weight_of_before before h.backend
  apply readOpen_cases
    (P := fun run => run.2.budget ≤ h.budget + 4 * (h.weight + limit) + 5)
  · intro e _
    exact Nat.le_trans asked (by omega)
  · intro hint e _ _
    exact Nat.le_trans asked (by omega)
  · intro hint b _ _
    have sized : (h.sized fd).Within p limit :=
      ⟨within.machine.of_before before rfl, within.queued⟩
    have path' : (h.sized fd).machine.path? fd = some p := path
    have read := budget_readAll path' sized ⟨b, 0, h.issued⟩
    have finished := budget_finish q ((h.sized fd).readAll fd ⟨b, 0, h.issued⟩)
    simp only [Nat.sub_zero] at read
    omega

end Host

namespace Driver

variable {d : Driver} {m : Machine} {p : Path} {limit : Nat}

theorem budget_writeFile (d : Driver) (m : Machine) (p : Path) (bytes : Bytes) :
    (d.writeFile m p bytes).host.budget ≤ (d.host m).budget + 6 * bytes.length + 2 := by
  have opened := Host.budget_openPath m d.backend p .replace d.fileMode
  change _ ≤ (d.host m).budget + 1 at opened
  unfold writeFile
  split
  · next ho =>
    rw [ho] at opened
    exact Nat.le_trans opened (by omega)
  · next fd n ho =>
    rw [ho] at opened
    have wrote := Host.budget_writeAll ⟨n, d.backend⟩ fd bytes 0
    have settled := Host.budget_settle fd p (Host.writeAll ⟨n, d.backend⟩ fd bytes 0)
    change (Host.settle fd p (Host.writeAll ⟨n, d.backend⟩ fd bytes 0)).2.budget ≤ _
    simp only at opened
    omega

theorem budget_readFile (within : (d.host m).Within p limit) :
    (d.readFile m p).host.budget ≤ (d.host m).budget + 4 * ((d.host m).weight + limit) + 7 := by
  have opened := Host.budget_openPath m d.backend p .read 0
  have opens := m.openPath_opens p .read 0
  have before := m.before_openPath p .read 0
  have lighter := Host.weight_of_before before d.backend
  change _ ≤ (d.host m).budget + 1 at opened
  change _ ≤ (d.host m).weight at lighter
  unfold readFile
  split
  · next ho =>
    rw [ho] at opened
    exact Nat.le_trans opened (by omega)
  · next fd n ho =>
    rw [ho] at opened lighter opens before
    cases opens with
    | opened _ _ _ _ files path =>
      have there : Host.Within p limit ⟨n, d.backend⟩ :=
        ⟨within.machine.of_before before (Machine.filesOpened_read files).1, within.queued⟩
      have read := Host.budget_readOpen path there p
      have closed := Host.budget_close (Host.readOpen ⟨n, d.backend⟩ fd p).2 fd
      simp only at opened lighter
      exact Nat.le_trans closed (by omega)

end Driver

/-! ## Bounds -/

/-- How many answers are to come, with the completions out of nowhere that they bring. -/
def Schedule.length (s : Schedule) : Nat :=
  s.openFile.length + s.size.length + s.read.length + s.write.length + s.close.length +
    s.setup.length + s.probe.length + s.enter.length + sumOver (·.stray.length) s.enter

/-- How many entries a ring has that have not been collected. -/
def Backend.backlog : Backend → Nat
  | .blocking => 0
  | .ring r => r.queued.length + r.inFlight.length + r.posted.length

/-- How long the file at `p` can get while it is read. -/
def Host.longest (h : Host) (p : Path) : Nat :=
  let lengths := (h.machine.files.content p).length ::
    (h.machine.schedule.read.filterMap fun a => a.content.map List.length) ++
      h.backend.queued.map Entry.writeEnd
  lengths.foldr max 0

theorem le_foldr_max {ns : List Nat} {n : Nat} (mem : n ∈ ns) : n ≤ ns.foldr max 0 := by
  induction ns with
  | nil => cases mem
  | cons n' ns ih =>
    rw [List.foldr_cons]
    rcases List.mem_cons.1 mem with rfl | mem
    · exact Nat.le_max_left _ _
    · exact Nat.le_trans (ih mem) (Nat.le_max_right _ _)

theorem Host.within_longest (h : Host) (p : Path) : h.Within p (h.longest p) where
  machine := by
    refine ⟨le_foldr_max (List.mem_append_left _ List.mem_cons_self), fun a mem bytes there => ?_⟩
    apply le_foldr_max
    apply List.mem_append_left
    apply List.mem_cons_of_mem
    exact List.mem_filterMap.2 ⟨a, mem, by rw [there]; rfl⟩
  queued e mem := le_foldr_max (List.mem_append_right _ (List.mem_map_of_mem mem))

theorem price_le_two (result : Except IoError Nat) : price result ≤ 2 := by
  unfold price
  repeat' split
  all_goals decide

theorem Completion.weight_le_two (c : Completion) : c.weight ≤ 2 := price_le_two c.outcome

theorem Transfer.weight_le_two (t : Transfer) : t.weight ≤ 2 := by
  cases t with
  | read length target => exact Nat.le_succ 1
  | write bytes => exact Nat.le_refl 2

theorem sumOver_le {α : Type} {f : α → Nat} {k : Nat} (le : ∀ a, f a ≤ k) (as : List α) :
    sumOver f as ≤ k * as.length := by
  induction as with
  | nil => exact Nat.zero_le _
  | cons a as ih =>
    have := le a
    rw [sumOver, List.length_cons, Nat.mul_succ]
    omega

theorem EnterAnswer.weights_le (as : List EnterAnswer) :
    sumOver weight as ≤ as.length + 2 * sumOver (·.stray.length) as := by
  induction as with
  | nil => exact Nat.zero_le _
  | cons a as ih =>
    have strays : a.weight ≤ 1 + 2 * a.stray.length :=
      Nat.add_le_add_left (sumOver_le (fun _ => price_le_two _) a.stray) 1
    rw [sumOver, sumOver, List.length_cons]
    omega

theorem Ring.weight_le (r : Ring) :
    r.weight ≤ 2 * (r.queued.length + r.inFlight.length + r.posted.length) := by
  have queued := sumOver_le (fun e : Entry => e.transfer.weight_le_two) r.queued
  have inFlight := sumOver_le Completion.weight_le_two r.inFlight
  have posted := sumOver_le Completion.weight_le_two r.posted
  unfold weight
  omega

/-- How many answers and entries are left to be used up. -/
def Host.stock (h : Host) : Nat := h.machine.schedule.length + h.backend.backlog

theorem Host.weight_le_stock (h : Host) :
    h.weight ≤ 3 * h.stock ∧ h.budget ≤ h.machine.callCount + 6 * h.stock := by
  have enter := EnterAnswer.weights_le h.machine.schedule.enter
  obtain ⟨m, backend⟩ := h
  cases backend with
  | blocking =>
    simp only [budget, tally, weight, stock, Schedule.weight, Schedule.length, Backend.queued,
      Backend.backlog, List.length_nil] at enter ⊢
    omega
  | ring r =>
    have ring := r.weight_le
    simp only [budget, tally, weight, stock, Schedule.weight, Schedule.length, Backend.queued,
      Backend.backlog] at enter ⊢
    omega

/-- Whatever the answers to come, the driver and its ring, the files and the sizes they report,
reading and writing a whole file end, and after no more calls than these. -/
theorem Driver.calls_bounded (d : Driver) (m : Machine) (p : Path) :
    (m.Before (d.readFile m p).machine ∧
      (m.since (d.readFile m p).machine).calls.length ≤
        18 * (d.host m).stock + 4 * (d.host m).longest p + 7) ∧
    ∀ bytes : Bytes, m.Before (d.writeFile m p bytes).machine ∧
      (m.since (d.writeFile m p bytes).machine).calls.length ≤
        6 * (d.host m).stock + 6 * bytes.length + 2 := by
  obtain ⟨weight, budget⟩ := (d.host m).weight_le_stock
  change (d.host m).budget ≤ m.callCount + _ at budget
  refine ⟨?_, fun bytes => ?_⟩
  · have before : m.Before (d.readFile m p).machine :=
      enduring_readFile Host.before_enduring d m p
    have read := budget_readFile ((d.host m).within_longest p)
    have called := (d.readFile m p).host.callCount_le_budget
    have counted := before.callCount_eq
    change (d.readFile m p).machine.callCount ≤ _ at called
    exact ⟨before, by omega⟩
  · have before : m.Before (d.writeFile m p bytes).machine :=
      enduring_writeFile Host.before_enduring d m p bytes
    have wrote := d.budget_writeFile m p bytes
    have called := (d.writeFile m p bytes).host.callCount_le_budget
    have counted := before.callCount_eq
    change (d.writeFile m p bytes).machine.callCount ≤ _ at called
    exact ⟨before, by omega⟩

end WholeFile
