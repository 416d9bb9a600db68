import WholeFile.Proofs.Machine.Before

/-!
# Machines apart from their waits

Waiting on a ring moves nothing: it uses up answers to waits and adds to the journal. What a
machine is apart from that can be looked at in two ways. The quiet machine keeps what rings carried
out under the tickets it was carried out for. The plain one tells it as if blocking calls had done
it, so that machines can be compared across backends.
-/

namespace WholeFile

/-! ## Views of a journal -/

/-- The event is a call that does more than wait. -/
def Event.acts : Event → Bool
  | call (.enter _ _) => false
  | call _ => true
  | log _ => false

/-- What a call did, whoever carried it out. Waiting did nothing. -/
def Call.deed? : Call → Option Call
  | enter _ _ => none
  | ringRead _ fd length offset answer => some (.read fd length offset answer)
  | ringWrite _ fd bytes offset answer => some (.write fd bytes offset answer)
  | c => some c

namespace Journal

/-- What was done, in order. -/
def deeds (j : Journal) : List Call := j.calls.filterMap Call.deed?

theorem deeds_append (i j : Journal) : deeds (i ++ j) = deeds i ++ deeds j := by
  rw [deeds, calls_append, List.filterMap_append]
  rfl

theorem deeds_filter_acts (j : Journal) : deeds (j.filter Event.acts) = deeds j := by
  induction j with
  | nil => rfl
  | cons event j ih =>
    rw [← List.singleton_append, List.filter_append, deeds_append, deeds_append, ih]
    congr 1
    cases event with
    | call c => cases c <;> rfl
    | log l => rfl

end Journal

/-! ## Views of a machine -/

namespace Machine

/-- The machine with other answers to waits and another journal, which only waits would notice. -/
def rebased (m : Machine) (enter : List EnterAnswer) (journal : Journal) : Machine :=
  { m with schedule.enter := enter, journal }

def quiet (m : Machine) : Machine := m.rebased [] (m.journal.filter Event.acts)

def plain (m : Machine) : Machine := m.rebased [] (m.journal.deeds.map .call)

theorem rebased_rebased (m : Machine) (e e' : List EnterAnswer) (j j' : Journal) :
    (m.rebased e j).rebased e' j' = m.rebased e' j' := rfl

theorem plain_quiet (m : Machine) : m.quiet.plain = m.plain := by
  unfold plain quiet
  rw [rebased_rebased]
  congr 2
  exact Journal.deeds_filter_acts m.journal

theorem plain_eq_of_quiet_eq {m n : Machine} (h : m.quiet = n.quiet) : m.plain = n.plain := by
  rw [← plain_quiet m, h, plain_quiet]

theorem files_of_plain {m n : Machine} (h : m.plain = n.plain) : m.files = n.files := by
  have : m.plain.files = n.plain.files := by rw [h]
  exact this

theorem descriptors_of_plain {m n : Machine} (h : m.plain = n.plain) :
    m.descriptors = n.descriptors := by
  have : m.plain.descriptors = n.plain.descriptors := by rw [h]
  exact this

theorem path?_of_plain {m n : Machine} (h : m.plain = n.plain) (fd : Descriptor) :
    m.path? fd = n.path? fd := by
  unfold path?
  rw [descriptors_of_plain h]

theorem deeds_of_plain {m n : Machine} (h : m.plain = n.plain) :
    m.journal.deeds = n.journal.deeds := by
  have journals : m.plain.journal = n.plain.journal := by rw [h]
  exact List.map_inj_right (fun _ _ => Event.call.inj) |>.1 journals

theorem acts_of_quiet {m n : Machine} (h : m.quiet = n.quiet) :
    m.journal.filter Event.acts = n.journal.filter Event.acts := by
  have : m.quiet.journal = n.quiet.journal := by rw [h]
  exact this

/-- Machines that are quietly the same have done the same since, but for waiting. -/
theorem acts_since {m n o : Machine} (hn : m.Before n) (ho : m.Before o) (h : n.quiet = o.quiet) :
    (m.since n).filter Event.acts = (m.since o).filter Event.acts := by
  have := acts_of_quiet h
  rw [hn.journal_eq, ho.journal_eq, List.filter_append, List.filter_append] at this
  exact List.append_cancel_left this

theorem deeds_since {m n o : Machine} (hn : m.Before n) (ho : m.Before o) (h : n.plain = o.plain) :
    (m.since n).deeds = (m.since o).deeds := by
  have := deeds_of_plain h
  rw [hn.journal_eq, ho.journal_eq, Journal.deeds_append, Journal.deeds_append] at this
  exact List.append_cancel_left this

/-! ## What waiting leaves as it was -/

theorem quiet_record_enter (m : Machine) (queued : Nat) (answer : Except Errno Nat) :
    (m.record (.enter queued answer)).quiet = m.quiet := by
  unfold quiet record
  rw [List.filter_append]
  simp [rebased, Event.acts]

theorem quiet_record {c : Call} (h : (Event.call c).acts) (m : Machine) :
    (m.record c).quiet = m.quiet.record c := by
  unfold quiet record
  rw [List.filter_append]
  simp [rebased, h]

theorem quiet_log (m : Machine) (level : LogLevel) (source : LogSource) (message : String) :
    (m.log level source message).quiet = m.quiet := by
  unfold quiet log
  rw [List.filter_append]
  simp [rebased, Event.acts]

theorem plain_record {c d : Call} (h : c.deed? = some d) (m : Machine) :
    (m.record c).plain = m.plain.record d := by
  unfold plain record
  rw [Journal.deeds_append]
  simp [rebased, Journal.deeds, Journal.calls, Event.call?, h]

theorem plain_log (m : Machine) (level : LogLevel) (source : LogSource) (message : String) :
    (m.log level source message).plain = m.plain := by
  rw [← plain_quiet, quiet_log, plain_quiet]

/-! ## Transfers do not look at waits -/

theorem refreshed_rebased (m : Machine) (e : List EnterAnswer) (j : Journal) (fd : Descriptor)
    (content : Option Bytes) :
    (m.rebased e j).refreshed fd content = (m.refreshed fd content).rebased e j := by
  unfold refreshed rebased
  simp only [path?]
  split <;> rfl

theorem transferIn_rebased (m : Machine) (e : List EnterAnswer) (j : Journal) (fd : Descriptor)
    (length offset : Nat) :
    (m.rebased e j).transferIn fd length offset =
      ((m.transferIn fd length offset).1, (m.transferIn fd length offset).2.rebased e j) := by
  have moved := { m with schedule.read := m.schedule.read.tail }.refreshed_rebased e j fd
    (next ({} : ReadAnswer) m.schedule.read).1.content
  simp only [rebased] at moved
  simp only [transferIn, rebased, next_rest, moved, node?, path?]

theorem transferOut_rebased (m : Machine) (e : List EnterAnswer) (j : Journal) (fd : Descriptor)
    (bytes : Bytes) (offset : Nat) :
    (m.rebased e j).transferOut fd bytes offset =
      ((m.transferOut fd bytes offset).1, (m.transferOut fd bytes offset).2.rebased e j) := by
  simp only [transferOut, rebased, path?]
  cases (next ({} : WriteAnswer) m.schedule.write).1.errno with
  | some e => rfl
  | none =>
    cases (m.descriptors[fd]?).join with
    | none => rfl
    | some p =>
      by_cases h : bytes.take ((next ({} : WriteAnswer) m.schedule.write).1.short.getD
        bytes.length) = []
      · simp [h]
      · simp [h]

/-! ## No call looks at waits -/

theorem allocate_rebased (m : Machine) (e : List EnterAnswer) (j : Journal) (p : Path) :
    (m.rebased e j).allocate p = ((m.allocate p).1, (m.allocate p).2.rebased e j) := by
  unfold allocate rebased
  simp only
  split <;> rfl

theorem opened_rebased (m : Machine) (e : List EnterAnswer) (j : Journal) (p : Path)
    (access : Access) (mode : Nat) :
    (m.rebased e j).opened p access mode =
      ((m.opened p access mode).1, (m.opened p access mode).2.rebased e j) := by
  have same : (m.rebased e j).filesOpened p access mode = m.filesOpened p access mode := rfl
  unfold opened
  rw [same]
  cases m.filesOpened p access mode with
  | error e' => rfl
  | ok files =>
    have moved := allocate_rebased { m with files } e j p
    simp only [rebased] at moved ⊢
    rw [moved]

theorem opened_plain (m : Machine) (p : Path) (access : Access) (mode : Nat) :
    m.plain.opened p access mode =
      ((m.opened p access mode).1, (m.opened p access mode).2.plain) := by
  unfold plain
  rw [opened_rebased, journal_opened]

theorem openFile_plain (m : Machine) (p : Path) (access : Access) (mode : Nat) :
    m.plain.openFile p access mode =
      ((m.openFile p access mode).1, (m.openFile p access mode).2.plain) := by
  have moved := opened_plain { m with schedule.openFile := m.schedule.openFile.tail } p access mode
  have queue : m.plain.schedule.openFile = m.schedule.openFile := rfl
  simp only [openFile, next_rest, queue]
  cases (next none m.schedule.openFile).1 with
  | some e =>
    simp only
    rw [plain_record (c := .openFile ..) rfl]
    rfl
  | none =>
    have moved' : opened { m.plain with schedule.openFile := m.schedule.openFile.tail } p access mode =
        _ := moved
    simp only
    rw [plain_record (c := .openFile ..) rfl, moved']

theorem close_plain (m : Machine) (fd : Descriptor) :
    m.plain.close fd = ((m.close fd).1, (m.close fd).2.plain) := by
  unfold close
  simp only
  rw [plain_record (c := .close ..) rfl]
  rfl

theorem size_plain (m : Machine) (fd : Descriptor) :
    m.plain.size fd = ((m.size fd).1, (m.size fd).2.plain) := by
  unfold size
  simp only
  rw [plain_record (c := .size ..) rfl]
  rfl

theorem read_plain (m : Machine) (fd : Descriptor) (length offset : Nat) :
    m.plain.read fd length offset =
      ((m.read fd length offset).1, (m.read fd length offset).2.plain) := by
  have moved : m.plain.transferIn fd length offset =
      ((m.transferIn fd length offset).1, (m.transferIn fd length offset).2.plain) := by
    unfold plain
    rw [transferIn_rebased, journal_transferIn]
  simp only [read]
  rw [plain_record (c := .read ..) rfl, moved]

theorem write_plain (m : Machine) (fd : Descriptor) (bytes : Bytes) (offset : Nat) :
    m.plain.write fd bytes offset =
      ((m.write fd bytes offset).1, (m.write fd bytes offset).2.plain) := by
  have moved : m.plain.transferOut fd bytes offset =
      ((m.transferOut fd bytes offset).1, (m.transferOut fd bytes offset).2.plain) := by
    unfold plain
    rw [transferOut_rebased, journal_transferOut]
  simp only [write]
  rw [plain_record (c := .write ..) rfl, moved]

/-- Machines that are plainly the same answer alike, and stay plainly the same. -/
theorem congr_of_plain {α : Type} {f : Machine → α × Machine}
    (commutes : ∀ m : Machine, f m.plain = ((f m).1, (f m).2.plain)) {m n : Machine}
    (h : m.plain = n.plain) : (f m).1 = (f n).1 ∧ (f m).2.plain = (f n).2.plain := by
  have both : ((f m).1, (f m).2.plain) = ((f n).1, (f n).2.plain) := by
    rw [← commutes, ← commutes, h]
  exact Prod.mk.inj both

theorem openAgain_of_interrupted {m n : Machine} {p : Path} {access : Access} {mode : Nat}
    (h : m.openFile p access mode = (.error .interrupted, n)) :
    m.openAgain p access mode = n.openAgain p access mode := by
  rw [openAgain]
  split
  · next ho =>
    rw [h] at ho
    cases ho
    rfl
  · next ho =>
    rw [h] at ho
    cases ho

theorem openAgain_of_answer {m n : Machine} {p : Path} {access : Access} {mode : Nat}
    {answer : Except Errno Descriptor} (h : m.openFile p access mode = (answer, n))
    (ne : answer ≠ .error .interrupted) : m.openAgain p access mode = (answer, n) := by
  rw [openAgain]
  split
  · next e n' ho =>
    rw [h] at ho
    cases ho
    rw [dif_neg fun he => ne (congrArg Except.error he)]
  · next ho =>
    rw [h] at ho
    cases ho
    rfl

theorem openAgain_congr {m n : Machine} (h : m.plain = n.plain) (p : Path) (access : Access)
    (mode : Nat) :
    (m.openAgain p access mode).1 = (n.openAgain p access mode).1 ∧
      (m.openAgain p access mode).2.plain = (n.openAgain p access mode).2.plain := by
  have opened {m n m' : Machine} {answer : Except Errno Descriptor} (h : m.plain = n.plain)
      (ho : m.openFile p access mode = (answer, m')) :
      ∃ n', n.openFile p access mode = (answer, n') ∧ m'.plain = n'.plain := by
    have same := congr_of_plain (f := fun m => m.openFile p access mode)
      (fun m => m.openFile_plain p access mode) h
    rw [ho] at same
    exact ⟨(n.openFile p access mode).2, Prod.ext same.1.symm rfl, same.2⟩
  fun_induction openAgain m p access mode generalizing n with
  | case1 m m' ho lt ih =>
    obtain ⟨n', hn, after⟩ := opened h ho
    rw [openAgain_of_interrupted hn]
    exact ih after
  | case2 m e m' ho ne =>
    obtain ⟨n', hn, after⟩ := opened h ho
    rw [openAgain_of_answer hn fun he => ne (Except.error.inj he)]
    exact ⟨rfl, after⟩
  | case3 m fd m' ho =>
    obtain ⟨n', hn, after⟩ := opened h ho
    rw [openAgain_of_answer hn (by simp)]
    exact ⟨rfl, after⟩

theorem openPath_congr {m n : Machine} (h : m.plain = n.plain) (p : Path) (access : Access)
    (mode : Nat) :
    (m.openPath p access mode).1 = (n.openPath p access mode).1 ∧
      (m.openPath p access mode).2.plain = (n.openPath p access mode).2.plain := by
  obtain ⟨answer, after⟩ := openAgain_congr h p access mode
  unfold openPath
  split
  · exact ⟨rfl, h⟩
  · exact ⟨congrArg (Except.mapError IoError.os) answer, after⟩

end Machine

end WholeFile
