import Mathlib
import WholeFile.Proofs.Driver.Remarks
import WholeFile.Proofs.Driver.Revised
import WholeFile.Proofs.Driver.Writing

/-!
# What drivers report

A driver reports each file that it has read or written whole, once, and no other. By then nothing
can go wrong any more: what is left to do after a read is to close the file, and its answer is not
looked at.
-/

namespace WholeFile

/-! ## Reports -/

namespace Journal

/-- The lines that one part of the library has logged at debug level, in order. -/
def reports (source : LogSource) (j : Journal) : List LogLine :=
  j.lines.filter fun l => l.level = .debug ∧ l.source = source

variable {source : LogSource}

theorem reports_append (i j : Journal) :
    reports source (i ++ j) = reports source i ++ reports source j := by
  rw [reports, lines_append, List.filter_append]
  rfl

/-- Every report is remarked on. -/
theorem reports_remarks (j : Journal) : j.remarks.reports source = j.reports source := by
  unfold reports lines remarks
  rw [List.filter_filterMap, List.filter_filterMap, List.filterMap_filter]
  congr 1
  funext e
  cases e with
  | call c => cases c <;> rfl
  | log l => cases h : l.level <;> simp [Event.remarkable, Event.log?, Option.filter, h]

end Journal

namespace Machine

variable {m n : Machine} {source : LogSource}

theorem reports_record (m : Machine) (c : Call) :
    (m.record c).journal.reports source = m.journal.reports source := by
  rw [record, Journal.reports_append]
  exact List.append_nil _

theorem reports_log_of_ne {other : LogSource} (ne : other ≠ source) (level : LogLevel)
    (message : String) :
    (m.log level other message).journal.reports source = m.journal.reports source := by
  rw [log, Journal.reports_append]
  simp [Journal.reports, Journal.lines, Event.log?, ne]

theorem Unremarked.unreported (unremarked : m.Unremarked n) :
    ∃ before, n.journal = m.journal ++ before ∧ ∀ source, before.reports source = [] := by
  obtain ⟨before, journal, silent⟩ := unremarked.routine
  refine ⟨before, journal, fun source => ?_⟩
  rw [← Journal.reports_remarks, silent]
  rfl

end Machine

/-! ## Files read -/

namespace Driver

/-- A read is reported if and only if it succeeds. -/
structure ReportsRead (d : Driver) (m : Machine) (p : Path) : Prop where
  done : ∀ b, (d.readFile m p).result = .ok b → ∃ before fd answer,
    (d.readFile m p).machine.journal = m.journal ++ before ++
      [.log ⟨.debug, .driver, readMessage p b.size⟩, .call (.close fd answer)] ∧
    ∀ source, before.reports source = []
  failed : ∀ cause, (d.readFile m p).result = .error cause → ∃ before,
    (d.readFile m p).machine.journal = m.journal ++ before ∧ ∀ source, before.reports source = []
  /-- It ends the same way whatever closing is answered with. -/
  closing : ∀ answers,
    (d.readFile { m with schedule.close := answers } p).result = (d.readFile m p).result

theorem reportsRead (d : Driver) (m : Machine) (p : Path) : d.ReportsRead m p := by
  obtain ⟨n, unremarked, told⟩ := d.readFile_remarks m p
  obtain ⟨before, journal, silent⟩ := unremarked.unreported
  have same (answers : List (Option Errno)) :=
    d.result_readFile_revised m [] p fun _ => answers
  rcases told with ⟨b, fd, result, machine⟩ | ⟨cause, result, machine⟩
  · refine ⟨fun b' result' => ?_, fun cause failed => ?_, same⟩
    · cases result.symm.trans result'
      let told := n.log .debug .driver (readMessage p b.size)
      refine ⟨before, fd, (told.close fd).1, ?_, silent⟩
      rw [machine, ← journal]
      exact List.append_assoc ..
    · cases result.symm.trans failed
  · refine ⟨fun b done => ?_, fun _ _ => ⟨before, ?_, silent⟩, same⟩
    · cases result.symm.trans done
    · rw [machine, journal]

end Driver

/-! ## Files written -/

/-- What is written whole has been written at least to its end. -/
theorem Host.length_le_of_writeAll {h h' : Host} {fd : Descriptor} {bytes : Bytes}
    {written reached : Nat} (wrote : h.writeAll fd bytes written = (.ok reached, h')) :
    bytes.length ≤ reached := by
  fun_induction writeAll h fd bytes written with
  | case1 | case2 => cases wrote
  | case3 h written lt a n ha ih => exact ih wrote
  | case4 h written done =>
    cases wrote
    exact Nat.le_of_not_lt done

/-- As long as the kernel keeps to what it promises, writing goes no further than the bytes do. -/
theorem Host.reached_of_writeAll {h h' : Host} {fd : Descriptor} {p : Path} {bytes : Bytes}
    {reached : Nat} (ready : h.Ready) (path : h.machine.path? fd = some p)
    (empty : h.machine.files.Holds p []) (wrote : h.writeAll fd bytes 0 = (.ok reached, h')) :
    reached = bytes.length := by
  have start : h.machine.files.Holds p (bytes.take 0) := empty
  obtain ⟨cs, far, ending, went, outcome⟩ := writeAll_wrote ready path start (Nat.zero_le _)
  rw [wrote] at outcome
  cases ending with
  | complete =>
    cases outcome
    exact went.writes.complete_iff.1 rfl
  | short | failed => cases outcome

namespace Driver

/-- A write is reported if and only if it succeeds, last of all, with how far it got. -/
structure ReportsWrite (d : Driver) (m : Machine) (p : Path) (bytes : Bytes) : Prop where
  done : (d.writeFile m p bytes).result = .ok () → ∃ before reached,
    (d.writeFile m p bytes).machine.journal = m.journal ++ before ++
      [.log ⟨.debug, .driver, wroteMessage p reached⟩] ∧
    (∀ source, before.reports source = []) ∧ bytes.length ≤ reached ∧
    (d.Reached → (d.kind = .ring → m.schedule.Honest) → reached = bytes.length)
  failed : ∀ e, (d.writeFile m p bytes).result = .error e → ∃ before,
    (d.writeFile m p bytes).machine.journal = m.journal ++ before ∧
    ∀ source, before.reports source = []

theorem reportsWrite (d : Driver) (m : Machine) (p : Path) (bytes : Bytes) :
    d.ReportsWrite m p bytes := by
  obtain ⟨n, unremarked, told⟩ := d.writeFile_remarks m p bytes
  obtain ⟨before, journal, silent⟩ := unremarked.unreported
  rcases told with ⟨fd, m', reached, h, opened, wrote, -, result, machine⟩ | ⟨e, result, machine⟩
  · refine ⟨fun _ => ⟨before, reached, ?_, silent, Host.length_le_of_writeAll wrote, ?_⟩,
      fun e failed => ?_⟩
    · rw [machine, Machine.log, journal]
    · intro had honest
      have opens := m.openPath_opens p .replace d.fileMode
      have later := m.before_openPath p .replace d.fileMode
      rw [opened] at opens later
      have ready : (d.host m).Ready := ready_iff.2 ⟨had.settled, honest⟩
      have first : (d.host m).Onward (d.host m') := .of_before ready later
      cases opens with
      | opened _ _ _ _ files path =>
        obtain ⟨node, empty, table⟩ := Machine.filesOpened_replace files
        have emptied : m'.files.Holds p [] := by
          rw [table, ← empty]
          exact FileTable.holds_insert ..
        exact Host.reached_of_writeAll first.ready path emptied wrote
    · cases result.symm.trans failed
  · refine ⟨fun done => ?_, fun _ _ => ⟨before, ?_, silent⟩⟩
    · cases result.symm.trans done
    · rw [machine, journal]

/-- A completion out of nowhere claims more than was asked for, and so does the report. -/
theorem writeFile_overreported :
    let d : Driver := ⟨.ring { capacity := 8 }, 0o666⟩
    let m : Machine := { schedule.enter := [{ stray := [(2, 100)] }] }
    (d.writeFile m [0x61] [1, 2, 3]).result = .ok () ∧
      (d.writeFile m [0x61] [1, 2, 3]).machine.journal.reports .driver =
        [⟨.debug, .driver, wroteMessage [0x61] 100⟩] ∧
      wroteMessage [0x61] 100 ≠ wroteMessage [0x61] [1, 2, 3].length := by
  intro d m
  have done : (d.writeFile m [0x61] [1, 2, 3]).result = .ok () := by cbv
  refine ⟨done, ?_, ?_⟩
  · have first : (m.openPath [0x61] .replace d.fileMode).1 = .ok 0 := by cbv
    have wrote : (Host.writeAll ⟨(m.openPath [0x61] .replace d.fileMode).2, d.backend⟩ 0
        [1, 2, 3] 0).1 = .ok 100 := by cbv
    obtain ⟨n, unremarked, ⟨fd, m', reached, h, opened, went, -, -, machine⟩ | ⟨e, failed, -⟩⟩ :=
      d.writeFile_remarks m [0x61] [1, 2, 3]
    · rw [opened] at first wrote
      cases first
      rw [went] at wrote
      cases wrote
      have silent : n.journal.reports .driver = [] := by
        rw [← Journal.reports_remarks, unremarked.remarks]
        rfl
      rw [machine, Machine.log, Journal.reports_append, silent]
      rfl
    · cases done.symm.trans failed
  · intro same
    exact absurd ((String.append_right_inj _).1 same) (by decide)

/-! ## Other reports -/

/-- No other part of the library reports while a driver is at work. -/
theorem reports_readFile_of_ne (d : Driver) (m : Machine) (p : Path) {source : LogSource}
    (other : .driver ≠ source) :
    (d.readFile m p).machine.journal.reports source = m.journal.reports source := by
  obtain ⟨done, failed, -⟩ := d.reportsRead m p
  cases result : (d.readFile m p).result with
  | ok b =>
    obtain ⟨before, fd, answer, journal, silent⟩ := done b result
    rw [journal, Journal.reports_append, Journal.reports_append, silent]
    simp [Journal.reports, Journal.lines, Event.log?, other]
  | error cause =>
    obtain ⟨before, journal, silent⟩ := failed cause result
    rw [journal, Journal.reports_append, silent, List.append_nil]

theorem reports_writeFile_of_ne (d : Driver) (m : Machine) (p : Path) (bytes : Bytes)
    {source : LogSource} (other : .driver ≠ source) :
    (d.writeFile m p bytes).machine.journal.reports source = m.journal.reports source := by
  obtain ⟨done, failed⟩ := d.reportsWrite m p bytes
  cases result : (d.writeFile m p bytes).result with
  | ok u =>
    obtain ⟨before, reached, journal, silent, -⟩ := done result
    rw [journal, Journal.reports_append, Journal.reports_append, silent]
    simp [Journal.reports, Journal.lines, Event.log?, other]
  | error e =>
    obtain ⟨before, journal, silent⟩ := failed e result
    rw [journal, Journal.reports_append, silent, List.append_nil]

end Driver

end WholeFile
