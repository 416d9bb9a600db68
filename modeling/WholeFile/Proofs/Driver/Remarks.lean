import WholeFile.Proofs.Driver.Reached
import WholeFile.Proofs.Ring.Poison

/-!
# What is remarked on

Most of a journal is routine: calls on files, waits on rings, and the warnings that go with them.
The rest is what a process asks about rings, and what it has to say about how its operations ended.
Transfers of bytes add nothing to that, however they go.
-/

namespace WholeFile

/-! ## Remarks -/

/-- The event is neither a call on a file nor to do with a wait on a ring. -/
def Event.remarkable : Event → Bool
  | .call (.setup _ _) | .call (.probe _) | .call .ringClose => true
  | .call _ => false
  | .log l => l.level = .debug

namespace Journal

/-- What is left of a journal without the routine. -/
def remarks (j : Journal) : Journal := j.filter Event.remarkable

theorem remarks_append (i j : Journal) : remarks (i ++ j) = remarks i ++ remarks j :=
  List.filter_append ..

end Journal

/-- All that was done from `m` to `n` is routine, and nothing was learnt about rings. -/
structure Machine.Unremarked (m n : Machine) : Prop where
  support : n.ringSupport = m.ringSupport
  routine : ∃ routine, n.journal = m.journal ++ routine ∧ Journal.remarks routine = []

namespace Machine

variable {m n o : Machine}

theorem Unremarked.of_eq (support : n.ringSupport = m.ringSupport)
    (journal : n.journal = m.journal) : m.Unremarked n :=
  ⟨support, [], by rw [journal, List.append_nil], rfl⟩

theorem Unremarked.of_journal {e : Event} (support : n.ringSupport = m.ringSupport)
    (journal : n.journal = m.journal ++ [e]) (routine : e.remarkable = false) :
    m.Unremarked n :=
  ⟨support, [e], journal, List.filter_cons_of_neg (ne_true_of_eq_false routine)⟩

theorem Unremarked.refl (m : Machine) : m.Unremarked m := .of_eq rfl rfl

theorem Unremarked.trans (first : m.Unremarked n) (second : n.Unremarked o) : m.Unremarked o := by
  obtain ⟨early, journal, silent⟩ := first.routine
  obtain ⟨late, journal', silent'⟩ := second.routine
  refine ⟨second.support.trans first.support, early ++ late, ?_, ?_⟩
  · rw [journal', journal, List.append_assoc]
  · rw [Journal.remarks_append, silent, silent']
    rfl

theorem Unremarked.remarks (unremarked : m.Unremarked n) :
    n.journal.remarks = m.journal.remarks := by
  obtain ⟨routine, journal, silent⟩ := unremarked.routine
  rw [journal, Journal.remarks_append, silent, List.append_nil]

/-! ## Calls -/

theorem unremarked_openFile (m : Machine) (p : Path) (access : Access) (mode : Nat) :
    m.Unremarked (m.openFile p access mode).2 := by
  refine .of_journal ?_ (m.journal_openFile ..) rfl
  simp only [openFile, opened, allocate, record]
  repeat' split
  all_goals rfl

theorem unremarked_openPath (m : Machine) (p : Path) (access : Access) (mode : Nat) :
    m.Unremarked (m.openPath p access mode).2 :=
  openPath_keeps (fun m => m.unremarked_openFile p access mode) .refl .trans m

theorem unremarked_close (m : Machine) (fd : Descriptor) : m.Unremarked (m.close fd).2 :=
  .of_journal (e := .call (.close fd (m.close fd).1)) rfl rfl rfl

theorem unremarked_size (m : Machine) (fd : Descriptor) : m.Unremarked (m.size fd).2 :=
  .of_journal (e := .call (.size fd (m.size fd).1)) rfl rfl rfl

theorem unremarked_transferIn (m : Machine) (fd : Descriptor) (length offset : Nat) :
    m.Unremarked (m.transferIn fd length offset).2 := by
  refine .of_eq ?_ (m.journal_transferIn ..)
  unfold transferIn refreshed
  dsimp only
  split <;> rfl

theorem unremarked_transferOut (m : Machine) (fd : Descriptor) (bytes : Bytes) (offset : Nat) :
    m.Unremarked (m.transferOut fd bytes offset).2 := by
  refine .of_eq ?_ (m.journal_transferOut ..)
  unfold transferOut
  dsimp only
  repeat' split
  all_goals rfl

theorem unremarked_record (m : Machine) {c : Call} (routine : (Event.call c).remarkable = false) :
    m.Unremarked (m.record c) := .of_journal rfl rfl routine

theorem unremarked_read (m : Machine) (fd : Descriptor) (length offset : Nat) :
    m.Unremarked (m.read fd length offset).2 :=
  (m.unremarked_transferIn fd length offset).trans (unremarked_record _ rfl)

theorem unremarked_write (m : Machine) (fd : Descriptor) (bytes : Bytes) (offset : Nat) :
    m.Unremarked (m.write fd bytes offset).2 :=
  (m.unremarked_transferOut fd bytes offset).trans (unremarked_record _ rfl)

theorem unremarked_warning (m : Machine) (source : LogSource) (message : String) :
    m.Unremarked (m.log .warn source message) := .of_journal rfl rfl rfl

end Machine

/-! ## Waits -/

namespace Wait

theorem unremarked_execute (w : Wait) (e : Entry) :
    w.machine.Unremarked (w.execute e).machine := by
  unfold execute
  split
  · exact (w.machine.unremarked_transferIn ..).trans (Machine.unremarked_record _ rfl)
  · exact (w.machine.unremarked_transferOut ..).trans (Machine.unremarked_record _ rfl)

theorem unremarked_takeQueued (w : Wait) : w.machine.Unremarked w.takeQueued.machine := by
  have (es : List Entry) (w : Wait) : w.machine.Unremarked (es.foldl execute w).machine := by
    induction es generalizing w with
    | nil => exact .refl w.machine
    | cons e es ih => exact (unremarked_execute w e).trans (ih (w.execute e))
  exact this w.ring.queued { w with ring := { w.ring with queued := [] } }

theorem unremarked_enter (w : Wait) : w.machine.Unremarked w.enter.2.machine := by
  have answers (rest : List EnterAnswer) : w.machine.Unremarked (w.withAnswers rest).machine :=
    .of_eq rfl rfl
  have taken (v : Wait) (take : Bool) :
      v.machine.Unremarked (if take then v.takeQueued else v).machine := by
    cases take
    · exact .refl v.machine
    · exact unremarked_takeQueued v
  have posted (v : Wait) (post : Bool) : (if post then v.post else v).machine = v.machine := by
    cases post <;> rfl
  simp only [enter]
  refine Machine.Unremarked.trans ?_ (Machine.unremarked_record _ rfl)
  rw [posted]
  exact (answers _).trans (taken ((w.withAnswers _).strays _) _)

theorem unremarked_enterAgain (w : Wait) : w.machine.Unremarked w.enterAgain.machine := by
  have entered := unremarked_enter w
  unfold enterAgain
  split
  · next h =>
    rw [h] at entered
    exact entered
  · next h =>
    rw [h] at entered
    split
    · exact entered
    · exact entered.trans (Machine.unremarked_warning ..)

theorem unremarked_enduring : Enduring fun w v => w.machine.Unremarked v.machine where
  trans := .trans
  again := unremarked_enterAgain
  collected _ := .refl _
  enter := unremarked_enter
  poison w _ := w.machine.unremarked_warning ..

end Wait

theorem Ring.unremarked_transfer (r : Ring) (m : Machine) (fd : Descriptor) (offset : Nat)
    (t : Transfer) (loan : Loan) : m.Unremarked (r.transfer m fd offset t loan).2.machine := by
  rcases r.transfer_cases m fd offset t loan with same | waited
  · rw [same]
    exact .refl m
  · rw [waited]
    exact Wait.unremarked_enduring.await ⟨m, r.push fd offset t, loan⟩ _ _

/-! ## Open files -/

/-- What is logged of a file that was read. -/
def readMessage (p : Path) (size : Nat) : String := s!"read file path={Text.lossy p} len={size}"

/-- What is logged of a file that was written up to a position. -/
def wroteMessage (p : Path) (reached : Nat) : String :=
  s!"wrote file path={Text.lossy p} len={reached}"

namespace Host

theorem unremarked_lasting : Lasting fun h h' => h.machine.Unremarked h'.machine where
  refl h := .refl h.machine
  trans := .trans
  tryRead h fd offset target loan := by
    obtain ⟨m, backend⟩ := h
    cases backend with
    | blocking => exact m.unremarked_read ..
    | ring r => exact r.unremarked_transfer ..
  tryWrite h fd offset bytes := by
    obtain ⟨m, backend⟩ := h
    cases backend with
    | blocking => exact m.unremarked_write ..
    | ring r => exact r.unremarked_transfer ..

theorem finish_remarks (p : Path) (run : Except Failure Fill × Host) :
    (∃ b, (finish p run).1 = .ok b ∧
        (finish p run).2.machine = run.2.machine.log .debug .driver (readMessage p b.size)) ∨
      ∃ cause, (finish p run).1 = .error cause ∧ (finish p run).2.machine = run.2.machine := by
  obtain ⟨result, h⟩ := run
  cases result with
  | error cause => exact .inr ⟨cause, rfl, rfl⟩
  | ok f =>
    unfold finish
    cases hb : f.buffer.resize f.filled with
    | error e => exact .inr ⟨.error (.alloc e), by simp only [hb], by simp only [hb]⟩
    | ok b =>
      refine .inl ⟨b, by simp only [hb], ?_⟩
      rw [Buffer.size_of_resize_eq_ok hb]
      simp only [hb]
      rfl

/-- Reading an open file remarks on its success, last of all. -/
theorem readOpen_remarks (h : Host) (fd : Descriptor) (p : Path) :
    ∃ n, h.machine.Unremarked n ∧
      ((∃ b, (h.readOpen fd p).1 = .ok b ∧
          (h.readOpen fd p).2.machine = n.log .debug .driver (readMessage p b.size)) ∨
        ∃ cause, (h.readOpen fd p).1 = .error cause ∧ (h.readOpen fd p).2.machine = n) := by
  have sized : h.machine.Unremarked (h.sized fd).machine := h.machine.unremarked_size fd
  apply readOpen_cases (P := fun run => ∃ n, h.machine.Unremarked n ∧
    ((∃ b, run.1 = .ok b ∧ run.2.machine = n.log .debug .driver (readMessage p b.size)) ∨
      ∃ cause, run.1 = .error cause ∧ run.2.machine = n))
  · exact fun e _ => ⟨_, sized, .inr ⟨_, rfl, rfl⟩⟩
  · exact fun hint e _ _ => ⟨_, sized, .inr ⟨_, rfl, rfl⟩⟩
  · exact fun hint b _ _ =>
      ⟨_, sized.trans (unremarked_lasting.readAll ..), finish_remarks p _⟩

end Host

/-! ## Whole files -/

namespace Driver

/-- Reading a file remarks on its success. All that comes after is the call that closes the file,
and nobody looks at its answer. -/
theorem readFile_remarks (d : Driver) (m : Machine) (p : Path) :
    ∃ n, m.Unremarked n ∧
      ((∃ b fd, (d.readFile m p).result = .ok b ∧
          (d.readFile m p).machine =
            ((n.log .debug .driver (readMessage p b.size)).close fd).2) ∨
        ∃ cause, (d.readFile m p).result = .error cause ∧ (d.readFile m p).machine = n) := by
  have opened := m.unremarked_openPath p .read 0
  unfold readFile
  cases ho : m.openPath p .read 0 with
  | mk answer m' =>
    rw [ho] at opened
    cases answer with
    | error e => exact ⟨m', opened, .inr ⟨_, rfl, rfl⟩⟩
    | ok fd =>
      obtain ⟨n, read, ⟨b, result, told⟩ | ⟨cause, result, silent⟩⟩ :=
        Host.readOpen_remarks ⟨m', d.backend⟩ fd p
      · refine ⟨n, opened.trans read, .inl ⟨b, fd, result, ?_⟩⟩
        rw [← told]
      · refine ⟨(n.close fd).2, (opened.trans read).trans (n.unremarked_close fd),
          .inr ⟨cause, result, ?_⟩⟩
        rw [← silent]

/-- Writing a file remarks on its success, last of all, and on how far it got. -/
theorem writeFile_remarks (d : Driver) (m : Machine) (p : Path) (bytes : Bytes) :
    ∃ n, m.Unremarked n ∧
      ((∃ fd m' count h, m.openPath p .replace d.fileMode = (.ok fd, m') ∧
          Host.writeAll ⟨m', d.backend⟩ fd bytes 0 = (.ok count, h) ∧ n = (h.machine.close fd).2 ∧
          (d.writeFile m p bytes).result = .ok () ∧
          (d.writeFile m p bytes).machine = n.log .debug .driver (wroteMessage p count)) ∨
        ∃ e, (d.writeFile m p bytes).result = .error e ∧ (d.writeFile m p bytes).machine = n) := by
  have opened := m.unremarked_openPath p .replace d.fileMode
  unfold writeFile
  cases ho : m.openPath p .replace d.fileMode with
  | mk answer m' =>
    rw [ho] at opened
    cases answer with
    | error e => exact ⟨m', opened, .inr ⟨_, rfl, rfl⟩⟩
    | ok fd =>
      have wrote := Host.unremarked_lasting.writeAll ⟨m', d.backend⟩ fd bytes 0
      cases hw : Host.writeAll ⟨m', d.backend⟩ fd bytes 0 with
      | mk result h =>
        rw [hw] at wrote
        refine ⟨(h.machine.close fd).2,
          (opened.trans wrote).trans (h.machine.unremarked_close fd), ?_⟩
        simp only [Host.writeOpen_eq, hw]
        cases result with
        | error e => exact .inr ⟨e, rfl, rfl⟩
        | ok count =>
          unfold Host.settle
          cases hc : h.machine.close fd with
          | mk answer n =>
            simp only [hc]
            cases answer with
            | error e => exact .inr ⟨.io (.os e), rfl, rfl⟩
            | ok _ => exact .inl ⟨fd, m', count, h, rfl, hw, by rw [hc], rfl, rfl⟩

end Driver

end WholeFile
