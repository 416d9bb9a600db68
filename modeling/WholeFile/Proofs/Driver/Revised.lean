import WholeFile.Proofs.Driver.Reached

/-!
# What operations do not look at

No operation looks at what is in the journal already, and none but a closing looks at the answers to
closings that are to come. A machine that differs in these only goes the same way.
-/

namespace WholeFile

/-! ## Calls -/

namespace Machine

/-- The machine with more in its journal, before all else, and with other answers to closings. -/
def revised (m : Machine) (past : Journal) (closes : List (Option Errno) → List (Option Errno)) :
    Machine :=
  { m with schedule.close := closes m.schedule.close, journal := past ++ m.journal }

variable (m : Machine) (past : Journal) (closes : List (Option Errno) → List (Option Errno))

theorem record_revised (c : Call) :
    (m.revised past closes).record c = (m.record c).revised past closes := by
  unfold record revised
  simp only [List.append_assoc]

theorem log_revised (level : LogLevel) (source : LogSource) (message : String) :
    (m.revised past closes).log level source message =
      (m.log level source message).revised past closes := by
  unfold log revised
  simp only [List.append_assoc]

theorem allocate_revised (p : Path) :
    (m.revised past closes).allocate p =
      ((m.allocate p).1, (m.allocate p).2.revised past closes) := by
  unfold allocate revised
  simp only
  split <;> rfl

theorem opened_revised (p : Path) (access : Access) (mode : Nat) :
    (m.revised past closes).opened p access mode =
      ((m.opened p access mode).1, (m.opened p access mode).2.revised past closes) := by
  have same : (m.revised past closes).filesOpened p access mode = m.filesOpened p access mode := rfl
  unfold opened
  rw [same]
  cases m.filesOpened p access mode with
  | error e => rfl
  | ok files =>
    have moved := allocate_revised { m with files } past closes p
    simp only [revised] at moved ⊢
    rw [moved]

theorem openFile_revised (p : Path) (access : Access) (mode : Nat) :
    (m.revised past closes).openFile p access mode =
      ((m.openFile p access mode).1, (m.openFile p access mode).2.revised past closes) := by
  have moved := opened_revised { m with schedule.openFile := m.schedule.openFile.tail } past closes
    p access mode
  have queue : (m.revised past closes).schedule.openFile = m.schedule.openFile := rfl
  simp only [openFile, next_rest, queue]
  cases (next none m.schedule.openFile).1 with
  | some e => exact congrArg (Prod.mk _) (record_revised { m with
      schedule.openFile := m.schedule.openFile.tail } past closes _)
  | none =>
    have moved' : opened { m.revised past closes with
      schedule.openFile := m.schedule.openFile.tail } p access mode = _ := moved
    simp only [moved', record_revised]

theorem size_revised (fd : Descriptor) :
    (m.revised past closes).size fd = ((m.size fd).1, (m.size fd).2.revised past closes) := by
  unfold size
  simp only [← record_revised]
  rfl

theorem refreshed_revised (fd : Descriptor) (content : Option Bytes) :
    (m.revised past closes).refreshed fd content =
      (m.refreshed fd content).revised past closes := by
  unfold refreshed revised
  simp only [path?]
  split <;> rfl

theorem transferIn_revised (fd : Descriptor) (length offset : Nat) :
    (m.revised past closes).transferIn fd length offset =
      ((m.transferIn fd length offset).1,
        (m.transferIn fd length offset).2.revised past closes) := by
  have moved := { m with schedule.read := m.schedule.read.tail }.refreshed_revised past closes fd
    (next ({} : ReadAnswer) m.schedule.read).1.content
  simp only [revised] at moved
  simp only [transferIn, revised, next_rest, moved, node?, path?]

theorem transferOut_revised (fd : Descriptor) (bytes : Bytes) (offset : Nat) :
    (m.revised past closes).transferOut fd bytes offset =
      ((m.transferOut fd bytes offset).1,
        (m.transferOut fd bytes offset).2.revised past closes) := by
  simp only [transferOut, revised, path?]
  cases (next ({} : WriteAnswer) m.schedule.write).1.errno with
  | some e => rfl
  | none =>
    cases (m.descriptors[fd]?).join with
    | none => rfl
    | some p =>
      by_cases h : bytes.take ((next ({} : WriteAnswer) m.schedule.write).1.short.getD
        bytes.length) = []
      · simp [h]
      · simp [h]

theorem read_revised (fd : Descriptor) (length offset : Nat) :
    (m.revised past closes).read fd length offset =
      ((m.read fd length offset).1, (m.read fd length offset).2.revised past closes) := by
  simp only [read, transferIn_revised, record_revised]

theorem write_revised (fd : Descriptor) (bytes : Bytes) (offset : Nat) :
    (m.revised past closes).write fd bytes offset =
      ((m.write fd bytes offset).1, (m.write fd bytes offset).2.revised past closes) := by
  simp only [write, transferOut_revised, record_revised]

theorem close_revised (fd : Descriptor) :
    (m.revised past id).close fd = ((m.close fd).1, (m.close fd).2.revised past id) := by
  unfold close
  simp only [← record_revised]
  rfl

theorem openAgain_revised (p : Path) (access : Access) (mode : Nat) :
    (m.revised past closes).openAgain p access mode =
      ((m.openAgain p access mode).1, (m.openAgain p access mode).2.revised past closes) := by
  have opened {m n : Machine} {answer : Except Errno Descriptor}
      (ho : m.openFile p access mode = (answer, n)) :
      (m.revised past closes).openFile p access mode = (answer, n.revised past closes) := by
    rw [openFile_revised, ho]
  fun_induction openAgain m p access mode with
  | case1 m n ho lt ih =>
    rw [openAgain_of_interrupted (opened ho)]
    exact ih
  | case2 m e n ho ne => exact openAgain_of_answer (opened ho) fun he => ne (Except.error.inj he)
  | case3 m fd n ho => exact openAgain_of_answer (opened ho) (by simp)

theorem openPath_revised (p : Path) (access : Access) (mode : Nat) :
    (m.revised past closes).openPath p access mode =
      ((m.openPath p access mode).1, (m.openPath p access mode).2.revised past closes) := by
  unfold openPath
  rw [openAgain_revised]
  split <;> rfl

end Machine

/-! ## Waits, one call at a time -/

namespace Wait

variable {w v : Wait} {tag : Nat} {c : Completion} {ring : Ring} {e : Errno} {n : Nat}

theorem reapEntering_of_found (owed : tag ∈ w.ring.owed)
    (hc : w.enterAgain.ring.collect tag = (some c, ring)) :
    w.reapEntering tag owed = (c, { w.enterAgain with ring }) := by
  rw [reapEntering]
  split
  · next h =>
    cases hc.symm.trans h
    rfl
  · next h => cases hc.symm.trans h

theorem reapEntering_of_none (owed : tag ∈ w.ring.owed)
    (hc : w.enterAgain.ring.collect tag = (none, ring)) (still : tag ∈ ring.owed) :
    w.reapEntering tag owed = { w.enterAgain with ring }.reapEntering tag still := by
  rw [reapEntering]
  split
  · next h => cases hc.symm.trans h
  · next h =>
    cases hc.symm.trans h
    rfl

theorem reap_of_found (owed : tag ∈ w.ring.owed) (hc : w.ring.collect tag = (some c, ring)) :
    w.reap tag owed = (c, { w with ring }) := by
  unfold reap
  split
  · next h =>
    cases hc.symm.trans h
    rfl
  · next h => cases hc.symm.trans h

theorem reap_of_none (owed : tag ∈ w.ring.owed) (hc : w.ring.collect tag = (none, ring))
    (still : tag ∈ ring.owed) :
    w.reap tag owed = { w with ring }.reapEntering tag still := by
  unfold reap
  split
  · next h => cases hc.symm.trans h
  · next h =>
    cases hc.symm.trans h
    rfl

theorem await_of_interrupted (owed : tag ∈ w.ring.owed) (h : w.enter = (.error .interrupted, v))
    (still : tag ∈ v.ring.owed) : w.await tag owed = v.await tag still := by
  rw [await]
  split
  · next h' =>
    cases h.symm.trans h'
    exact if_pos rfl
  · next h' => cases h.symm.trans h'

theorem await_of_held (owed : tag ∈ w.ring.owed) (h : w.enter = (.error e, v))
    (ne : e ≠ .interrupted) (held : v.ring.queued = []) (still : tag ∈ v.ring.owed) :
    w.await tag owed =
      (((v.poison e).reap tag still).1.outcome, ((v.poison e).reap tag still).2) := by
  rw [await]
  split
  · next h' =>
    cases h.symm.trans h'
    exact (if_neg ne).trans (if_pos held)
  · next h' => cases h.symm.trans h'

theorem await_of_queued (owed : tag ∈ w.ring.owed) (h : w.enter = (.error e, v))
    (ne : e ≠ .interrupted) (queued : v.ring.queued ≠ []) :
    w.await tag owed = (.error (.os e), v.poison e) := by
  rw [await]
  split
  · next h' =>
    cases h.symm.trans h'
    exact (if_neg ne).trans (if_neg queued)
  · next h' => cases h.symm.trans h'

theorem await_of_found (owed : tag ∈ w.ring.owed) (h : w.enter = (.ok n, v))
    (hc : v.ring.collect tag = (some c, ring)) :
    w.await tag owed = (c.outcome, { v with ring }) := by
  rw [await]
  split
  · next h' => cases h.symm.trans h'
  · next h' =>
    cases h.symm.trans h'
    simp only
    split
    · next hc' =>
      cases hc.symm.trans hc'
      rfl
    · next hc' => cases hc.symm.trans hc'

theorem await_of_none (owed : tag ∈ w.ring.owed) (h : w.enter = (.ok n, v))
    (hc : v.ring.collect tag = (none, ring)) (still : tag ∈ ring.owed) :
    w.await tag owed = { v with ring }.await tag still := by
  rw [await]
  split
  · next h' => cases h.symm.trans h'
  · next h' =>
    cases h.symm.trans h'
    simp only
    split
    · next hc' => cases hc.symm.trans hc'
    · next hc' =>
      cases hc.symm.trans hc'
      rfl

end Wait

/-! ## Waits -/

namespace Wait

def revised (w : Wait) (past : Journal) (closes : List (Option Errno) → List (Option Errno)) :
    Wait := { w with machine := w.machine.revised past closes }

variable (w : Wait) (past : Journal) (closes : List (Option Errno) → List (Option Errno))

theorem execute_revised (e : Entry) :
    (w.revised past closes).execute e = (w.execute e).revised past closes := by
  unfold execute revised
  cases e.transfer with
  | read length target => simp only [Machine.transferIn_revised, Machine.record_revised]
  | write bytes => simp only [Machine.transferOut_revised, Machine.record_revised]

theorem takeQueued_revised :
    (w.revised past closes).takeQueued = w.takeQueued.revised past closes := by
  have all (es : List Entry) (w : Wait) :
      es.foldl execute (w.revised past closes) = (es.foldl execute w).revised past closes := by
    induction es generalizing w with
    | nil => rfl
    | cons e es ih => rw [List.foldl_cons, List.foldl_cons, execute_revised, ih]
  exact all w.ring.queued { w with ring := { w.ring with queued := [] } }

theorem passed_revised (a : EnterAnswer) :
    (w.revised past closes).passed a = (w.passed a).revised past closes := by
  unfold passed
  cases a.take <;> cases a.post
  · rfl
  · rfl
  · exact takeQueued_revised w past closes
  · exact congrArg post (takeQueued_revised w past closes)

theorem enter_revised :
    (w.revised past closes).enter = (w.enter.1, w.enter.2.revised past closes) := by
  let fault := (next {} w.machine.schedule.enter).1
  let begun := (w.withAnswers (next {} w.machine.schedule.enter).2).strays fault.stray
  have passed : (begun.revised past closes).passed fault = _ :=
    passed_revised begun past closes fault
  have recorded := (begun.passed fault).machine.record_revised past closes
    (.enter w.ring.queued.length w.enter.1)
  refine Prod.ext rfl ?_
  change ({ (begun.revised past closes).passed fault with
    machine := ((begun.revised past closes).passed fault).machine.record
      (.enter w.ring.queued.length w.enter.1) } : Wait) = _
  rw [passed]
  exact congrArg (Wait.mk · _ _) recorded

theorem enterAgain_revised :
    (w.revised past closes).enterAgain = w.enterAgain.revised past closes := by
  unfold enterAgain
  rw [enter_revised]
  cases w.enter with
  | mk answer v =>
    cases answer with
    | ok n => rfl
    | error e =>
      simp only
      split
      · rfl
      · exact congrArg (Wait.mk · _ _) (Machine.log_revised ..)

theorem poison_revised (e : Errno) :
    (w.revised past closes).poison e = (w.poison e).revised past closes :=
  congrArg (Wait.mk · _ _) (Machine.log_revised ..)

theorem reapEntering_revised (tag : Nat) (owed : tag ∈ w.ring.owed) :
    (w.revised past closes).reapEntering tag owed =
      ((w.reapEntering tag owed).1, (w.reapEntering tag owed).2.revised past closes) := by
  have again (w : Wait) : (w.revised past closes).enterAgain = _ := enterAgain_revised w past closes
  fun_induction reapEntering w tag owed with
  | case1 w owed w' c ring hc =>
    have found : (w.revised past closes).enterAgain.ring.collect tag = (some c, ring) := by
      rw [again]
      exact hc
    refine (reapEntering_of_found (w := w.revised past closes) owed found).trans ?_
    rw [again]
    rfl
  | case2 w owed w' ring hc ih =>
    have found : (w.revised past closes).enterAgain.ring.collect tag = (none, ring) := by
      rw [again]
      exact hc
    have still : tag ∈ ring.owed :=
      (Ring.collect_none hc).2 ((enterAgain_eq w).1 ▸ owed_enter owed)
    refine (reapEntering_of_none (w := w.revised past closes) owed found still).trans ?_
    simp only [again]
    exact ih

theorem reap_revised (tag : Nat) (owed : tag ∈ w.ring.owed) :
    (w.revised past closes).reap tag owed =
      ((w.reap tag owed).1, (w.reap tag owed).2.revised past closes) := by
  cases hc : w.ring.collect tag with
  | mk found ring =>
    have hc' : (w.revised past closes).ring.collect tag = (found, ring) := hc
    cases found with
    | some c =>
      refine (reap_of_found (w := w.revised past closes) owed hc').trans ?_
      rw [reap_of_found owed hc]
      rfl
    | none =>
      have still : tag ∈ ring.owed := (Ring.collect_none hc).2 owed
      refine (reap_of_none (w := w.revised past closes) owed hc' still).trans ?_
      rw [reap_of_none owed hc still]
      exact reapEntering_revised { w with ring } past closes tag still

theorem await_revised (tag : Nat) (owed : tag ∈ w.ring.owed) :
    (w.revised past closes).await tag owed =
      ((w.await tag owed).1, (w.await tag owed).2.revised past closes) := by
  have entered {w v : Wait} {answer : Except Errno Nat} (h : w.enter = (answer, v)) :
      (w.revised past closes).enter = (answer, v.revised past closes) := by
    rw [enter_revised, h]
  fun_induction await w tag owed with
  | case1 w owed v h still ih =>
    exact (await_of_interrupted (w := w.revised past closes) owed (entered h) still).trans ih
  | case2 w owed e v h still ne held c v' hr =>
    have reaped (u : Wait) (hu : u = (v.poison e).revised past closes)
        (owed : tag ∈ u.ring.owed) : u.reap tag owed = (c, v'.revised past closes) := by
      subst hu
      refine (reap_revised (v.poison e) past closes tag still).trans ?_
      rw [hr]
    exact (await_of_held (w := w.revised past closes) owed (entered h) ne held still).trans
      (congrArg (fun r => (r.1.outcome, r.2)) (reaped _ (poison_revised v past closes e) still))
  | case3 w owed e v h _ ne queued =>
    refine (await_of_queued (w := w.revised past closes) owed (entered h) ne queued).trans ?_
    rw [poison_revised]
  | case4 w owed n v h _ c ring hc =>
    exact await_of_found (w := w.revised past closes) owed (entered h) hc
  | case5 w owed n v h still ring hc ih =>
    have still' : tag ∈ ring.owed := (Ring.collect_none hc).2 still
    exact (await_of_none (w := w.revised past closes) owed (entered h) hc still').trans ih

end Wait

theorem Ring.transfer_revised (r : Ring) (m : Machine) (past : Journal)
    (closes : List (Option Errno) → List (Option Errno)) (fd : Descriptor) (offset : Nat)
    (t : Transfer) (loan : Loan) :
    r.transfer (m.revised past closes) fd offset t loan =
      ((r.transfer m fd offset t loan).1,
        (r.transfer m fd offset t loan).2.revised past closes) := by
  unfold Ring.transfer
  split
  · rfl
  · split
    · rfl
    · exact Wait.await_revised ⟨m, r.push fd offset t, loan⟩ past closes _ _

/-! ## Reading -/

def Host.revised (h : Host) (past : Journal)
    (closes : List (Option Errno) → List (Option Errno)) : Host :=
  { h with machine := h.machine.revised past closes }

def Attempt.revised (a : Attempt) (past : Journal)
    (closes : List (Option Errno) → List (Option Errno)) : Attempt :=
  { a with host := a.host.revised past closes }

namespace Host

variable (h : Host) (past : Journal) (closes : List (Option Errno) → List (Option Errno))
  (fd : Descriptor) (offset : Nat)

theorem tryRead_revised (target : Target) (loan : Loan) :
    (h.revised past closes).tryRead fd offset target loan =
      (h.tryRead fd offset target loan).revised past closes := by
  obtain ⟨m, backend⟩ := h
  unfold tryRead revised
  cases backend with
  | blocking =>
    simp only [Machine.read_revised]
    rfl
  | ring r =>
    simp only [Ring.transfer_revised]
    rfl

theorem readAt_revised (target : Target) (loan : Loan) :
    (h.revised past closes).readAt fd offset target loan =
      (h.readAt fd offset target loan).revised past closes := by
  have tried (h : Host) (loan : Loan) :
      (h.revised past closes).tryRead fd offset target loan = _ :=
    h.tryRead_revised past closes fd offset target loan
  fun_induction readAt h fd offset target loan with
  | case1 h loan a hi ih =>
    have again : ((h.revised past closes).tryRead fd offset target loan).interrupted = true := by
      rw [tried]
      exact hi
    rw [readAt_of_interrupted again, tried]
    exact ih
  | case2 h loan a hi =>
    have last : ((h.revised past closes).tryRead fd offset target loan).interrupted = false := by
      rw [tried]
      exact Bool.eq_false_iff.2 hi
    rw [readAt_of_not_interrupted last, tried]

theorem readStep_revised (f : Fill) :
    (h.revised past closes).readStep fd f =
      ((h.readStep fd f).1, (h.readStep fd f).2.revised past closes) := by
  rcases Nat.lt_trichotomy f.filled f.buffer.size with room | full | outside
  · rw [readStep_room fd room, readStep_room fd room]
    simp only [readAt_revised]
    rfl
  · rw [readStep_full fd full, readStep_full fd full]
    simp only [readAt_revised]
    rfl
  · rw [readStep_outside fd outside, readStep_outside fd outside]

theorem readAll_revised (f : Fill) :
    (h.revised past closes).readAll fd f =
      ((h.readAll fd f).1, (h.readAll fd f).2.revised past closes) := by
  fun_induction readAll h fd f with
  | case1 h f f' h' hs _ ih =>
    rw [readAll_eq, readStep_revised, hs]
    exact ih
  | case2 h f f' h' hs | case3 h f cause h' hs =>
    rw [readAll_eq, readStep_revised, hs]

theorem finish_revised (p : Path) (run : Except Failure Fill × Host) :
    finish p (run.1, run.2.revised past closes) =
      ((finish p run).1, (finish p run).2.revised past closes) := by
  obtain ⟨result, h⟩ := run
  cases result with
  | error cause => rfl
  | ok f =>
    unfold finish
    simp only
    cases f.buffer.resize f.filled with
    | error e => rfl
    | ok b => exact congrArg (fun m => (Except.ok b, Host.mk m _)) (Machine.log_revised ..)

theorem readOpen_revised (p : Path) :
    (h.revised past closes).readOpen fd p =
      ((h.readOpen fd p).1, (h.readOpen fd p).2.revised past closes) := by
  have asked := h.machine.size_revised past closes fd
  have answered {answer : Except Errno Nat} (ha : (h.machine.size fd).1 = answer) :
      ((h.revised past closes).machine.size fd).1 = answer :=
    (congrArg Prod.fst asked).trans ha
  have sized : (h.revised past closes).sized fd = (h.sized fd).revised past closes :=
    congrArg (fun answered => Host.mk answered.2 h.backend) asked
  cases ha : (h.machine.size fd).1 with
  | error e =>
    rw [readOpen_of_size_error ha, readOpen_of_size_error (answered ha), sized]
  | ok hint =>
    cases hb : Buffer.withSize hint with
    | error e =>
      rw [readOpen_of_refused ha hb, readOpen_of_refused (answered ha) hb, sized]
    | ok b =>
      rw [readOpen_of_ok ha hb, readOpen_of_ok (answered ha) hb, sized, readAll_revised]
      exact finish_revised past closes p _

/-! ## Writing -/

theorem tryWrite_revised (bytes : Bytes) :
    (h.revised past closes).tryWrite fd offset bytes =
      (h.tryWrite fd offset bytes).revised past closes := by
  obtain ⟨m, backend⟩ := h
  unfold tryWrite revised
  cases backend with
  | blocking =>
    simp only [Machine.write_revised]
    rfl
  | ring r =>
    simp only [Ring.transfer_revised]
    rfl

theorem writeAt_revised (bytes : Bytes) :
    (h.revised past closes).writeAt fd offset bytes =
      (h.writeAt fd offset bytes).revised past closes := by
  have tried (h : Host) : (h.revised past closes).tryWrite fd offset bytes = _ :=
    h.tryWrite_revised past closes fd offset bytes
  fun_induction writeAt h fd offset bytes with
  | case1 h a hi ih =>
    have again : ((h.revised past closes).tryWrite fd offset bytes).interrupted = true := by
      rw [tried]
      exact hi
    rw [writeAt_of_interrupted again, tried]
    exact ih
  | case2 h a hi =>
    have last : ((h.revised past closes).tryWrite fd offset bytes).interrupted = false := by
      rw [tried]
      exact Bool.eq_false_iff.2 hi
    rw [writeAt_of_not_interrupted last, tried]

theorem writeAll_revised (bytes : Bytes) (written : Nat) :
    (h.revised past closes).writeAll fd bytes written =
      ((h.writeAll fd bytes written).1,
        (h.writeAll fd bytes written).2.revised past closes) := by
  have wrote (h : Host) (w : Nat) :
      (h.revised past closes).writeAt fd w (bytes.drop w) = _ :=
    h.writeAt_revised past closes fd w (bytes.drop w)
  fun_induction writeAll h fd bytes written with
  | case1 h w lt a e ha =>
    have failed : ((h.revised past closes).writeAt fd w (bytes.drop w)).result = .error e := by
      rw [wrote]
      exact ha
    rw [writeAll_of_error lt failed, wrote]
    rfl
  | case2 h w lt a ha =>
    have nothing : ((h.revised past closes).writeAt fd w (bytes.drop w)).result = .ok 0 := by
      rw [wrote]
      exact ha
    rw [writeAll_of_zero lt nothing, wrote]
    rfl
  | case3 h w lt a n ha ih =>
    have some : ((h.revised past closes).writeAt fd w (bytes.drop w)).result = .ok (n + 1) := by
      rw [wrote]
      exact ha
    rw [writeAll_of_count lt some, wrote]
    exact ih
  | case4 h w done => rw [writeAll, if_neg done]

theorem settle_revised (p : Path) (run : Except Error Nat × Host) :
    settle fd p (run.1, run.2.revised past id) =
      ((settle fd p run).1, (settle fd p run).2.revised past id) := by
  obtain ⟨result, h⟩ := run
  have closed : (h.revised past id).machine.close fd = _ := h.machine.close_revised past fd
  cases result with
  | error cause =>
    simp only [settle, closed]
    rfl
  | ok written =>
    cases hc : h.machine.close fd with
    | mk answer n =>
      rw [hc] at closed
      simp only [settle, closed, hc]
      cases answer with
      | error e => rfl
      | ok u => exact congrArg (fun m => (Except.ok (), Host.mk m _)) (Machine.log_revised ..)

theorem writeOpen_revised (p : Path) (bytes : Bytes) :
    (h.revised past id).writeOpen fd p bytes =
      ((h.writeOpen fd p bytes).1, (h.writeOpen fd p bytes).2.revised past id) := by
  rw [writeOpen_eq, writeAll_revised, writeOpen_eq]
  exact settle_revised past fd p _

end Host

/-! ## Whole files -/

def Run.revised {ε α : Type} (r : Run ε α) (past : Journal) : Run ε α :=
  { r with machine := r.machine.revised past id }

namespace Driver

variable (d : Driver) (m : Machine) (past : Journal) (p : Path)

/-- How a reading goes on is not told by what has been done before it. -/
theorem readFile_revised :
    d.readFile (m.revised past id) p = (d.readFile m p).revised past := by
  unfold readFile
  rw [Machine.openPath_revised]
  cases m.openPath p .read 0 with
  | mk answer n =>
    cases answer with
    | error e => rfl
    | ok fd =>
      have read := Host.readOpen_revised ⟨n, d.backend⟩ past id fd p
      simp only [Host.revised] at read
      simp only [read]
      exact congrArg (Run.mk _ _) (congrArg Prod.snd (Machine.close_revised ..))

theorem writeFile_revised (bytes : Bytes) :
    d.writeFile (m.revised past id) p bytes = (d.writeFile m p bytes).revised past := by
  unfold writeFile
  rw [Machine.openPath_revised]
  cases m.openPath p .replace d.fileMode with
  | mk answer n =>
    cases answer with
    | error e => rfl
    | ok fd =>
      have wrote := Host.writeOpen_revised ⟨n, d.backend⟩ past fd p bytes
      simp only [Host.revised] at wrote
      simp only [wrote]
      rfl

/-- What closing is answered with does not tell how a reading ends. -/
theorem result_readFile_revised (closes : List (Option Errno) → List (Option Errno)) :
    (d.readFile (m.revised past closes) p).result = (d.readFile m p).result := by
  unfold readFile
  rw [Machine.openPath_revised]
  cases m.openPath p .read 0 with
  | mk answer n =>
    cases answer with
    | error e => rfl
    | ok fd =>
      have read : Host.readOpen ⟨n.revised past closes, d.backend⟩ fd p = _ :=
        Host.readOpen_revised ⟨n, d.backend⟩ past closes fd p
      simp only [read]

end Driver

/-! ## Machines that differ in what was logged -/

/-- The same has been done to both machines, and they will go on in the same way. -/
structure Machine.Matches (m n : Machine) : Prop where
  calls : m.journal.calls = n.journal.calls
  state : { m with journal := [] } = { n with journal := [] }

namespace Machine

variable {m n : Machine}

theorem Matches.refl (m : Machine) : m.Matches m := ⟨rfl, rfl⟩

theorem Matches.trans {o : Machine} (first : m.Matches n) (second : n.Matches o) : m.Matches o :=
  ⟨first.calls.trans second.calls, first.state.trans second.state⟩

theorem matches_log (m : Machine) (level : LogLevel) (source : LogSource) (message : String) :
    (m.log level source message).Matches m := by
  refine ⟨?_, rfl⟩
  unfold log
  rw [Journal.calls_append]
  exact List.append_nil _

/-- What is done from here on does not depend on what was logged before. -/
theorem Matches.run {ε α : Type} (same : m.Matches n) (operation : Machine → Run ε α)
    (revised : ∀ m past, operation (Machine.revised m past id) = (operation m).revised past) :
    (operation m).result = (operation n).result ∧ (operation m).driver = (operation n).driver ∧
      (operation m).machine.Matches (operation n).machine := by
  have split (m : Machine) :
      m = Machine.revised { m with journal := [] } m.journal id := by
    unfold Machine.revised
    rw [List.append_nil]
    rfl
  rw [split m, split n, revised, revised, same.state]
  refine ⟨rfl, rfl, ?_, rfl⟩
  unfold Run.revised Machine.revised
  rw [Journal.calls_append, Journal.calls_append, same.calls]

end Machine

end WholeFile
