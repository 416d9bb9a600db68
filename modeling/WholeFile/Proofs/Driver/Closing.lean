import WholeFile.Proofs.Driver.Backends
import WholeFile.Proofs.Driver.Retrieved
import WholeFile.Proofs.Machine.Descriptors

/-!
# Files are closed

A call on a file that gets it open closes it once, as the last thing it does, however it ends. In
between it uses no other file, and when it closes the file no ring has anything under way.
-/

namespace WholeFile

/-! ## Transfers leave descriptors alone -/

namespace Host

variable {h : Host}

theorem descriptors_tryRead (h : Host) (fd : Descriptor) (offset : Nat) (target : Target)
    (loan : Loan) :
    (h.tryRead fd offset target loan).host.machine.descriptors = h.machine.descriptors := by
  obtain ⟨m, backend⟩ := h
  cases backend with
  | blocking => exact m.descriptors_transferIn fd (loan.room offset target) offset
  | ring r => exact r.descriptors_transfer ..

theorem descriptors_tryWrite (h : Host) (fd : Descriptor) (offset : Nat) (bytes : Bytes) :
    (h.tryWrite fd offset bytes).host.machine.descriptors = h.machine.descriptors := by
  obtain ⟨m, backend⟩ := h
  cases backend with
  | blocking => exact m.descriptors_transferOut ..
  | ring r => exact r.descriptors_transfer ..

theorem descriptors_lasting :
    Lasting fun h h' => h'.machine.descriptors = h.machine.descriptors where
  refl _ := rfl
  trans first rest := rest.trans first
  tryRead := descriptors_tryRead
  tryWrite := descriptors_tryWrite

theorem descriptors_readOpen (h : Host) (fd : Descriptor) (p : Path) :
    (h.readOpen fd p).2.machine.descriptors = h.machine.descriptors := by
  apply readOpen_cases (P := fun run => run.2.machine.descriptors = h.machine.descriptors)
  · intro e _
    rfl
  · intro hint e _ _
    rfl
  · intro hint b _ _
    exact (Machine.descriptors_of_plain (finish_plain p _)).trans (descriptors_lasting.readAll ..)

end Host

/-! ## Whole files leave descriptors alone -/

namespace Driver

theorem sameOpen_readFile (d : Driver) (m : Machine) (p : Path) :
    m.SameOpen (d.readFile m p).machine := by
  have assigns := m.openPath_assigns p .read 0
  unfold readFile
  cases ho : m.openPath p .read 0 with
  | mk answer n =>
    rw [ho] at assigns
    cases answer with
    | error e => exact .of_eq assigns
    | ok fd => exact assigns.closed (Host.descriptors_readOpen ⟨n, d.backend⟩ fd p)

theorem sameOpen_writeFile (d : Driver) (m : Machine) (p : Path) (bytes : Bytes) :
    m.SameOpen (d.writeFile m p bytes).machine := by
  have assigns := m.openPath_assigns p .replace d.fileMode
  unfold writeFile
  cases ho : m.openPath p .replace d.fileMode with
  | mk answer n =>
    rw [ho] at assigns
    cases answer with
    | error e => exact .of_eq assigns
    | ok fd =>
      have closed := assigns.closed (Host.descriptors_lasting.writeAll ⟨n, d.backend⟩ fd bytes 0)
      refine closed.trans (.of_eq ?_)
      exact Machine.descriptors_of_plain
        (Host.settle_plain fd p (Host.writeAll ⟨n, d.backend⟩ fd bytes 0))

end Driver

/-! ## One file, opened and closed -/

/-- How a call on a file goes that starts on `m` and ends on `n` with the given backend. -/
inductive Discipline (m n : Machine) (backend : Backend) : Prop
  /-- No file was opened. -/
  | unopened (refused : ∀ c ∈ (m.since n).deeds, c.Refused)
  /-- A file was opened under a free descriptor. On the host `h` all was done but closing it. -/
  | closed {refusals uses : List Call} {opening : Call} {fd : Descriptor} {h : Host}
      (free : m.path? fd = none)
      (refused : ∀ c ∈ refusals, c.Refused) (opened : opening.opens? = some fd)
      (used : ∀ c ∈ uses, c.uses? = some fd)
      (held : (m.since h.machine).deeds = refusals ++ opening :: uses)
      (idle : ∀ r, h.backend = .ring r → r.Settled)
      (closing : n.Matches (h.machine.close fd).2) (kept : backend = h.backend)
      (deeds : (m.since n).deeds =
        refusals ++ opening :: (uses ++ [.close fd (h.machine.close fd).1]))

theorem Machine.Matches.plain {m n : Machine} (same : m.Matches n) : m.plain = n.plain := by
  have deeds : m.journal.deeds = n.journal.deeds := congrArg (List.filterMap Call.deed?) same.calls
  have moved (j : Journal) : Machine.rebased { m with journal := [] } [] j =
      Machine.rebased { n with journal := [] } [] j := by rw [same.state]
  unfold Machine.plain
  rw [deeds]
  exact moved _

theorem Machine.Opens.refused {m n : Machine} {p : Path} {access : Access} {mode : Nat}
    {e : IoError} (opens : Machine.Opens m p access mode (.error e) n) :
    ∀ c ∈ (m.since n).deeds, c.Refused := by
  intro c mem
  cases opens with
  | unspeakable =>
    rw [Machine.since_self] at mem
    cases mem
  | failed _ tries e _ deeds =>
    rw [deeds] at mem
    rcases List.mem_append.1 mem with again | last
    · rw [List.eq_of_mem_replicate again]
      exact refused_interruptedOpen ..
    · rw [List.mem_singleton.1 last]
      exact ⟨p, access, mode, e, rfl⟩

/-- A file that was opened is used and closed. -/
theorem discipline_of_opens {m n o : Machine} {p : Path} {access : Access} {mode : Nat}
    {fd : Descriptor} {h : Host} {backend : Backend}
    (opens : Machine.Opens m p access mode (.ok fd) n) (free : m.path? fd = none)
    (before : m.Before n) (onward : Host.Onward ⟨n, backend⟩ h)
    (used : ∀ c ∈ (n.since h.machine).deeds, c.uses? = some fd)
    (after : h.machine.Before o) (closing : o.Matches (h.machine.close fd).2) :
    Discipline m o h.backend := by
  have middle : n.Before h.machine := onward.before
  cases opens with
  | opened _ tries _ opening =>
    have held : (m.since h.machine).deeds =
        List.replicate tries (Machine.interruptedOpen p access mode) ++
          .openFile p access mode (.ok fd) :: (n.since h.machine).deeds := by
      rw [Machine.since_trans before middle, Journal.deeds_append, opening, List.append_assoc]
      rfl
    refine .closed free ?_ rfl used held ?_ closing rfl ?_
    -- Only interruptions come before the call that gave the descriptor.
    · intro c mem
      rw [List.eq_of_mem_replicate mem]
      exact refused_interruptedOpen ..
    · intro r ring
      have ready := onward.ready
      unfold Host.Ready at ready
      rw [ring] at ready
      exact ready.1
    · rw [Machine.since_trans (before.trans middle) after, Journal.deeds_append, held,
        Machine.deeds_since after (Machine.before_close ..) closing.plain,
        Machine.deeds_since_close, List.append_assoc]
      rfl

theorem used_readCalls {fd : Descriptor} {rs : List ReadRequest} :
    ∀ c ∈ readCalls fd rs, c.uses? = some fd := by
  intro c mem
  obtain ⟨r, -, answer, -, rfl⟩ := mem_readCalls mem
  rfl

theorem Host.ReadsOpen.used {h h' : Host} {fd : Descriptor} {result : Except Failure Buffer}
    (reads : h.ReadsOpen fd h' result) :
    ∀ c ∈ (h.machine.since h'.machine).deeds, c.uses? = some fd := by
  rcases reads.told with ⟨e, deeds, -⟩ | ⟨hint, rs, deeds, -⟩
  · rw [deeds]
    simp [Call.uses?]
  · rw [deeds]
    simpa [Call.uses?] using used_readCalls

theorem Writes.used {k : DriverKind} {fd : Descriptor} {bytes : Bytes} {causes : IoError → Prop}
    {written reached : Nat} {cs : List Call} {ending : WriteEnd}
    (writes : Writes k fd bytes causes written cs reached ending) :
    ∀ c ∈ cs, c.uses? = some fd := by
  intro c mem
  obtain ⟨before, after, split⟩ := List.append_of_mem mem
  obtain ⟨-, answer, rfl, -⟩ := writes.request split
  rfl

theorem Host.settle_matches (fd : Descriptor) (p : Path) (run : Except Error Nat × Host) :
    (settle fd p run).2.machine.Matches (run.2.machine.close fd).2 ∧
      (settle fd p run).2.backend = run.2.backend := by
  obtain ⟨result, h⟩ := run
  cases result with
  | error cause => exact ⟨.refl _, rfl⟩
  | ok written =>
    unfold settle
    cases hc : h.machine.close fd with
    | mk answer m =>
      simp only [hc]
      cases answer with
      | error e => exact ⟨.refl _, rfl⟩
      | ok _ => exact ⟨Machine.matches_log .., rfl⟩

namespace Driver

variable {d : Driver} {m : Machine}

theorem readFile_discipline (ready : (d.host m).Ready) (p : Path) :
    Discipline m (d.readFile m p).machine (d.readFile m p).driver.backend := by
  have opens := m.openPath_opens p .read 0
  have assigns := m.openPath_assigns p .read 0
  have before := m.before_openPath p .read 0
  unfold readFile
  cases ho : m.openPath p .read 0 with
  | mk answer n =>
    rw [ho] at opens assigns before
    cases answer with
    | error e => exact .unopened opens.refused
    | ok fd =>
      have first : (d.host m).Onward (d.host n) := .of_before ready before
      have reads := Host.readOpen_reads first.ready fd p
      have onward := Host.readOpen_onward first.ready fd p
      exact discipline_of_opens opens assigns.1 before onward reads.used (Machine.before_close ..)
        (.refl _)

theorem writeFile_discipline (ready : (d.host m).Ready) (p : Path) (bytes : Bytes) :
    Discipline m (d.writeFile m p bytes).machine (d.writeFile m p bytes).driver.backend := by
  have opens := m.openPath_opens p .replace d.fileMode
  have assigns := m.openPath_assigns p .replace d.fileMode
  have before := m.before_openPath p .replace d.fileMode
  unfold writeFile
  cases ho : m.openPath p .replace d.fileMode with
  | mk answer n =>
    rw [ho] at opens assigns before
    cases answer with
    | error e => exact .unopened opens.refused
    | ok fd =>
      have first : (d.host m).Onward (d.host n) := .of_before ready before
      have onward := Host.writeAll_onward first.ready fd bytes 0
      have used : ∀ c ∈ (n.since ((d.host n).writeAll fd bytes 0).2.machine).deeds,
          c.uses? = some fd := by
        cases opens with
        | opened _ _ _ _ files path =>
          obtain ⟨node, empty, table⟩ := Machine.filesOpened_replace files
          have emptied : n.files.Holds p [] := by
            rw [table, ← empty]
            exact FileTable.holds_insert ..
          obtain ⟨cs, reached, ending, wrote, -⟩ :=
            Host.writeAll_wrote first.ready path (w := 0) emptied (Nat.zero_le bytes.length)
          have did : (n.since ((d.host n).writeAll fd bytes 0).2.machine).deeds = cs := wrote.deeds
          rw [did]
          exact wrote.writes.used
      obtain ⟨closing, backend⟩ := Host.settle_matches fd p ((d.host n).writeAll fd bytes 0)
      have closes := Host.settle_onward (.refl onward.ready) fd p
      have discipline :=
        discipline_of_opens opens assigns.1 before onward used closes.before closing
      rwa [← backend] at discipline

end Driver

/-! ## Opened once, closed once -/

/-- The call has opened a file, or was made to close one. -/
def Call.handles : Call → Bool
  | openFile _ _ _ (.ok _) | close _ _ => true
  | _ => false

namespace Journal

/-- Which files were opened and which were closed, in order. -/
def handled (j : Journal) : List Call := j.calls.filter Call.handles

theorem handled_append (i j : Journal) : handled (i ++ j) = handled i ++ handled j := by
  unfold handled
  rw [calls_append, List.filter_append]

theorem handled_eq_deeds (j : Journal) : j.handled = j.deeds.filter Call.handles := by
  unfold handled deeds
  rw [List.filter_filterMap, ← List.filterMap_eq_filter]
  congr 1
  funext c
  cases c <;> rfl

theorem handled_eq_nil {j : Journal} (idle : ∀ c ∈ j.calls, c.handles = false) : j.handled = [] :=
  List.filter_eq_nil_iff.2 fun c mem => Bool.eq_false_iff.1 (idle c mem)

end Journal

theorem Call.Refused.handles {c : Call} (refused : c.Refused) : c.handles = false := by
  obtain ⟨p, access, mode, e, rfl⟩ := refused
  rfl

theorem Call.handles_of_viaRing {c : Call} (via : c.viaRing = true) : c.handles = false := by
  cases c <;> first | rfl | cases via

namespace Machine

variable {m n : Machine} {p : Path} {access : Access} {mode : Nat} {fd : Descriptor}

theorem Opens.handled (opens : Opens m p access mode (.ok fd) n) :
    (m.since n).handled = [.openFile p access mode (.ok fd)] := by
  cases opens with
  | opened _ tries _ deeds =>
    have again :
        (List.replicate tries (interruptedOpen p access mode)).filter Call.handles = [] := by
      apply List.filter_eq_nil_iff.2
      intro c mem
      rw [List.eq_of_mem_replicate mem, (refused_interruptedOpen p access mode).handles]
      exact Bool.false_ne_true
    rw [Journal.handled_eq_deeds, deeds, List.filter_append, again]
    rfl

theorem Opens.handled_of_error {e : IoError} (opens : Opens m p access mode (.error e) n) :
    (m.since n).handled = [] := by
  rw [Journal.handled_eq_deeds]
  apply List.filter_eq_nil_iff.2
  intro c mem
  rw [(opens.refused c mem).handles]
  exact Bool.false_ne_true

theorem handled_since_call (before : m.Before n) {c : Call}
    (journal : n.journal = m.journal ++ [.call c]) :
    (m.since n).handled = [c].filter Call.handles := by
  rw [(since_eq_iff before).2 journal]
  rfl

theorem handled_since_close (m : Machine) (fd : Descriptor) :
    (m.since (m.close fd).2).handled = [.close fd (m.close fd).1] :=
  handled_since_call (m.before_close fd) (c := .close fd (m.close fd).1) rfl

theorem handled_since {o : Machine} (hn : m.Before n) (ho : m.Before o) (same : n.plain = o.plain) :
    (m.since n).handled = (m.since o).handled := by
  rw [Journal.handled_eq_deeds, Journal.handled_eq_deeds, deeds_since hn ho same]

end Machine

theorem Ring.calls_transfer (r : Ring) (m : Machine) (fd : Descriptor) (offset : Nat) (t : Transfer)
    (loan : Loan) :
    ∀ c ∈ (m.since (r.transfer m fd offset t loan).2.machine).calls, c.viaRing = true := by
  rcases r.transfer_leads m fd offset t loan with refused | leads
  · rw [refused, Machine.since_self]
    intro c mem
    cases mem
  · exact leads.calls

namespace Host

/-- Attempts neither open nor close anything. -/
theorem handled_lasting : Lasting fun h h' =>
    h.machine.Before h'.machine ∧ (h.machine.since h'.machine).handled = [] where
  refl h := by
    refine ⟨.refl _, ?_⟩
    rw [Machine.since_self]
    rfl
  trans := by
    rintro h h' h'' ⟨before, first⟩ ⟨before', second⟩
    refine ⟨before.trans before', ?_⟩
    rw [Machine.since_trans before before', Journal.handled_append, first, second]
    rfl
  tryRead h fd offset target loan := by
    obtain ⟨m, backend⟩ := h
    cases backend with
    | blocking =>
      have before := m.before_read fd (loan.room offset target) offset
      exact ⟨before, Machine.handled_since_call before (m.journal_read ..)⟩
    | ring r =>
      refine ⟨r.before_transfer .., Journal.handled_eq_nil fun c mem => ?_⟩
      exact Call.handles_of_viaRing (r.calls_transfer _ _ _ _ _ c mem)
  tryWrite h fd offset bytes := by
    obtain ⟨m, backend⟩ := h
    cases backend with
    | blocking =>
      have before := m.before_write fd bytes offset
      exact ⟨before, Machine.handled_since_call before (m.journal_write ..)⟩
    | ring r =>
      refine ⟨r.before_transfer .., Journal.handled_eq_nil fun c mem => ?_⟩
      exact Call.handles_of_viaRing (r.calls_transfer _ _ _ _ _ c mem)

theorem handled_readOpen (h : Host) (fd : Descriptor) (p : Path) :
    (h.machine.since (h.readOpen fd p).2.machine).handled = [] := by
  have asked : (h.machine.since (h.sized fd).machine).handled = [] :=
    Machine.handled_since_call (h.machine.before_size fd) (c := .size fd (h.machine.size fd).1) rfl
  apply readOpen_cases (P := fun run => (h.machine.since run.2.machine).handled = [])
  · intro e _
    exact asked
  · intro hint e _ _
    exact asked
  · intro hint b _ _
    have sized : h.machine.Before (h.sized fd).machine := h.machine.before_size fd
    obtain ⟨before, idle⟩ := handled_lasting.readAll (h.sized fd) fd ⟨b, 0, h.issued⟩
    have finished := before_enduring.finish p ((h.sized fd).readAll fd ⟨b, 0, h.issued⟩)
    rw [Machine.handled_since (sized.trans (before.trans finished)) (sized.trans before)
      (finish_plain p _), Machine.since_trans sized before, Journal.handled_append, asked, idle]
    rfl

end Host

/-- A file is opened, nothing else is opened or closed on the way to `h`, and then it is closed. -/
theorem handled_of_opens {m n o : Machine} {p : Path} {access : Access} {mode : Nat}
    {fd : Descriptor} {h : Host} (opens : Machine.Opens m p access mode (.ok fd) n)
    (before : m.Before n) (middle : n.Before h.machine) (idle : (n.since h.machine).handled = [])
    (after : h.machine.Before o) (closing : o.plain = (h.machine.close fd).2.plain) :
    (m.since o).handled = [.openFile p access mode (.ok fd), .close fd (h.machine.close fd).1] := by
  rw [Machine.since_trans before (middle.trans after), Machine.since_trans middle after,
    Journal.handled_append, Journal.handled_append, opens.handled, idle,
    Machine.handled_since after (h.machine.before_close fd) closing, Machine.handled_since_close]
  rfl

namespace Driver

/-- A call opens one file, which it closes once and as the last of the two, or it opens none and
closes none. -/
theorem handled_carryOut (d : Driver) (m : Machine) (c : FileCall) :
    (m.since (d.carryOut m c).2.2).handled = [] ∨
      ∃ p access mode fd answer, (m.since (d.carryOut m c).2.2).handled =
        [.openFile p access mode (.ok fd), .close fd answer] := by
  cases c with
  | read p =>
    have opens := m.openPath_opens p .read 0
    have before := m.before_openPath p .read 0
    simp only [carryOut, readFile]
    cases ho : m.openPath p .read 0 with
    | mk answer n =>
      rw [ho] at opens before
      cases answer with
      | error e => exact .inl opens.handled_of_error
      | ok fd =>
        have read := Host.before_enduring.readOpen (d.host n) fd p
        exact .inr ⟨p, .read, 0, fd, _, handled_of_opens opens before read
          (Host.handled_readOpen (d.host n) fd p) (Machine.before_close ..) rfl⟩
  | write p bytes =>
    have opens := m.openPath_opens p .replace d.fileMode
    have before := m.before_openPath p .replace d.fileMode
    simp only [carryOut, writeFile]
    cases ho : m.openPath p .replace d.fileMode with
    | mk answer n =>
      rw [ho] at opens before
      cases answer with
      | error e => exact .inl opens.handled_of_error
      | ok fd =>
        obtain ⟨wrote, idle⟩ := Host.handled_lasting.writeAll (d.host n) fd bytes 0
        exact .inr ⟨p, .replace, d.fileMode, fd, _, handled_of_opens opens before wrote idle
          (Host.before_enduring.settle fd p _) (Host.settle_plain fd p _)⟩

variable {d : Driver} {m n : Machine} {p : Path} {bytes : Bytes} {fd : Descriptor} {w : Nat}
  {h : Host} {e : Errno}

/-- All bytes are written, and then the file fails to close. -/
theorem writeFile_of_close_error (opened : m.openPath p .replace d.fileMode = (.ok fd, n))
    (wrote : (d.host n).writeAll fd bytes 0 = (.ok w, h))
    (failed : (h.machine.close fd).1 = .error e) :
    (d.writeFile m p bytes).result = .error (.io (.os e)) := by
  have settled := Host.settle_result fd p ((d.host n).writeAll fd bytes 0)
  rw [wrote, failed] at settled
  unfold writeFile
  rw [opened]
  change (Host.writeOpen (d.host n) fd p bytes).1 = _
  rw [Host.writeOpen_eq, wrote]
  exact settled

/-- Where a file has been written to, its descriptor is free again. -/
theorem writeFile_released (opened : m.openPath p .replace d.fileMode = (.ok fd, n))
    (bytes : Bytes) : (d.writeFile m p bytes).machine.path? fd = none := by
  have assigns := m.openPath_assigns p .replace d.fileMode
  rw [opened] at assigns
  exact (d.sameOpen_writeFile m p bytes fd).trans assigns.1

end Driver

end WholeFile
