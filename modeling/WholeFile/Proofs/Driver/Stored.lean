import WholeFile.Proofs.Driver.Reading
import WholeFile.Proofs.Driver.Writing

/-!
# What files hold

As long as no one else writes to the files, a read gives what the file holds, and what the file
holds is what was written to it last. Answers that come short change nothing about that, unless one
of them is mistaken for the end of the file.
-/

namespace WholeFile

/-! ## Files that no one else writes to -/

/-- No file gets new content while it is read. -/
def Schedule.Steady (s : Schedule) : Prop := ∀ a ∈ s.read, a.content = none

theorem Schedule.Steady.of_leftOf {s t : Schedule} (ht : t.Steady) (h : s.LeftOf t) : s.Steady :=
  fun a ha => ht a (h.read.subset ha)

/-- The kernel keeps to what it promises, and no one else writes to the files. -/
structure Schedule.Orderly (s : Schedule) : Prop where
  honest : s.Honest
  steady : s.Steady

theorem Schedule.Orderly.of_leftOf {s t : Schedule} (ht : t.Orderly) (h : s.LeftOf t) :
    s.Orderly := ⟨ht.honest.of_leftOf h, ht.steady.of_leftOf h⟩

/-- What a read delivers is what the file holds at that place. -/
def Call.Faithful (content : Bytes) : Call → Prop
  | .read _ _ offset (.ok bytes) => bytes <+: content.drop offset
  | _ => True

/-- No read came to nothing before the end of the file. -/
def Uncut (content : Bytes) (cs : List Call) : Prop :=
  ∀ fd length offset, .read fd length offset (.ok []) ∈ cs → content.length ≤ offset

theorem Reads.gathered_eq {k : DriverKind} {fd : Descriptor} {causes : IoError → Prop}
    {size offset : Nat} {rs : List ReadRequest} {content : Bytes} {ending : ReadEnd}
    (reads : Reads k causes size offset rs ending) (complete : ending = .complete)
    (faithful : ∀ c ∈ readCalls fd rs, c.Faithful content) (uncut : Uncut content (readCalls fd rs)) :
    gathered rs = content.drop offset := by
  have rest {c : Call} {cs : List Call} (uncut : Uncut content (c :: cs)) : Uncut content cs :=
    fun fd length offset mem => uncut fd length offset (List.mem_cons_of_mem _ mem)
  induction reads with
  | complete =>
    have ended := uncut _ _ _ List.mem_cons_self
    rw [List.drop_eq_nil_of_le ended]
    rfl
  | interrupted reads ih =>
    exact ih complete (fun c mem => faithful c (List.mem_cons_of_mem _ mem)) (rest uncut)
  | @delivered size offset bytes rs ending nonempty le granted reads ih =>
    obtain ⟨later, there⟩ : bytes <+: content.drop offset := faithful _ List.mem_cons_self
    have more := ih complete (fun c mem => faithful c (List.mem_cons_of_mem _ mem)) (rest uncut)
    change bytes ++ gathered rs = _
    rw [more, ← List.drop_drop, ← there, List.drop_left]
  | refused | failed | unserved => cases complete

namespace Machine

variable {m : Machine} {fd : Descriptor} {p : Path} {length offset : Nat}

theorem path?_read (m : Machine) (fd other : Descriptor) (length offset : Nat) :
    (m.read fd length offset).2.path? other = m.path? other := by
  unfold path?
  simp only [read, record, descriptors_transferIn]

theorem content_next (steady : m.schedule.Steady) :
    (next ({} : ReadAnswer) m.schedule.read).1.content = none := by
  cases hq : m.schedule.read with
  | nil => rfl
  | cons a rest => exact steady a (hq ▸ List.mem_cons_self)

theorem files_read (steady : m.schedule.Steady) (fd : Descriptor) (length offset : Nat) :
    (m.read fd length offset).2.files = m.files := by
  simp only [read, record, transferIn, content_next steady]
  rfl

/-- What a read delivers is what the file holds at that place. -/
theorem read_prefix (steady : m.schedule.Steady) (path : m.path? fd = some p) {bytes : Bytes}
    (h : (m.read fd length offset).1 = .ok bytes) : bytes <+: (m.files.content p).drop offset := by
  simp only [read, transferIn, content_next steady] at h
  split at h
  · cases h
  · cases h
  · next node _ there =>
    have named : m.files.find? p = some node := by
      have there' : (m.path? fd).bind m.files.find? = some node := there
      rwa [path] at there'
    have held : m.files.content p = node.content := by
      unfold FileTable.content
      rw [named]
      rfl
    split at h
    · cases h
    · cases h
      rw [held]
      exact List.take_prefix _ _

end Machine

/-! ## Reads change no file -/

namespace Host

variable {h h' h'' : Host} {fd : Descriptor} {p : Path} {offset : Nat} {target : Target}
  {loan : Loan} {f : Fill}

/-- Nothing has been done but to look at files, at `p` where it is open as `fd`. -/
structure Looked (fd : Descriptor) (p : Path) (h h' : Host) : Prop where
  files : h'.machine.files = h.machine.files
  path : h'.machine.path? fd = some p
  faithful : ∀ c ∈ (h.machine.since h'.machine).deeds, c.Faithful (h.machine.files.content p)

theorem Looked.refl (path : h.machine.path? fd = some p) : Looked fd p h h := by
  refine ⟨rfl, path, ?_⟩
  rw [Machine.since_self]
  intro c mem
  cases mem

theorem Looked.trans (first : Looked fd p h h') (second : Looked fd p h' h'')
    (before : h.machine.Before h'.machine) (before' : h'.machine.Before h''.machine) :
    Looked fd p h h'' := by
  refine ⟨second.files.trans first.files, second.path, ?_⟩
  rw [Machine.since_trans before before', Journal.deeds_append]
  intro c mem
  rcases List.mem_append.1 mem with early | late
  · exact first.faithful c early
  · rw [← first.files]
    exact second.faithful c late

/-- Machines that differ in their waits alone have done the same. -/
theorem Looked.of_plain (looked : Looked fd p h h') (before : h.machine.Before h'.machine)
    (before' : h.machine.Before h''.machine) (plain : h''.machine.plain = h'.machine.plain) :
    Looked fd p h h'' := by
  refine ⟨?_, ?_, ?_⟩
  · rw [Machine.files_of_plain plain, looked.files]
  · rw [Machine.path?_of_plain plain, looked.path]
  · rw [Machine.deeds_since before' before plain]
    exact looked.faithful

theorem looked_perform (steady : h.machine.schedule.Steady) (path : h.machine.path? fd = some p)
    (length offset : Nat) (target : Target) (loan : Loan) :
    Looked fd p h
      { h with machine := (h.machine.perform fd offset (.read length target) loan).machine } := by
  refine ⟨Machine.files_read steady .., ?_, ?_⟩
  · exact (Machine.path?_read ..).trans path
  · rw [Machine.deeds_since_perform]
    intro c mem
    cases List.mem_singleton.1 mem
    unfold Machine.deed Call.Faithful
    split
    · next answered =>
      obtain ⟨-, -, rfl, answer⟩ := Call.read.inj answered
      exact Machine.read_prefix steady path answer
    · trivial

theorem Retries.looked {length : Nat} (retries : Retries fd offset (.read length target) h h')
    (ready : h.Ready) (steady : h.machine.schedule.Steady) (path : h.machine.path? fd = some p) :
    Looked fd p h h' := by
  induction retries with
  | none => exact .refl path
  | again loan answer plain onward rest ih =>
    have once := (looked_perform steady path length offset target loan).of_plain
      (Machine.before_perform ..) onward.before plain
    have more := ih onward.ready (steady.of_leftOf onward.before.schedule) once.path
    exact once.trans more onward.before (rest.onward onward.ready).before

theorem readAt_looked (ready : h.Ready) (steady : h.machine.schedule.Steady)
    (path : h.machine.path? fd = some p) (offset : Nat) (target : Target)
    (since : loan.since ≤ h.issued) : Looked fd p h (h.readAt fd offset target loan).host := by
  obtain ⟨h', retries, tries, last, -⟩ := readAt_retries ready fd offset target since
  have first := retries.onward ready
  have looked := retries.looked ready steady path
  refine looked.trans ?_ first.before last.before
  cases tries with
  | refused e why result lent plain =>
    exact (Looked.refl looked.path).of_plain (.refl _) last.before plain
  | answered result lent plain =>
    have once := looked_perform (steady.of_leftOf first.before.schedule) looked.path
      (h.backend.kind.limited (loan.room offset target)) offset target loan
    exact once.of_plain (Machine.before_perform ..) last.before plain

theorem readStep_looked (ready : h.Ready) (steady : h.machine.schedule.Steady)
    (path : h.machine.path? fd = some p) (since : f.since ≤ h.issued) :
    Looked fd p h (h.readStep fd f).2 := by
  rcases readStep_host h fd f with same | ⟨target, same⟩
  · rw [same]
    exact .refl path
  · rw [same]
    exact readAt_looked ready steady path _ _ since

theorem readAll_looked (ready : h.Ready) (steady : h.machine.schedule.Steady)
    (path : h.machine.path? fd = some p) (since : f.since ≤ h.issued) :
    Looked fd p h (h.readAll fd f).2 := by
  fun_induction readAll h fd f with
  | case1 h f f' h' hs _ ih =>
    have onward := readStep_onward ready fd f
    have looked := readStep_looked ready steady path since
    have since' := readStep_since since hs
    rw [hs] at onward looked
    have rest := ih onward.ready (steady.of_leftOf onward.before.schedule) looked.path since'
    exact looked.trans rest onward.before (readAll_onward onward.ready fd f').before
  | case2 h f f' h' hs | case3 h f cause h' hs =>
    have looked := readStep_looked ready steady path since
    rwa [hs] at looked

theorem looked_sized (path : h.machine.path? fd = some p) : Looked fd p h (h.sized fd) := by
  refine ⟨rfl, path, ?_⟩
  rw [deeds_since_sized]
  intro c mem
  cases List.mem_singleton.1 mem
  trivial

theorem readOpen_looked (ready : h.Ready) (steady : h.machine.schedule.Steady)
    (path : h.machine.path? fd = some p) : Looked fd p h (h.readOpen fd p).2 := by
  have asked := sized_onward ready fd
  have first := looked_sized path
  apply readOpen_cases (P := fun run => Looked fd p h run.2)
  · intro e _
    exact first
  · intro hint e _ _
    exact first
  · intro hint b _ _
    have onward := readAll_onward asked.ready fd ⟨b, 0, h.issued⟩
    have rest := readAll_looked (f := ⟨b, 0, h.issued⟩) asked.ready
      (steady.of_leftOf asked.before.schedule) first.path (Nat.le_refl _)
    have finished := finish_onward (asked.trans onward) p
    exact (first.trans rest asked.before onward.before).of_plain (asked.trans onward).before
      finished.before (finish_plain ..)

end Host

/-! ## Whole files -/

namespace Driver

variable {d : Driver} {m : Machine} {p : Path}

theorem files_readFile (ready : (d.host m).Ready) (steady : m.schedule.Steady) (p : Path) :
    (d.readFile m p).machine.files = m.files := by
  rcases readFile_ends d m p with ⟨e, opens, -⟩ | ⟨fd, n, opens, before, -, -, closed⟩
  · exact opens.files_of_error
  · have first : (d.host m).Onward (d.host n) := .of_before ready before
    cases opens with
    | opened _ _ _ _ files path =>
      obtain ⟨same, -⟩ := Machine.filesOpened_read files
      have looked := Host.readOpen_looked first.ready (steady.of_leftOf before.schedule) path
      rw [closed, Machine.files_close, looked.files]
      exact same

theorem readFile_holds (ready : (d.host m).Ready) (steady : m.schedule.Steady) {b : Buffer}
    (result : (d.readFile m p).result = .ok b)
    (uncut : Uncut (m.files.content p) (m.since (d.readFile m p).machine).deeds) :
    m.files.Holds p b.bytes := by
  rcases readFile_ends d m p with ⟨e, -, failed⟩ | ⟨fd, n, opens, before, -, read, closed⟩
  · rw [failed] at result
    cases result
  · have first : (d.host m).Onward (d.host n) := .of_before ready before
    have onward := Host.readOpen_onward first.ready fd p
    have reads := Host.readOpen_reads first.ready fd p
    cases opens with
    | opened _ _ _ _ files path =>
      obtain ⟨same, node, there⟩ := Machine.filesOpened_read files
      have looked := Host.readOpen_looked first.ready (steady.of_leftOf before.schedule) path
      rw [← read, result] at reads
      rw [closed] at uncut
      generalize ((d.host n).readOpen fd p).2 = h' at *
      cases reads with
      | @complete hint rs _ granted reads gained deeds =>
        -- What was done while the file was open is part of what the whole run did.
        have whole : n.Before h'.machine := onward.before
        have did : (n.since h'.machine).deeds = .size fd (.ok hint) :: readCalls fd rs := deeds
        have faithful : ∀ c ∈ readCalls fd rs, c.Faithful (m.files.content p) := by
          intro c mem
          rw [← same]
          exact looked.faithful c (deeds ▸ List.mem_cons_of_mem _ mem)
        have uncut' : Uncut (m.files.content p) (readCalls fd rs) := by
          intro fd' length offset mem
          apply uncut fd' length offset
          rw [Machine.since_trans before (whole.trans (Machine.before_close ..)),
            Machine.since_trans whole (Machine.before_close ..), Journal.deeds_append,
            Journal.deeds_append, did]
          exact List.mem_append_right _ (List.mem_append_left _ (List.mem_cons_of_mem _ mem))
        refine ⟨node, there, ?_⟩
        rw [gained, reads.gathered_eq rfl faithful uncut', List.drop_zero]
        unfold FileTable.content
        rw [there]
        rfl

theorem find?_writeFile_of_ne (ready : (d.host m).Ready) (bytes : Bytes) {q : Path}
    (other : q ≠ p) : (d.writeFile m p bytes).machine.files.find? q = m.files.find? q := by
  rcases writeFile_ends ready p bytes with ⟨e, -, files, -⟩ | ⟨fd, cs, closed, replaced⟩
  · rw [files]
  · exact replaced.others q other

theorem content_writeFile (ready : (d.host m).Ready) (bytes : Bytes)
    (result : (d.writeFile m p bytes).result = .ok ()) :
    (d.writeFile m p bytes).machine.files.content p = bytes := by
  rcases writeFile_ends ready p bytes with ⟨e, -, -, failed⟩ | ⟨fd, cs, closed, replaced⟩
  · rw [result] at failed
    cases failed
  · obtain ⟨all, -⟩ := replaced.ok.1 result
    rw [replaced.content, all, List.take_length]

/-! ## Drivers on orderly machines -/

theorem Settled.ready (settled : d.Settled) (orderly : m.schedule.Orderly) : (d.host m).Ready :=
  ready_iff.2 ⟨settled, fun _ => orderly.honest⟩

theorem settled_readFile (settled : d.Settled) (orderly : m.schedule.Orderly) (p : Path) :
    (d.readFile m p).driver.Settled :=
  (ready_iff.1 (readFile_onward (settled.ready orderly) p).ready).1

theorem settled_writeFile (settled : d.Settled) (orderly : m.schedule.Orderly) (p : Path)
    (bytes : Bytes) : (d.writeFile m p bytes).driver.Settled :=
  (ready_iff.1 (writeFile_onward (settled.ready orderly) p bytes).ready).1

theorem keeps_readFile (settled : d.Settled) (orderly : m.schedule.Orderly) (p : Path) :
    m.Keeps none (d.readFile m p).machine where
  before := (readFile_onward (settled.ready orderly) p).before
  files := files_readFile (settled.ready orderly) orderly.steady p

theorem keeps_writeFile (settled : d.Settled) (orderly : m.schedule.Orderly) (p : Path)
    (bytes : Bytes) : m.Keeps (some p) (d.writeFile m p bytes).machine where
  before := (writeFile_onward (settled.ready orderly) p bytes).before
  files _ other := find?_writeFile_of_ne (settled.ready orderly) bytes other

end Driver

end WholeFile
