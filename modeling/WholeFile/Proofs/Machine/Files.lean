import WholeFile.Proofs.Machine.Plain

/-!
# Files under calls

Opening a file empties it or leaves it alone, and writing changes a stretch of it. No call on one
file touches another.
-/

namespace WholeFile

namespace FileTable

theorem find?_editContent_self {t : FileTable} {p : Path} {n : Node} (f : Bytes → Bytes)
    (h : t.find? p = some n) : (t.editContent p f).find? p = some { n with content := f n.content } := by
  unfold editContent
  rw [h]
  exact Table.find?_insert_self ..

/-- There is a node at `p`, with these bytes in it. -/
def Holds (t : FileTable) (p : Path) (bytes : Bytes) : Prop :=
  ∃ node, t.find? p = some node ∧ node.content = bytes

theorem Holds.content {t : FileTable} {p : Path} {bytes : Bytes} (h : t.Holds p bytes) :
    t.content p = bytes := by
  obtain ⟨node, there, held⟩ := h
  unfold FileTable.content
  rw [there]
  exact held

theorem Holds.editContent {t : FileTable} {p : Path} {bytes : Bytes} (h : t.Holds p bytes)
    (f : Bytes → Bytes) : (t.editContent p f).Holds p (f bytes) := by
  obtain ⟨node, there, held⟩ := h
  rw [← held]
  exact ⟨_, find?_editContent_self f there, rfl⟩

theorem holds_insert (t : FileTable) (p : Path) (node : Node) :
    Holds (t.insert p node) p node.content := ⟨node, Table.find?_insert_self .., rfl⟩

/-- The table once some of `bytes` have been put in place, as many as the answer says. -/
def written (t : FileTable) (p : Path) (offset : Nat) (bytes : Bytes) :
    Except Errno Nat → FileTable
  | .ok (n + 1) => t.editContent p (·.spliced offset (bytes.take (n + 1)))
  | _ => t

theorem find?_written_of_ne (t : FileTable) {p q : Path} (h : q ≠ p) (offset : Nat) (bytes : Bytes)
    (answer : Except Errno Nat) : (t.written p offset bytes answer).find? q = t.find? q := by
  unfold written
  split
  · exact find?_editContent_of_ne _ _ h
  · rfl

theorem written_take (t : FileTable) (p : Path) (offset n : Nat) (bytes : Bytes)
    {answer : Except Errno Nat} (le : ∀ count, answer = .ok count → count ≤ n) :
    t.written p offset (bytes.take n) answer = t.written p offset bytes answer := by
  unfold written
  split
  · next count =>
    have := le _ rfl
    rw [List.take_take, Nat.min_eq_left this]
  · rfl

/-- `u` is the table `t`, but for what it has at `target`. -/
def AgreeOff (t : FileTable) (target : Option Path) (u : FileTable) : Prop :=
  match target with
  | none => u = t
  | some p => ∀ q, q ≠ p → u.find? q = t.find? q

theorem AgreeOff.of_eq {t u : FileTable} (h : u = t) (target : Option Path) :
    t.AgreeOff target u := by
  cases target with
  | none => exact h
  | some p => exact fun q _ => congrArg (Table.find? · q) h

theorem AgreeOff.find? {t u : FileTable} {target : Option Path} (h : t.AgreeOff target u) {q : Path}
    (other : target ≠ some q) : u.find? q = t.find? q := by
  cases target with
  | none => exact congrArg (Table.find? · q) h
  | some p => exact h q fun same => other (congrArg some same.symm)

theorem AgreeOff.trans {t u v : FileTable} {target : Option Path} (first : t.AgreeOff target u)
    (second : u.AgreeOff target v) : t.AgreeOff target v := by
  cases target with
  | none => exact Eq.trans second first
  | some p => exact fun q other => (second q other).trans (first q other)

end FileTable

namespace Machine

variable {m n : Machine} {p : Path} {access : Access} {mode : Nat} {fd : Descriptor}

/-! ## Opening -/

theorem path?_allocate (m : Machine) (p : Path) :
    (m.allocate p).2.path? (m.allocate p).1 = some p := by
  unfold allocate path?
  cases hf : m.descriptors.findIdx? Option.isNone with
  | some fd =>
    have lt : fd < m.descriptors.length := by
      obtain ⟨h, -⟩ := List.findIdx?_eq_some_iff_getElem.1 hf
      exact h
    simp [lt]
  | none => simp

theorem files_allocate (m : Machine) (p : Path) : (m.allocate p).2.files = m.files := by
  unfold allocate
  split <;> rfl

theorem filesOpened_read {files : FileTable} (h : m.filesOpened p .read mode = .ok files) :
    files = m.files ∧ ∃ node, m.files.find? p = some node := by
  unfold filesOpened at h
  cases hn : m.files.find? p with
  | some node =>
    rw [hn] at h
    cases h
    exact ⟨rfl, node, rfl⟩
  | none =>
    rw [hn] at h
    cases h

theorem filesOpened_replace {files : FileTable} (h : m.filesOpened p .replace mode = .ok files) :
    ∃ node, node.content = [] ∧ files = m.files.insert p node := by
  unfold filesOpened at h
  cases hn : m.files.find? p with
  | some node =>
    rw [hn] at h
    simp only at h
    split at h
    · cases h
    · cases h
      exact ⟨_, rfl, rfl⟩
  | none =>
    rw [hn] at h
    simp only at h
    split at h
    · cases h
    · split at h
      · cases h
      · cases h
        exact ⟨_, rfl, rfl⟩

/-- Opening a file to replace its content changes nothing only where there was none. -/
theorem filesOpened_eq_self_iff {files : FileTable} (h : m.filesOpened p .replace mode = .ok files) :
    files = m.files ↔
      ∃ node, m.files.find? p = some node ∧ node.content = [] ∧ node.reported = none := by
  unfold filesOpened at h
  cases hn : m.files.find? p with
  | some node =>
    rw [hn] at h
    simp only at h
    split at h
    · cases h
    · cases h
      rw [Table.insert_eq_self_iff, hn]
      obtain ⟨content, mode, directory, reported⟩ := node
      simp [eq_comm]
  | none =>
    rw [hn] at h
    simp only at h
    repeat' split at h
    all_goals cases h
    rw [Table.insert_eq_self_iff, hn]
    simp

theorem opened_ok (h : m.opened p access mode = (.ok fd, n)) :
    m.filesOpened p access mode = .ok n.files ∧ n.path? fd = some p := by
  cases ho : m.filesOpened p access mode with
  | error e =>
    simp only [opened, ho] at h
    cases h
  | ok files =>
    simp only [opened, ho] at h
    obtain ⟨answer, rfl⟩ := Prod.mk.inj h
    obtain rfl := Except.ok.inj answer
    rw [files_allocate]
    exact ⟨rfl, path?_allocate ..⟩

theorem opened_error {e : Errno} (h : m.opened p access mode = (.error e, n)) : n = m := by
  cases ho : m.filesOpened p access mode with
  | error e =>
    simp only [opened, ho] at h
    cases h
    rfl
  | ok files =>
    simp only [opened, ho] at h
    cases h

/-- An open file has been opened, or made anew, with the table that there was. -/
theorem openFile_ok (h : m.openFile p access mode = (.ok fd, n)) :
    m.filesOpened p access mode = .ok n.files ∧ n.path? fd = some p := by
  simp only [openFile] at h
  split at h
  · cases h
  · next hf =>
    cases ho : opened { m with schedule.openFile := (next none m.schedule.openFile).2 } p access mode
      with
    | mk answer n' =>
      rw [ho] at h
      cases h
      have made := opened_ok ho
      exact made

theorem openFile_error {e : Errno} (h : m.openFile p access mode = (.error e, n)) :
    n.files = m.files ∧ n.umask = m.umask := by
  simp only [openFile] at h
  split at h
  · cases h
    exact ⟨rfl, rfl⟩
  · next hf =>
    cases ho : opened { m with schedule.openFile := (next none m.schedule.openFile).2 } p access mode
      with
    | mk answer n' =>
      rw [ho] at h
      cases h
      rw [opened_error ho]
      exact ⟨rfl, rfl⟩

/-- The call that is made again. -/
def interruptedOpen (p : Path) (access : Access) (mode : Nat) : Call :=
  .openFile p access mode (.error .interrupted)

/-- How opening `p` ends: which calls have been made, and which files there are then. -/
inductive Opens (m : Machine) (p : Path) (access : Access) (mode : Nat) :
    Except IoError Descriptor → Machine → Prop
  | unspeakable (nul : 0 ∈ p) : Opens m p access mode (.error .nulInPath) m
  | failed {n : Machine} (speakable : 0 ∉ p) (tries : Nat) (e : Errno) (ne : e ≠ .interrupted)
      (deeds : (m.since n).deeds =
        List.replicate tries (interruptedOpen p access mode) ++ [.openFile p access mode (.error e)])
      (files : n.files = m.files) : Opens m p access mode (.error (.os e)) n
  | opened {n : Machine} (speakable : 0 ∉ p) (tries : Nat) (fd : Descriptor)
      (deeds : (m.since n).deeds =
        List.replicate tries (interruptedOpen p access mode) ++ [.openFile p access mode (.ok fd)])
      (files : m.filesOpened p access mode = .ok n.files) (path : n.path? fd = some p) :
      Opens m p access mode (.ok fd) n

theorem Opens.files_of_error {e : IoError} (opens : Opens m p access mode (.error e) n) :
    n.files = m.files := by
  cases opens with
  | unspeakable => rfl
  | failed _ _ _ _ _ files => exact files

theorem deeds_since_openFile (m : Machine) (p : Path) (access : Access) (mode : Nat) :
    (m.since (m.openFile p access mode).2).deeds =
      [.openFile p access mode (m.openFile p access mode).1] := by
  rw [(since_eq_iff (before_openFile ..)).2 (journal_openFile ..)]
  rfl

theorem filesOpened_congr (files : n.files = m.files) (umask : n.umask = m.umask) :
    n.filesOpened p access mode = m.filesOpened p access mode := by
  unfold filesOpened
  rw [files, umask]

/-- One more call before. -/
theorem Opens.again {m' : Machine} {answer : Except IoError Descriptor}
    (h : m.openFile p access mode = (.error .interrupted, m')) (opens : Opens m' p access mode answer n)
    (later : m'.Before n) (speakable : 0 ∉ p) : Opens m p access mode answer n := by
  have first := m.deeds_since_openFile p access mode
  have before := m.before_openFile p access mode
  rw [h] at first before
  have joined : (m.since n).deeds = interruptedOpen p access mode :: (m'.since n).deeds := by
    rw [since_trans before later, Journal.deeds_append, first]
    rfl
  obtain ⟨files, umask⟩ := openFile_error h
  cases opens with
  | unspeakable nul => exact absurd nul speakable
  | failed _ tries e ne deeds files' =>
    refine .failed speakable (tries + 1) e ne ?_ (files'.trans files)
    rw [joined, deeds, List.replicate_succ, List.cons_append]
  | opened _ tries fd deeds files' path =>
    refine .opened speakable (tries + 1) fd ?_ ?_ path
    · rw [joined, deeds, List.replicate_succ, List.cons_append]
    · rw [← filesOpened_congr files umask, files']

theorem openAgain_opens (m : Machine) (access : Access) (mode : Nat) (speakable : 0 ∉ p) :
    Opens m p access mode ((m.openAgain p access mode).1.mapError .os)
      (m.openAgain p access mode).2 := by
  fun_induction openAgain m p access mode with
  | case1 m n h _ ih => exact ih.again h (before_openAgain ..) speakable
  | case2 m e n h ne =>
    have deeds := m.deeds_since_openFile p access mode
    rw [h] at deeds
    exact .failed speakable 0 e ne deeds (openFile_error h).1
  | case3 m fd n h =>
    have deeds := m.deeds_since_openFile p access mode
    rw [h] at deeds
    obtain ⟨files, path⟩ := openFile_ok h
    exact .opened speakable 0 fd deeds files path

theorem openPath_opens (m : Machine) (p : Path) (access : Access) (mode : Nat) :
    Opens m p access mode (m.openPath p access mode).1 (m.openPath p access mode).2 := by
  unfold openPath
  split
  · next nul => exact .unspeakable nul
  · next speakable => exact openAgain_opens m access mode speakable

/-! ## Writing -/

theorem path?_write (m : Machine) (fd other : Descriptor) (bytes : Bytes) (offset : Nat) :
    (m.write fd bytes offset).2.path? other = m.path? other := by
  unfold path?
  simp only [write, record, descriptors_transferOut]

/-- A write has put as many bytes in place as it is answered with. -/
theorem files_write (path : m.path? fd = some p) (bytes : Bytes) (offset : Nat) :
    (m.write fd bytes offset).2.files =
      m.files.written p offset bytes (m.write fd bytes offset).1 := by
  have path' : path? { m with schedule.write := (next ({} : WriteAnswer) m.schedule.write).2 } fd =
      some p := path
  simp only [write, record, transferOut, path']
  cases (next ({} : WriteAnswer) m.schedule.write).1.errno with
  | some e => rfl
  | none =>
    simp only
    generalize (next ({} : WriteAnswer) m.schedule.write).1.short.getD bytes.length = k
    split
    · rfl
    · next some =>
      have taken : bytes.take (bytes.take k).length = bytes.take k := by
        rw [List.length_take, ← List.take_eq_take_min]
      cases hn : (bytes.take k).length with
      | zero => exact absurd (List.length_eq_zero_iff.1 hn) some
      | succ n =>
        rw [hn] at taken
        simp only [FileTable.written, taken]

theorem count_write_le {bytes : Bytes} {offset count : Nat}
    (h : (m.write fd bytes offset).1 = .ok count) : count ≤ bytes.length := by
  simp only [write, transferOut] at h
  split at h
  · cases h
  · cases h
  · split at h
    · cases h
      exact Nat.zero_le _
    · cases h
      exact List.length_take_le' ..

/-! ## Reading -/

theorem length_read_le {length offset : Nat} {bytes : Bytes}
    (h : (m.read fd length offset).1 = .ok bytes) : bytes.length ≤ length := by
  simp only [read, transferIn] at h
  split at h
  · cases h
  · cases h
  · split at h
    · cases h
    · cases h
      exact Nat.le_trans (List.length_take_le ..) (Nat.min_le_left ..)

/-! ## Closing -/

theorem files_close (m : Machine) (fd : Descriptor) : (m.close fd).2.files = m.files := rfl

theorem close_eq_error_iff (m : Machine) (fd : Descriptor) :
    (∃ e, (m.close fd).1 = .error e) ↔ ∃ e, m.schedule.close.head? = some (some e) := by
  unfold close
  cases m.schedule.close with
  | nil => simp [next]
  | cons a rest => cases a <;> simp [next]

theorem deeds_since_close (m : Machine) (fd : Descriptor) :
    (m.since (m.close fd).2).deeds = [.close fd (m.close fd).1] := by
  have : m.since (m.close fd).2 = [.call (.close fd (m.close fd).1)] :=
    (since_eq_iff (before_close ..)).2 rfl
  rw [this]
  rfl

/-! ## Calls on no file -/

/-- `n` is what `m` has become by calls that go to no file. -/
structure Apart (m n : Machine) : Prop where
  before : m.Before n
  files : n.files = m.files
  descriptors : n.descriptors = m.descriptors

namespace Apart

variable {o : Machine}

theorem refl (m : Machine) : m.Apart m := ⟨.refl m, rfl, rfl⟩

theorem trans (first : m.Apart n) (second : n.Apart o) : m.Apart o where
  before := first.before.trans second.before
  files := second.files.trans first.files
  descriptors := second.descriptors.trans first.descriptors

theorem record (first : m.Apart n) (c : Call) : m.Apart (n.record c) :=
  first.trans ⟨before_record .., rfl, rfl⟩

theorem log (first : m.Apart n) (level : LogLevel) (source : LogSource) (message : String) :
    m.Apart (n.log level source message) := first.trans ⟨before_log .., rfl, rfl⟩

theorem learnt (first : m.Apart n) (known : Option Bool) :
    m.Apart { n with ringSupport := known } :=
  first.trans ⟨⟨List.prefix_refl _, .refl _⟩, rfl, rfl⟩

end Apart

theorem apart_setup (m : Machine) (entries : Nat) : m.Apart (m.setup entries).2 :=
  ⟨before_setup .., rfl, rfl⟩

theorem apart_probe (m : Machine) : m.Apart m.probe.2 := ⟨before_probe m, rfl, rfl⟩

/-! ## Calls on one file at most -/

/-- `n` is what `m` has become by calls, and no file but `target` has changed. -/
structure Keeps (m : Machine) (target : Option Path) (n : Machine) : Prop where
  before : m.Before n
  files : m.files.AgreeOff target n.files

theorem Apart.keeps (apart : m.Apart n) (target : Option Path) : m.Keeps target n :=
  ⟨apart.before, .of_eq apart.files target⟩

namespace Keeps

variable {o : Machine} {target : Option Path}

theorem refl (m : Machine) : m.Keeps target m := ⟨.refl m, .of_eq rfl target⟩

theorem trans (first : m.Keeps target n) (second : n.Keeps none o) : m.Keeps target o :=
  ⟨first.before.trans second.before, first.files.trans (.of_eq second.files target)⟩

theorem log (first : m.Keeps target n) (level : LogLevel) (source : LogSource) (message : String) :
    m.Keeps target (n.log level source message) := first.trans ⟨before_log .., rfl⟩

end Keeps

end Machine

end WholeFile
