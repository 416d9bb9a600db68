import WholeFile.Proofs.Machine.Files

/-!
# Descriptors under calls

Opening a file takes a descriptor that was free, and closing it frees it again, whatever the call is
answered with. Nothing else that is done to an open file changes which descriptors are in use.
-/

namespace WholeFile

/-! ## What calls are for -/

/-- The descriptor that a call has opened. -/
def Call.opens? : Call → Option Descriptor
  | openFile _ _ _ (.ok fd) => some fd
  | _ => none

/-- The open file that a call is for, if it does not close it. -/
def Call.uses? : Call → Option Descriptor
  | size fd _ | read fd _ _ _ | write fd _ _ _ | ringRead _ fd _ _ _ | ringWrite _ fd _ _ _ =>
    some fd
  | _ => none

/-- The call has failed to open a file. -/
def Call.Refused (c : Call) : Prop := ∃ p access mode e, c = .openFile p access mode (.error e)

theorem refused_interruptedOpen (p : Path) (access : Access) (mode : Nat) :
    (Machine.interruptedOpen p access mode).Refused := ⟨p, access, mode, _, rfl⟩

namespace Machine

variable {m n o : Machine} {p : Path} {access : Access} {mode : Nat} {fd : Descriptor}

/-! ## Which descriptors are in use -/

/-- The same descriptors are in use on both, for the same paths. -/
def SameOpen (m n : Machine) : Prop := ∀ fd, n.path? fd = m.path? fd

theorem SameOpen.of_eq (same : n.descriptors = m.descriptors) : m.SameOpen n := fun fd =>
  congrArg (fun descriptors => (descriptors[fd]?).join) same

theorem SameOpen.trans (first : m.SameOpen n) (second : n.SameOpen o) : m.SameOpen o := fun fd =>
  (second fd).trans (first fd)

/-- Free numbers do not count. -/
theorem countP_isSome_of_lookup {as bs : List (Option Path)}
    (same : ∀ i : Nat, (as[i]?).join = (bs[i]?).join) :
    as.countP Option.isSome = bs.countP Option.isSome := by
  have none {cs : List (Option Path)} (free : ∀ i : Nat, (cs[i]?).join = none) :
      cs.countP Option.isSome = 0 := by
    apply List.countP_eq_zero.2
    intro c mem
    obtain ⟨i, lt, rfl⟩ := List.mem_iff_getElem.1 mem
    have gone := free i
    rw [List.getElem?_eq_getElem lt, Option.join_some] at gone
    rw [gone]
    exact Bool.false_ne_true
  induction as generalizing bs with
  | nil => exact (none fun i => (same i).symm).symm
  | cons a as ih =>
    cases bs with
    | nil => exact none same
    | cons b bs =>
      obtain rfl : a = b := same 0
      rw [List.countP_cons, List.countP_cons, ih fun i => same (i + 1)]

theorem SameOpen.openCount (same : m.SameOpen n) : n.openCount = m.openCount :=
  countP_isSome_of_lookup fun fd => same fd

/-! ## Opening and closing -/

/-- What opening `p` does to the descriptors: one that was free is in use for it. On failure all are
as they were. -/
def Assigns (m : Machine) (p : Path) {ε : Type} (answer : Except ε Descriptor) (n : Machine) :
    Prop :=
  match answer with
  | .error _ => n.descriptors = m.descriptors
  | .ok fd =>
    m.path? fd = none ∧ n.path? fd = some p ∧ ∀ other, other ≠ fd → n.path? other = m.path? other

theorem Assigns.of_descriptors {ε : Type} {answer : Except ε Descriptor}
    (assigns : n.Assigns p answer o) (same : n.descriptors = m.descriptors) :
    m.Assigns p answer o := by
  have before : m.SameOpen n := .of_eq same
  cases answer with
  | error e => exact Eq.trans assigns same
  | ok fd =>
    obtain ⟨free, taken, others⟩ := assigns
    refine ⟨(before fd).symm.trans free, taken, ?_⟩
    exact fun other ne => (others other ne).trans (before other)

theorem assigns_allocate (m : Machine) (p : Path) :
    m.Assigns (ε := Errno) p (.ok (m.allocate p).1) (m.allocate p).2 := by
  have taken := path?_allocate m p
  unfold allocate at taken ⊢
  cases hf : m.descriptors.findIdx? Option.isNone with
  | some fd =>
    rw [hf] at taken
    obtain ⟨lt, free, -⟩ := List.findIdx?_eq_some_iff_getElem.1 hf
    refine ⟨?_, taken, fun other ne => ?_⟩
    · change (m.descriptors[fd]?).join = none
      rw [List.getElem?_eq_getElem lt, Option.isNone_iff_eq_none.1 free]
      rfl
    · change ((m.descriptors.set fd (some p))[other]?).join = (m.descriptors[other]?).join
      rw [List.getElem?_set_ne ne.symm]
  | none =>
    rw [hf] at taken
    refine ⟨?_, taken, fun other ne => ?_⟩
    · change (m.descriptors[m.descriptors.length]?).join = none
      rw [List.getElem?_eq_none (Nat.le_refl _)]
      rfl
    · change ((m.descriptors ++ [some p])[other]?).join = (m.descriptors[other]?).join
      rcases Nat.lt_or_gt_of_ne ne with lt | gt
      · rw [List.getElem?_append_left lt]
      · have past : (m.descriptors ++ [some p]).length ≤ other := by
          rw [List.length_append]
          exact gt
        rw [List.getElem?_eq_none past, List.getElem?_eq_none (Nat.le_of_lt gt)]

theorem openFile_assigns (m : Machine) (p : Path) (access : Access) (mode : Nat) :
    m.Assigns p (m.openFile p access mode).1 (m.openFile p access mode).2 := by
  have opened (m : Machine) :
      m.Assigns p (m.opened p access mode).1 (m.opened p access mode).2 := by
    unfold opened
    cases m.filesOpened p access mode with
    | error e => rfl
    | ok files => exact assigns_allocate { m with files } p
  simp only [openFile]
  cases (next none m.schedule.openFile).1 with
  | some e => rfl
  | none => exact opened { m with schedule.openFile := (next none m.schedule.openFile).2 }

theorem openAgain_assigns (m : Machine) (p : Path) (access : Access) (mode : Nat) :
    m.Assigns p (m.openAgain p access mode).1 (m.openAgain p access mode).2 := by
  have once {m n : Machine} {answer : Except Errno Descriptor}
      (h : m.openFile p access mode = (answer, n)) : m.Assigns p answer n := by
    have assigns := m.openFile_assigns p access mode
    rwa [h] at assigns
  fun_induction openAgain m p access mode with
  | case1 m n h _ ih =>
    have same : n.descriptors = m.descriptors := once h
    exact ih.of_descriptors same
  | case2 m e n h | case3 m fd n h => exact once h

theorem openPath_assigns (m : Machine) (p : Path) (access : Access) (mode : Nat) :
    m.Assigns p (m.openPath p access mode).1 (m.openPath p access mode).2 := by
  unfold openPath
  split
  · rfl
  · have assigns := m.openAgain_assigns p access mode
    generalize m.openAgain p access mode = opened at assigns ⊢
    obtain ⟨answer, n⟩ := opened
    cases answer <;> exact assigns

theorem path?_close_self (m : Machine) (fd : Descriptor) : (m.close fd).2.path? fd = none := by
  change ((m.descriptors.set fd none)[fd]?).join = none
  rw [List.getElem?_set_self']
  cases m.descriptors[fd]? <;> rfl

theorem path?_close_of_ne {other : Descriptor} (ne : other ≠ fd) :
    (m.close fd).2.path? other = m.path? other := by
  change ((m.descriptors.set fd none)[other]?).join = _
  rw [List.getElem?_set_ne ne.symm]
  rfl

/-- A descriptor that was taken is free again once it is closed. -/
theorem Assigns.closed {ε : Type} (assigns : m.Assigns (ε := ε) p (.ok fd) n)
    (same : o.descriptors = n.descriptors) : m.SameOpen (o.close fd).2 := by
  obtain ⟨free, -, others⟩ := assigns
  intro other
  by_cases ne : other = fd
  · rw [ne, path?_close_self, free]
  · have kept : n.SameOpen o := .of_eq same
    rw [path?_close_of_ne ne, kept other, others other ne]

end Machine

end WholeFile
