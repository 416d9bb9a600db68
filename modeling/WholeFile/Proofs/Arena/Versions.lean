import WholeFile.Arena.Lookup

/-!
# Handles over a whole run

The version of a slot tells how often the slot has been used. So long as versions do not go round, a
slot's next handle is none of those that it has had, and a handle that names nothing any more stays
so.
-/

namespace WholeFile.Arena

variable {α : Type}

/-! ## How many values there are -/

/-- The most values that an arena can hold: no slot gets the index of the null handle. -/
def limit : Nat := halfWordLimit - 2

theorem size_insert {a : Arena α} (sound : a.Sound) (value : α) :
    (a.insert value).2.size = a.size + 1 := by
  unfold insert size
  cases hf : a.free with
  | nil => simp
  | cons first rest =>
    obtain ⟨version, hs⟩ := slots_of_free sound hf
    obtain ⟨lt, there⟩ := List.getElem?_eq_some_iff.1 hs
    simp [List.countP_set lt, there]

theorem size_set (a : Arena α) (h : Handle) (value : α) : (a.set h value).size = a.size := by
  unfold set
  cases hl : a.locate? h with
  | none => rfl
  | some found =>
    obtain ⟨-, hs⟩ := locate?_eq_some_iff.1 hl
    obtain ⟨lt, there⟩ := List.getElem?_eq_some_iff.1 hs
    have pos : 0 < a.slots.countP (·.value.isSome) :=
      List.countP_pos_iff.2 ⟨_, List.getElem_mem lt, by rw [there]; rfl⟩
    simp only [size, List.countP_set lt, there, Option.isSome_some, if_true]
    omega

theorem size_remove {a b : Arena α} {h : Handle} {value : α} (hr : a.remove h = some (value, b)) :
    b.size + 1 = a.size := by
  unfold remove at hr
  split at hr
  · cases hr
  · next position held hl =>
    cases hr
    obtain ⟨-, hs⟩ := locate?_eq_some_iff.1 hl
    obtain ⟨lt, there⟩ := List.getElem?_eq_some_iff.1 hs
    have pos : 0 < a.slots.countP (·.value.isSome) :=
      List.countP_pos_iff.2 ⟨_, List.getElem_mem lt, by rw [there]; rfl⟩
    simp only [size, List.countP_set lt, there, Option.isSome_some, if_true, Option.isSome_none,
      Bool.false_eq_true, if_false]
    omega

/-- With no free slot, all slots hold something. -/
theorem size_of_full {a : Arena α} (sound : a.Sound) (full : a.free = []) :
    a.size = a.slots.length := by
  apply List.countP_eq_length.2
  intro slot mem
  obtain ⟨position, lt, there⟩ := List.mem_iff_getElem.1 mem
  cases hv : slot.value with
  | some value => rfl
  | none =>
    have free : position ∈ a.free := by
      refine (sound.mem_free_iff position).2 ⟨slot.version, ?_⟩
      rw [List.getElem?_eq_getElem lt, there, ← hv]
    rw [full] at free
    cases free

/-- Where a new value goes, and under which handle. -/
theorem insert_cases {a : Arena α} (sound : a.Sound) (value : α) :
    (a.free = [] ∧ (a.insert value).1 = handleAt a.slots.length 1 ∧
      (a.insert value).2.slots = a.slots ++ [⟨1, some value⟩]) ∨
    ∃ position version, a.slots[position]? = some ⟨version, none⟩ ∧
      (a.insert value).1 = handleAt position (nextVersion version) ∧
      (a.insert value).2.slots = a.slots.set position ⟨nextVersion version, some value⟩ := by
  unfold insert
  cases hf : a.free with
  | nil => exact .inl ⟨rfl, rfl, rfl⟩
  | cons first rest =>
    obtain ⟨version, hs⟩ := slots_of_free sound hf
    refine .inr ⟨first, version, hs, ?_, ?_⟩
    · simp [hs]
    · simp [hs]

/-- What is inserted gets a handle that named nothing. -/
theorem get?_insert_new {a : Arena α} (sound : a.Sound) (value : α) :
    a.get? (a.insert value).1 = none := by
  apply Option.eq_none_iff_forall_ne_some.2
  intro other named
  obtain ⟨position, index, there⟩ := get?_eq_some_iff.1 named
  rcases insert_cases sound value with
    ⟨full, handle, slots⟩ | ⟨place, version, free, handle, slots⟩
  · rw [handle] at index there
    cases index
    simp at there
  · rw [handle] at index there
    cases index
    simp [free] at there

/-! ## Indices -/

/-- The arena can be relied on, and no slot has the index of the null handle. -/
structure Bounded (a : Arena α) : Prop where
  sound : a.Sound
  fits : a.slots.length ≤ limit

theorem not_null_of_index {h : Handle} {position : Nat} (index : h.index = position + 1)
    (lt : position < limit) : h.isNull = false := by
  apply decide_eq_false
  simp only [limit, halfWordLimit] at lt ⊢
  omega

theorem bounded_empty : Bounded ({} : Arena α) := ⟨sound_empty, Nat.zero_le _⟩

theorem Bounded.insert {a : Arena α} (bounded : a.Bounded) (value : α)
    (room : (a.insert value).2.size ≤ limit) :
    (a.insert value).2.Bounded ∧ (a.insert value).1.isNull = false := by
  have sound := sound_insert bounded.sound value
  rw [size_insert bounded.sound] at room
  rcases insert_cases bounded.sound value with
    ⟨full, handle, slots⟩ | ⟨position, version, free, handle, slots⟩
  · rw [size_of_full bounded.sound full] at room
    refine ⟨⟨sound, ?_⟩, ?_⟩
    · rw [slots, List.length_append]
      exact room
    · rw [handle]
      exact not_null_of_index rfl room
  · have lt := (List.getElem?_eq_some_iff.1 free).1
    refine ⟨⟨sound, ?_⟩, ?_⟩
    · rw [slots, List.length_set]
      exact bounded.fits
    · rw [handle]
      exact not_null_of_index rfl (Nat.lt_of_lt_of_le lt bounded.fits)

theorem Bounded.set {a : Arena α} (bounded : a.Bounded) (h : Handle) (value : α) :
    (a.set h value).Bounded := by
  refine ⟨sound_set bounded.sound h value, ?_⟩
  unfold Arena.set
  split
  · exact bounded.fits
  · simp only [List.length_set]
    exact bounded.fits

theorem Bounded.remove {a b : Arena α} (bounded : a.Bounded) {h : Handle} {value : α}
    (hr : a.remove h = some (value, b)) : b.Bounded := by
  refine ⟨sound_remove bounded.sound hr, ?_⟩
  unfold Arena.remove at hr
  split at hr
  · cases hr
  · cases hr
    simp only [List.length_set]
    exact bounded.fits

/-! ## How often a slot has been used -/

/-- How many of the handles are of the slot at that position. -/
def uses (issued : List Handle) (position : Nat) : Nat :=
  issued.countP (·.index = position + 1)

theorem uses_append (issued more : List Handle) (position : Nat) :
    uses (issued ++ more) position = uses issued position + uses more position :=
  List.countP_append

theorem uses_handleAt (position version other : Nat) :
    uses [handleAt position version] other = if position = other then 1 else 0 := by
  simp [uses, handleAt, List.countP_cons]

/-- The version of a slot that has been used so often. -/
def versionAfter (uses : Nat) (held : Bool) : Nat :=
  if held then 2 * uses - 1 else 2 * uses % halfWordLimit

theorem nextVersion_free {n : Nat} (fits : n + 1 ≤ halfWordLimit / 2) :
    nextVersion (versionAfter n false) = versionAfter (n + 1) true := by
  simp only [nextVersion, versionAfter, halfWordLimit] at fits ⊢
  simp only [Bool.false_eq_true, if_false, if_true]
  omega

theorem nextVersion_held {n : Nat} (used : 0 < n) :
    nextVersion (versionAfter n true) = versionAfter n false := by
  simp only [nextVersion, versionAfter, Bool.false_eq_true, if_false, if_true]
  congr 1
  omega

/-! ## Slots and the handles that they have had -/

theorem contains_eq_true_iff {a : Arena α} {h : Handle} :
    a.contains h = true ↔ ∃ value, a.get? h = some value := Option.isSome_iff_exists

/-- Each slot has been used by as many of the handles `issued` as its version says. -/
structure Versioned (a : Arena α) (issued : List Handle) : Prop where
  bounded : a.Bounded
  version : ∀ position slot, a.slots[position]? = some slot →
    0 < uses issued position ∧
      slot.version = versionAfter (uses issued position) slot.value.isSome
  handle : ∀ h ∈ issued, ∃ position, h.index = position + 1 ∧ position < a.slots.length ∧
    h.version < 2 * uses issued position

variable {a b : Arena α} {issued removed : List Handle}

theorem Versioned.not_null (versioned : a.Versioned issued) {h : Handle} (mem : h ∈ issued) :
    h.isNull = false := by
  obtain ⟨position, index, lt, -⟩ := versioned.handle h mem
  exact not_null_of_index index (Nat.lt_of_lt_of_le lt versioned.bounded.fits)

/-- A slot gets something else in it, or nothing, and its version says so. -/
theorem Versioned.put (versioned : a.Versioned issued) (bounded : b.Bounded) {position : Nat}
    {old new : Slot α} (there : a.slots[position]? = some old)
    (slots : b.slots = a.slots.set position new)
    (version : new.version = versionAfter (uses issued position) new.value.isSome) :
    b.Versioned issued := by
  have lt := (List.getElem?_eq_some_iff.1 there).1
  refine ⟨bounded, ?_, ?_⟩
  · intro p slot hp
    rw [slots] at hp
    by_cases same : position = p
    · subst same
      rw [List.getElem?_set_self lt] at hp
      cases hp
      exact ⟨(versioned.version position old there).1, version⟩
    · rw [List.getElem?_set_ne same] at hp
      exact versioned.version p slot hp
  · rw [slots, List.length_set]
    exact versioned.handle

theorem Versioned.set (versioned : a.Versioned issued) {h : Handle} (value : α) :
    (a.set h value).Versioned issued := by
  have bounded := versioned.bounded.set h value
  unfold Arena.set at bounded ⊢
  cases hl : a.locate? h with
  | none => exact versioned
  | some found =>
    obtain ⟨-, hs⟩ := locate?_eq_some_iff.1 hl
    rw [hl] at bounded
    exact versioned.put bounded hs rfl (versioned.version found.1 _ hs).2

theorem Versioned.remove (versioned : a.Versioned issued) {h : Handle} {value : α}
    (hr : a.remove h = some (value, b)) : b.Versioned issued := by
  have bounded := versioned.bounded.remove hr
  unfold Arena.remove at hr
  split at hr
  · cases hr
  · next position held hl =>
    cases hr
    obtain ⟨-, hs⟩ := locate?_eq_some_iff.1 hl
    obtain ⟨used, version⟩ := versioned.version position _ hs
    refine versioned.put bounded hs rfl ?_
    change nextVersion h.version = versionAfter _ false
    rw [show h.version = versionAfter _ true from version, nextVersion_held used]

/-- A slot that no handle has been of is put at the end. -/
theorem Versioned.extend (versioned : a.Versioned issued) (bounded : b.Bounded) (value : α)
    (slots : b.slots = a.slots ++ [⟨1, some value⟩]) :
    handleAt a.slots.length 1 ∉ issued ∧
      b.Versioned (issued ++ [handleAt a.slots.length 1]) := by
  have unused : uses issued a.slots.length = 0 := by
    apply List.countP_eq_zero.2
    intro g mem
    obtain ⟨p, index, lt, -⟩ := versioned.handle g mem
    simp only [decide_eq_true_eq]
    omega
  have used (p : Nat) : uses (issued ++ [handleAt a.slots.length 1]) p =
      uses issued p + if a.slots.length = p then 1 else 0 := by
    rw [uses_append, uses_handleAt]
  refine ⟨?_, bounded, ?_, ?_⟩
  · intro mem
    obtain ⟨p, index, lt, -⟩ := versioned.handle _ mem
    simp only [handleAt] at index
    omega
  · intro p slot hp
    rw [slots, List.getElem?_append] at hp
    rw [used]
    split at hp
    · next lt =>
      rw [if_neg (Nat.ne_of_gt lt)]
      exact versioned.version p slot hp
    · next past =>
      have last : a.slots.length = p := by
        have := (List.getElem?_eq_some_iff.1 hp).1
        simp only [List.length_singleton] at this
        omega
      subst last
      rw [Nat.sub_self] at hp
      cases hp
      rw [unused, if_pos rfl]
      exact ⟨Nat.one_pos, rfl⟩
  · intro g mem
    rw [slots, List.length_append, List.length_singleton]
    rcases List.mem_append.1 mem with mem | mem
    · obtain ⟨p, index, lt, version⟩ := versioned.handle g mem
      refine ⟨p, index, by omega, ?_⟩
      rw [used]
      omega
    · refine ⟨a.slots.length, ?_, by omega, ?_⟩
      · rw [List.mem_singleton.1 mem]
        rfl
      · rw [List.mem_singleton.1 mem, used, unused, if_pos rfl]
        simp [handleAt]

/-- A free slot is used once more, under a version that it has not had. -/
theorem Versioned.reuse (versioned : a.Versioned issued) (bounded : b.Bounded) (value : α)
    {position version : Nat} (free : a.slots[position]? = some ⟨version, none⟩)
    (slots : b.slots = a.slots.set position ⟨nextVersion version, some value⟩)
    (fits : uses issued position + 1 ≤ halfWordLimit / 2) :
    handleAt position (nextVersion version) ∉ issued ∧
      b.Versioned (issued ++ [handleAt position (nextVersion version)]) := by
  have lt := (List.getElem?_eq_some_iff.1 free).1
  have current := (versioned.version position _ free).2
  have next : nextVersion version = versionAfter (uses issued position + 1) true := by
    rw [show version = versionAfter _ false from current, nextVersion_free fits]
  have used (p : Nat) : uses (issued ++ [handleAt position (nextVersion version)]) p =
      uses issued p + if position = p then 1 else 0 := by
    rw [uses_append, uses_handleAt]
  refine ⟨?_, bounded, ?_, ?_⟩
  · intro mem
    obtain ⟨p, index, -, below⟩ := versioned.handle _ mem
    simp only [handleAt, Nat.add_right_cancel_iff] at index below
    subst index
    rw [next, versionAfter, if_pos rfl] at below
    omega
  · intro p slot hp
    rw [slots] at hp
    rw [used]
    by_cases same : position = p
    · subst same
      rw [List.getElem?_set_self lt] at hp
      cases hp
      rw [if_pos rfl]
      exact ⟨Nat.succ_pos _, next⟩
    · rw [List.getElem?_set_ne same] at hp
      rw [if_neg same]
      exact versioned.version p slot hp
  · intro g mem
    rw [slots, List.length_set]
    rcases List.mem_append.1 mem with mem | mem
    · obtain ⟨p, index, lt, version⟩ := versioned.handle g mem
      refine ⟨p, index, lt, ?_⟩
      rw [used]
      omega
    · refine ⟨position, ?_, lt, ?_⟩
      · rw [List.mem_singleton.1 mem]
        rfl
      · rw [List.mem_singleton.1 mem, used, if_pos rfl]
        change nextVersion version < _
        rw [next, versionAfter, if_pos rfl]
        omega

/-- A new value has a handle that no value has had. -/
theorem Versioned.insert (versioned : a.Versioned issued) (value : α)
    (room : (a.insert value).2.size ≤ limit)
    (reuse : ∀ position, uses (issued ++ [(a.insert value).1]) position ≤ halfWordLimit / 2) :
    (a.insert value).1 ∉ issued ∧
      (a.insert value).2.Versioned (issued ++ [(a.insert value).1]) := by
  have bounded := (versioned.bounded.insert value room).1
  rcases insert_cases versioned.bounded.sound value with
    ⟨full, handle, slots⟩ | ⟨position, version, free, handle, slots⟩
  · rw [handle]
    exact versioned.extend bounded value slots
  · have fits := reuse position
    rw [handle, uses_append, uses_handleAt, if_pos rfl] at fits
    rw [handle]
    exact versioned.reuse bounded value free slots fits

/-! ## What has been issued and what is left -/

/-- The handles `issued` have been given out, in that order, and the values of those `removed` have
been taken out again. -/
structure Accounted (a : Arena α) (issued removed : List Handle) : Prop where
  versioned : a.Versioned issued
  nodup : issued.Nodup
  live : ∀ h, a.contains h = true ↔ h ∈ issued ∧ h ∉ removed
  within : removed ⊆ issued
  size : a.size + removed.length = issued.length

theorem accounted_empty : Accounted ({} : Arena α) [] [] where
  versioned := ⟨bounded_empty, by simp, by simp⟩
  nodup := List.nodup_nil
  live h := by
    simp only [List.not_mem_nil, false_and, iff_false]
    intro there
    obtain ⟨value, found⟩ := contains_eq_true_iff.1 there
    obtain ⟨position, -, hs⟩ := get?_eq_some_iff.1 found
    cases hs
  within := List.Subset.refl _
  size := rfl

theorem Accounted.set (accounted : a.Accounted issued removed) {h : Handle}
    (live : a.contains h = true) (value : α) : (a.set h value).Accounted issued removed := by
  refine ⟨accounted.versioned.set value, accounted.nodup, ?_, accounted.within, ?_⟩
  · intro g
    rw [← accounted.live g]
    by_cases same : g = h
    · subst same
      rw [live, contains, get?_set_self live]
      rfl
    · rw [contains, get?_set_of_ne value same]
      rfl
  · rw [size_set]
    exact accounted.size

theorem Accounted.remove (accounted : a.Accounted issued removed) {h : Handle} {value : α}
    (hr : a.remove h = some (value, b)) : b.Accounted issued (removed ++ [h]) := by
  obtain ⟨there, gone⟩ := remove_eq_some hr
  have live := (accounted.live h).1 (contains_eq_true_iff.2 ⟨value, there⟩)
  refine ⟨accounted.versioned.remove hr, accounted.nodup, ?_, ?_, ?_⟩
  · intro g
    by_cases same : g = h
    · subst same
      simp [contains, gone]
    · rw [contains, get?_remove_of_ne hr same, List.mem_append, List.mem_singleton]
      simp only [same, or_false]
      exact accounted.live g
  · intro g mem
    rcases List.mem_append.1 mem with mem | mem
    · exact accounted.within mem
    · rw [List.mem_singleton.1 mem]
      exact live.1
  · have taken := size_remove hr
    have before := accounted.size
    rw [List.length_append, List.length_singleton]
    omega

theorem Accounted.insert (accounted : a.Accounted issued removed) (value : α)
    (room : (a.insert value).2.size ≤ limit)
    (reuse : ∀ position, uses (issued ++ [(a.insert value).1]) position ≤ halfWordLimit / 2) :
    (a.insert value).2.Accounted (issued ++ [(a.insert value).1]) removed := by
  obtain ⟨fresh, versioned⟩ := accounted.versioned.insert value room reuse
  have sound := accounted.versioned.bounded.sound
  refine ⟨versioned, ?_, ?_, ?_, ?_⟩
  · rw [List.nodup_append]
    refine ⟨accounted.nodup, by simp, ?_⟩
    rintro g mem _ only rfl
    rw [List.mem_singleton.1 only] at mem
    exact fresh mem
  · intro g
    rw [List.mem_append, List.mem_singleton]
    by_cases same : g = (a.insert value).1
    · subst same
      simp [contains, get?_insert_self sound, mt (@accounted.within _) fresh]
    · rw [contains, get?_insert_of_ne sound value same]
      simp only [same, or_false]
      exact accounted.live g
  · exact fun g mem => List.mem_append_left _ (accounted.within mem)
  · have before := accounted.size
    rw [size_insert sound, List.length_append, List.length_singleton]
    omega

end WholeFile.Arena
