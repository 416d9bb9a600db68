import WholeFile.Arena

/-!
# What the handles of an arena name

Each operation changes what one handle names, and leaves all others as they were. For a new value
this needs the free list to be right, which every operation keeps.
-/

namespace WholeFile.Arena

variable {α : Type}

/-! ## Looking up -/

theorem position?_eq_some_iff {h : Handle} {position : Nat} :
    position? h = some position ↔ h.index = position + 1 := by
  unfold position?
  split <;> simp <;> omega

theorem locate?_eq_some_iff {a : Arena α} {h : Handle} {position : Nat} {value : α} :
    a.locate? h = some (position, value) ↔
      h.index = position + 1 ∧ a.slots[position]? = some ⟨h.version, some value⟩ := by
  unfold locate?
  cases hp : position? h with
  | none =>
    have : ¬ h.index = position + 1 := by
      rw [← position?_eq_some_iff, hp]
      simp
    simp [this]
  | some found =>
    have := position?_eq_some_iff.1 hp
    simp only
    split
    · next version held hs =>
      by_cases hv : version = h.version
      · rw [if_pos hv]
        constructor
        · intro heq
          cases heq
          exact ⟨this, hv ▸ hs⟩
        · rintro ⟨hi, there⟩
          obtain rfl : found = position := by omega
          rw [hs] at there
          cases there
          rfl
      · rw [if_neg hv]
        simp only [reduceCtorEq, false_iff, not_and]
        intro hi there
        obtain rfl : found = position := by omega
        rw [hs] at there
        cases there
        exact hv rfl
    · next absent =>
      simp only [reduceCtorEq, false_iff, not_and]
      intro hi there
      obtain rfl : found = position := by omega
      exact absent _ _ there

theorem get?_eq_some_iff {a : Arena α} {h : Handle} {value : α} :
    a.get? h = some value ↔
      ∃ position, h.index = position + 1 ∧ a.slots[position]? = some ⟨h.version, some value⟩ := by
  simp [get?, ← locate?_eq_some_iff]

/-- A handle sees nothing of an arena but the value of its own version at its position. -/
theorem get?_congr {a b : Arena α} {h : Handle}
    (same : ∀ position value, h.index = position + 1 →
      (a.slots[position]? = some ⟨h.version, some value⟩ ↔
        b.slots[position]? = some ⟨h.version, some value⟩)) : a.get? h = b.get? h := by
  ext value
  rw [get?_eq_some_iff, get?_eq_some_iff]
  exact ⟨fun ⟨p, hp, hs⟩ => ⟨p, hp, (same p value hp).1 hs⟩,
    fun ⟨p, hp, hs⟩ => ⟨p, hp, (same p value hp).2 hs⟩⟩

theorem get?_set_self {a : Arena α} {h : Handle} {value : α} (live : a.contains h = true) :
    (a.set h value).get? h = some value := by
  obtain ⟨old, hold⟩ := Option.isSome_iff_exists.1 live
  obtain ⟨position, hi, hs⟩ := get?_eq_some_iff.1 hold
  have located : a.locate? h = some (position, old) := locate?_eq_some_iff.2 ⟨hi, hs⟩
  rw [get?_eq_some_iff]
  refine ⟨position, hi, ?_⟩
  have := List.getElem?_eq_some_iff.1 hs
  simp [set, located, this.1]

theorem get?_set_of_ne {a : Arena α} {g h : Handle} (value : α) (ne : g ≠ h) :
    (a.set h value).get? g = a.get? g := by
  unfold set
  cases hl : a.locate? h with
  | none => rfl
  | some found =>
    obtain ⟨hi, hs⟩ := locate?_eq_some_iff.1 hl
    apply get?_congr
    intro position held hg
    by_cases hp : found.1 = position
    · have : h.version ≠ g.version := by
        intro hv
        exact ne (by cases g; cases h; simp_all)
      subst hp
      have lt := (List.getElem?_eq_some_iff.1 hs).1
      simp [List.getElem?_set_self lt, hs, this]
    · simp [List.getElem?_set_ne hp]

theorem remove_eq_none_iff {a : Arena α} {h : Handle} :
    a.remove h = none ↔ a.contains h = false := by
  unfold remove contains get?
  cases a.locate? h <;> simp

/-- What is taken out is what the handle named, and afterwards it names nothing. -/
theorem remove_eq_some {a b : Arena α} {h : Handle} {value : α}
    (hr : a.remove h = some (value, b)) : a.get? h = some value ∧ b.get? h = none := by
  unfold remove at hr
  split at hr
  · cases hr
  · next position held hl =>
    cases hr
    obtain ⟨hi, hs⟩ := locate?_eq_some_iff.1 hl
    refine ⟨get?_eq_some_iff.2 ⟨position, hi, hs⟩, Option.eq_none_iff_forall_ne_some.2 ?_⟩
    intro value hv
    obtain ⟨p, hp, hs'⟩ := get?_eq_some_iff.1 hv
    obtain rfl : position = p := by omega
    have := List.getElem?_eq_some_iff.1 hs
    simp [this.1] at hs'

theorem exists_remove {a : Arena α} {h : Handle} {value : α} (there : a.get? h = some value) :
    ∃ b, a.remove h = some (value, b) := by
  obtain ⟨⟨position, held⟩, located, rfl⟩ := Option.map_eq_some_iff.1 there
  unfold remove
  rw [located]
  exact ⟨_, rfl⟩

theorem get?_remove_of_ne {a b : Arena α} {g h : Handle} {value : α}
    (hr : a.remove h = some (value, b)) (ne : g ≠ h) : b.get? g = a.get? g := by
  unfold remove at hr
  split at hr
  · cases hr
  · next position held hl =>
    cases hr
    obtain ⟨hi, hs⟩ := locate?_eq_some_iff.1 hl
    apply get?_congr
    intro p value hg
    by_cases hp : position = p
    · have : h.version ≠ g.version := by
        intro hv
        exact ne (by cases g; cases h; simp_all)
      subst hp
      have lt := (List.getElem?_eq_some_iff.1 hs).1
      simp [List.getElem?_set_self lt, hs, this]
    · simp [List.getElem?_set_ne hp]

/-! ## Free slots -/

/-- The free list has each empty slot once, and no other. -/
structure Sound (a : Arena α) : Prop where
  nodup : a.free.Nodup
  mem_free_iff : ∀ position,
    position ∈ a.free ↔ ∃ version, a.slots[position]? = some ⟨version, none⟩

theorem sound_empty : Sound ({} : Arena α) := ⟨List.nodup_nil, by simp⟩

theorem sound_insert {a : Arena α} (sound : a.Sound) (value : α) : (a.insert value).2.Sound := by
  obtain ⟨slots, free⟩ := a
  cases free with
  | nil =>
    refine ⟨List.nodup_nil, fun position => ?_⟩
    have := sound.mem_free_iff position
    simp only [insert, List.getElem?_append]
    split
    · exact this
    · rcases position - slots.length with _ | _ <;> simp
  | cons first rest =>
    obtain ⟨fresh, nodup⟩ := List.nodup_cons.1 sound.nodup
    refine ⟨nodup, fun position => ?_⟩
    have := sound.mem_free_iff position
    by_cases hp : first = position
    · subst hp
      simp only [insert, fresh, false_iff, not_exists]
      intro version hv
      have := List.getElem?_eq_some_iff.1 hv
      simp at this
    · simp only [List.mem_cons, Ne.symm hp, false_or] at this
      simp only [insert, List.getElem?_set_ne hp, this]

theorem sound_set {a : Arena α} (sound : a.Sound) (h : Handle) (value : α) :
    (a.set h value).Sound := by
  unfold set
  cases hl : a.locate? h with
  | none => exact sound
  | some found =>
    obtain ⟨-, hs⟩ := locate?_eq_some_iff.1 hl
    refine ⟨sound.nodup, fun position => ?_⟩
    have := sound.mem_free_iff position
    by_cases hp : found.1 = position
    · subst hp
      have lt := (List.getElem?_eq_some_iff.1 hs).1
      simp [this, hs, List.getElem?_set_self lt]
    · simp only [List.getElem?_set_ne hp, this]

theorem sound_remove {a b : Arena α} (sound : a.Sound) {h : Handle} {value : α}
    (hr : a.remove h = some (value, b)) : b.Sound := by
  unfold remove at hr
  split at hr
  · cases hr
  · next position held hl =>
    cases hr
    obtain ⟨-, hs⟩ := locate?_eq_some_iff.1 hl
    have lt := (List.getElem?_eq_some_iff.1 hs).1
    refine ⟨List.nodup_cons.2 ⟨?_, sound.nodup⟩, fun p => ?_⟩
    · rw [sound.mem_free_iff, hs]
      simp
    · have := sound.mem_free_iff p
      by_cases hp : position = p
      · subst hp
        simp [lt]
      · simp only [List.mem_cons, Ne.symm hp, false_or, List.getElem?_set_ne hp, this]

/-- A slot from the free list is there, and empty. -/
theorem slots_of_free {a : Arena α} (sound : a.Sound) {first : Nat} {rest : List Nat}
    (hf : a.free = first :: rest) : ∃ version, a.slots[first]? = some ⟨version, none⟩ :=
  (sound.mem_free_iff first).1 (by rw [hf]; exact List.mem_cons_self)

theorem get?_insert_self {a : Arena α} (sound : a.Sound) (value : α) :
    (a.insert value).2.get? (a.insert value).1 = some value := by
  rw [get?_eq_some_iff]
  unfold insert
  split
  · exact ⟨_, rfl, by simp [handleAt]⟩
  · next first rest hf =>
    obtain ⟨version, hs⟩ := slots_of_free sound hf
    have lt := (List.getElem?_eq_some_iff.1 hs).1
    exact ⟨first, rfl, by simp [handleAt, lt]⟩

/-- A new value does not come under any other handle. -/
theorem get?_insert_of_ne {a : Arena α} (sound : a.Sound) (value : α) {g : Handle}
    (ne : g ≠ (a.insert value).1) : (a.insert value).2.get? g = a.get? g := by
  apply get?_congr
  intro position held hg
  unfold insert at ne ⊢
  split
  · next hf =>
    rw [hf] at ne
    rcases Nat.lt_trichotomy position a.slots.length with lt | rfl | gt
    · simp [List.getElem?_append, lt]
    · have : g.version ≠ 1 := by
        intro hv
        exact ne (by cases g; simp_all [handleAt])
      simp [Ne.symm this]
    · rw [List.getElem?_eq_none (Nat.le_of_lt gt), List.getElem?_eq_none]
      simp only [List.length_append, List.length_singleton]
      omega
  · next first rest hf =>
    rw [hf] at ne
    obtain ⟨version, hs⟩ := slots_of_free sound hf
    by_cases hp : first = position
    · subst hp
      have lt := (List.getElem?_eq_some_iff.1 hs).1
      have : nextVersion version ≠ g.version := by
        intro hv
        exact ne (by cases g; simp_all [handleAt])
      simp_all
    · simp [List.getElem?_set_ne hp]

end WholeFile.Arena
