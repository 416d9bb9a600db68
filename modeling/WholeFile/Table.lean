/-!
# Tables

What each key names, in the order in which the keys were first put in.
-/

namespace WholeFile

structure Table (κ α : Type) where
  entries : List (κ × α) := []
deriving DecidableEq, Repr

namespace Table

variable {κ α : Type} [BEq κ]

def seek (k : κ) : List (κ × α) → Option α
  | [] => none
  | entry :: rest => if k == entry.1 then some entry.2 else seek k rest

def find? (t : Table κ α) (k : κ) : Option α := seek k t.entries

def put (k : κ) (a : α) : List (κ × α) → List (κ × α)
  | [] => [(k, a)]
  | entry :: rest => if k == entry.1 then (k, a) :: rest else entry :: put k a rest

/-- `k` names `a`, whatever it named before. -/
def insert (t : Table κ α) (k : κ) (a : α) : Table κ α := ⟨put k a t.entries⟩

def erase (t : Table κ α) (k : κ) : Table κ α := ⟨t.entries.filter (·.1 != k)⟩

/-! ## Looking up after a change -/

variable [LawfulBEq κ]

theorem seek_put_self (k : κ) (a : α) (l : List (κ × α)) : seek k (put k a l) = some a := by
  induction l with
  | nil => simp [put, seek]
  | cons entry rest ih => cases h : k == entry.1 <;> simp [put, seek, h, ih]

theorem seek_put_of_ne {j k : κ} (a : α) (hj : j ≠ k) (l : List (κ × α)) :
    seek j (put k a l) = seek j l := by
  have ne : (j == k) = false := beq_eq_false_iff_ne.2 hj
  induction l with
  | nil => simp [put, seek, ne]
  | cons entry rest ih =>
    cases h : k == entry.1
    · simp [put, h, seek, ih]
    · rw [beq_iff_eq] at h
      simp [put, seek, ← h, ne]

theorem seek_filter_self (k : κ) (l : List (κ × α)) : seek k (l.filter (·.1 != k)) = none := by
  induction l with
  | nil => rfl
  | cons entry rest ih =>
    by_cases h : entry.1 = k
    · simp [h, ih]
    · simp [h, seek, Ne.symm h, ih]

theorem seek_filter_of_ne {j k : κ} (hj : j ≠ k) (l : List (κ × α)) :
    seek j (l.filter (·.1 != k)) = seek j l := by
  induction l with
  | nil => rfl
  | cons entry rest ih =>
    by_cases h : entry.1 = k
    · simp [h, seek, ih, hj]
    · cases hk : j == entry.1 <;> simp [h, seek, hk, ih]

@[simp] theorem find?_insert_self (t : Table κ α) (k : κ) (a : α) :
    (t.insert k a).find? k = some a := seek_put_self k a t.entries

theorem find?_insert_of_ne (t : Table κ α) {j k : κ} (a : α) (h : j ≠ k) :
    (t.insert k a).find? j = t.find? j := seek_put_of_ne a h t.entries

@[simp] theorem find?_erase_self (t : Table κ α) (k : κ) : (t.erase k).find? k = none :=
  seek_filter_self k t.entries

theorem find?_erase_of_ne (t : Table κ α) {j k : κ} (h : j ≠ k) :
    (t.erase k).find? j = t.find? j := seek_filter_of_ne h t.entries

theorem put_eq_self_iff {k : κ} {a : α} {l : List (κ × α)} : put k a l = l ↔ seek k l = some a := by
  induction l with
  | nil => simp [put, seek]
  | cons entry rest ih =>
    obtain ⟨j, b⟩ := entry
    by_cases h : k = j
    · subst h
      simp [put, seek, eq_comm]
    · simp [put, seek, h, ih]

/-- Putting in what is there changes nothing, and nothing else does. -/
theorem insert_eq_self_iff {t : Table κ α} {k : κ} {a : α} :
    t.insert k a = t ↔ t.find? k = some a := by
  rw [find?, ← put_eq_self_iff, insert]
  exact ⟨congrArg entries, congrArg Table.mk⟩

end Table

end WholeFile
