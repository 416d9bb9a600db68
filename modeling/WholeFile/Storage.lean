import WholeFile.Bytes

/-!
# Growable storage

Bytes held in a run of memory that may be longer than they are. Asking for more memory can fail,
and a request that fails changes nothing. Whether one fails depends on the total asked for alone.
-/

namespace WholeFile

/-! ## What the allocator grants -/

/-- Why memory was not granted. -/
inductive AllocError where
  /-- More bytes than one allocation can ever have. -/
  | capacityOverflow
  /-- The allocator had no such run of memory. -/
  | refused
deriving DecidableEq, Repr

def AllocError.message : AllocError → String
  | capacityOverflow =>
    "memory allocation failed because the computed capacity exceeded the collection's maximum"
  | refused => "memory allocation failed because the memory allocator returned an error"

/-- The longest run of memory that an allocation may ask for, 2^63 - 1 bytes. -/
def maxCapacity : Nat := 0x7fffffffffffffff

/-- The allocator refuses requests of this size and above, 2^57 bytes. -/
def grantLimit : Nat := 0x200000000000000

/-- What stands against a run of `total` bytes, if anything does. -/
def refusal? (total : Nat) : Option AllocError :=
  if maxCapacity < total then some .capacityOverflow
  else if grantLimit ≤ total then some .refused
  else none

theorem refusal?_eq_none_iff {total : Nat} : refusal? total = none ↔ total < grantLimit := by
  by_cases h₁ : maxCapacity < total <;> by_cases h₂ : grantLimit ≤ total <;>
    simp only [refusal?, h₁, h₂, if_true, if_false, reduceCtorEq, false_iff, true_iff] <;>
    simp only [maxCapacity, grantLimit] at * <;> omega

theorem exists_refusal {total : Nat} (large : grantLimit ≤ total) :
    ∃ e, refusal? total = some e :=
  Option.ne_none_iff_exists'.1 fun h => Nat.not_lt.2 large (refusal?_eq_none_iff.1 h)

/-! ## Storage -/

/-- Bytes, and the memory granted for them. -/
structure Storage where
  bytes : Bytes
  capacity : Nat
  length_le : bytes.length ≤ capacity
  granted : capacity < grantLimit

namespace Storage

/-- No bytes, and no memory yet. -/
def empty : Storage := ⟨[], 0, Nat.le_refl 0, by decide⟩

def size (s : Storage) : Nat := s.bytes.length

/-- `bytes` in a run of `capacity` bytes, or as many as they need. -/
def ofBytes (bytes : Bytes) (capacity : Nat) : Except AllocError Storage :=
  match h : refusal? (max bytes.length capacity) with
  | some e => .error e
  | none => .ok ⟨bytes, max bytes.length capacity, Nat.le_max_left _ _, refusal?_eq_none_iff.1 h⟩

/-- Exactly `size` bytes, new ones being `fill`. Memory is asked for only past the capacity, and
then for no more than `size`. -/
def resize (s : Storage) (size : Nat) (fill : UInt8) : Except AllocError Storage :=
  if fits : size ≤ s.capacity then
    .ok ⟨s.bytes.resized size fill, s.capacity, by simpa using fits, s.granted⟩
  else
    match h : refusal? size with
    | some e => .error e
    | none => .ok ⟨s.bytes.resized size fill, size, by simp, refusal?_eq_none_iff.1 h⟩

/-- Bytes of the same number in place of those held. -/
def replace (s : Storage) (bytes : Bytes) (h : bytes.length = s.bytes.length) : Storage :=
  ⟨bytes, s.capacity, h ▸ s.length_le, s.granted⟩

/-- `bytes` written over those held from `pos` on, if they fit. -/
def overwrite? (s : Storage) (pos : Nat) (bytes : Bytes) : Option Storage :=
  if h : pos + bytes.length ≤ s.bytes.length then
    some (s.replace (s.bytes.spliced pos bytes) (Bytes.length_spliced_of_le h))
  else none

/-! ## What the operations do to the bytes -/

theorem ofBytes_eq_error_iff {bytes : Bytes} {capacity : Nat} {e : AllocError} :
    ofBytes bytes capacity = .error e ↔ refusal? (max bytes.length capacity) = some e := by
  unfold ofBytes
  split <;> simp_all

theorem ofBytes_eq_ok {bytes : Bytes} {capacity : Nat} {s : Storage}
    (h : ofBytes bytes capacity = .ok s) :
    s.bytes = bytes ∧ s.capacity = max bytes.length capacity := by
  unfold ofBytes at h
  split at h
  · simp at h
  · cases h; exact ⟨rfl, rfl⟩

theorem resize_eq_error_iff {s : Storage} {size : Nat} {fill : UInt8} {e : AllocError} :
    s.resize size fill = .error e ↔ refusal? size = some e := by
  have := s.granted
  unfold resize
  split
  · have : refusal? size = none := refusal?_eq_none_iff.2 (by omega)
    simp [this]
  · split <;> simp_all

theorem resize_eq_ok {s t : Storage} {size : Nat} {fill : UInt8} (h : s.resize size fill = .ok t) :
    t.bytes = s.bytes.resized size fill := by
  unfold resize at h
  split at h
  · cases h; rfl
  · split at h
    · simp at h
    · cases h; rfl

theorem bytes_replace (s : Storage) (bytes : Bytes) (h : bytes.length = s.bytes.length) :
    (s.replace bytes h).bytes = bytes := rfl

theorem overwrite?_eq_some {s t : Storage} {pos : Nat} {bytes : Bytes}
    (h : s.overwrite? pos bytes = some t) :
    pos + bytes.length ≤ s.bytes.length ∧ t.bytes = s.bytes.spliced pos bytes := by
  unfold overwrite? at h
  split at h
  · next fits => cases h; exact ⟨fits, rfl⟩
  · simp at h

theorem overwrite?_eq_none_iff {s : Storage} {pos : Nat} {bytes : Bytes} :
    s.overwrite? pos bytes = none ↔ s.bytes.length < pos + bytes.length := by
  unfold overwrite?
  split <;> simp <;> omega

end Storage

end WholeFile
