import WholeFile.Storage

/-!
# Buffers

An owned run of bytes that can be resized. Every byte of a buffer has a value: what resizing
exposes is zero, also where the memory once held something else.
-/

namespace WholeFile

structure Buffer where
  storage : Storage

namespace Buffer

def bytes (b : Buffer) : Bytes := b.storage.bytes

def size (b : Buffer) : Nat := b.bytes.length

def isEmpty (b : Buffer) : Bool := b.bytes.isEmpty

/-! ## Making one -/

def empty : Buffer := ⟨.empty⟩

/-- Takes storage over as it is, spare capacity included. -/
def ofStorage (s : Storage) : Buffer := ⟨s⟩

/-- Exactly `size` bytes, the first ones kept and new ones zero. On failure nothing changes. -/
def resize (b : Buffer) (size : Nat) : Except AllocError Buffer :=
  (b.storage.resize size 0).map ofStorage

/-- `size` zero bytes. -/
def withSize (size : Nat) : Except AllocError Buffer := empty.resize size

/-- `bytes` written over those of the buffer from `pos` on, if they fit. -/
def overwrite? (b : Buffer) (pos : Nat) (bytes : Bytes) : Option Buffer :=
  (b.storage.overwrite? pos bytes).map ofStorage

/-- The buffer with `f` of its bytes, which must be as many. -/
def mapBytes (b : Buffer) (f : Bytes → Bytes) (h : ∀ xs, (f xs).length = xs.length) : Buffer :=
  ⟨b.storage.replace (f b.bytes) (h _)⟩

/-- A copy of `bytes`. -/
def copyOf (bytes : Bytes) : Except AllocError Buffer :=
  (Storage.ofBytes bytes 0).map ofStorage

/-- A second buffer of the same bytes. -/
def clone (b : Buffer) : Except AllocError Buffer := copyOf b.bytes

def fill (b : Buffer) (byte : UInt8) : Buffer :=
  b.mapBytes (·.map fun _ => byte) fun _ => List.length_map _

def reverse (b : Buffer) : Buffer :=
  b.mapBytes List.reverse fun _ => List.length_reverse

/-! ## Buffers as text -/

/-- A buffer is shown by its size only. -/
def describe (b : Buffer) : String := s!"Buffer \x7b len: {b.size} \x7d"

/-- The same over several lines. -/
def describeLines (b : Buffer) : String := s!"Buffer \x7b\n    len: {b.size},\n\x7d"

/-! ## What the operations do to the bytes -/

@[simp] theorem bytes_empty : empty.bytes = [] := rfl

@[simp] theorem bytes_ofStorage (s : Storage) : (ofStorage s).bytes = s.bytes := rfl

theorem length_bytes (b : Buffer) : b.bytes.length = b.size := rfl

theorem size_lt_grantLimit (b : Buffer) : b.size < grantLimit :=
  Nat.lt_of_le_of_lt b.storage.length_le b.storage.granted

/-- Whether a size is granted does not depend on the buffer. -/
theorem resize_eq_error_iff {b : Buffer} {size : Nat} {e : AllocError} :
    b.resize size = .error e ↔ refusal? size = some e := by
  have : b.storage.resize size 0 = .error e ↔ refusal? size = some e :=
    Storage.resize_eq_error_iff
  rw [← this, resize]
  cases b.storage.resize size 0 <;> simp [Except.map]

theorem resize_eq_ok {b c : Buffer} {size : Nat} (h : b.resize size = .ok c) :
    c.bytes = b.bytes.resized size 0 := by
  unfold resize at h
  cases hs : b.storage.resize size 0 with
  | error e => simp [hs, Except.map] at h
  | ok s => simp [hs, Except.map] at h; subst h; exact Storage.resize_eq_ok hs

theorem size_of_resize_eq_ok {b c : Buffer} {size : Nat} (h : b.resize size = .ok c) :
    c.size = size := by
  rw [← length_bytes, resize_eq_ok h, Bytes.length_resized]

theorem resize_eq_ok_iff {b : Buffer} {size : Nat} :
    (∃ c, b.resize size = .ok c) ↔ size < grantLimit := by
  rw [← refusal?_eq_none_iff]
  cases h : b.resize size with
  | error e => simp [resize_eq_error_iff.1 h]
  | ok c =>
    cases hr : refusal? size with
    | none => simp
    | some e => simp [resize_eq_error_iff.2 hr] at h

theorem withSize_eq_error_iff {size : Nat} {e : AllocError} :
    withSize size = .error e ↔ refusal? size = some e := resize_eq_error_iff

theorem withSize_eq_ok {size : Nat} {b : Buffer} (h : withSize size = .ok b) :
    b.bytes = Bytes.zeros size := by
  rw [resize_eq_ok h]; simp [Bytes.resized, Bytes.zeros]

theorem overwrite?_eq_some {b c : Buffer} {pos : Nat} {bytes : Bytes}
    (h : b.overwrite? pos bytes = some c) :
    pos + bytes.length ≤ b.size ∧ c.bytes = b.bytes.spliced pos bytes := by
  obtain ⟨s, hs, rfl⟩ := Option.map_eq_some_iff.1 h
  exact Storage.overwrite?_eq_some hs

theorem overwrite?_eq_none_iff {b : Buffer} {pos : Nat} {bytes : Bytes} :
    b.overwrite? pos bytes = none ↔ b.size < pos + bytes.length := by
  rw [overwrite?, Option.map_eq_none_iff]; exact Storage.overwrite?_eq_none_iff

theorem copyOf_eq_error_iff {bytes : Bytes} {e : AllocError} :
    copyOf bytes = .error e ↔ refusal? bytes.length = some e := by
  have : Storage.ofBytes bytes 0 = .error e ↔ refusal? (max bytes.length 0) = some e :=
    Storage.ofBytes_eq_error_iff
  rw [Nat.max_zero] at this
  rw [← this, copyOf]
  cases Storage.ofBytes bytes 0 <;> simp [Except.map]

theorem copyOf_eq_ok {bytes : Bytes} {b : Buffer} (h : copyOf bytes = .ok b) :
    b.bytes = bytes := by
  unfold copyOf at h
  cases hs : Storage.ofBytes bytes 0 with
  | error e => simp [hs, Except.map] at h
  | ok s => simp [hs, Except.map] at h; subst h; exact (Storage.ofBytes_eq_ok hs).1

@[simp] theorem bytes_mapBytes (b : Buffer) (f : Bytes → Bytes)
    (h : ∀ xs, (f xs).length = xs.length) : (b.mapBytes f h).bytes = f b.bytes := rfl

end Buffer

end WholeFile
