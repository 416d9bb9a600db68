/-!
# Bytes

File contents, buffers and paths are lists of bytes. Two operations change them: `resized` cuts or
fills up at the end, and `spliced` writes over a stretch.
-/

namespace WholeFile

abbrev Bytes := List UInt8

/-- A path is the bytes it is written with; nothing is normalised. -/
abbrev Path := Bytes

namespace Bytes

def zeros (n : Nat) : Bytes := List.replicate n 0

@[simp] theorem length_zeros (n : Nat) : (zeros n).length = n := List.length_replicate

/-! ## A new length -/

/-- Exactly `n` bytes: the first `n` of `xs`, filled up with `fill`. -/
def resized (xs : Bytes) (n : Nat) (fill : UInt8) : Bytes :=
  xs.take n ++ List.replicate (n - xs.length) fill

@[simp] theorem length_resized (xs : Bytes) (n : Nat) (fill : UInt8) :
    (xs.resized n fill).length = n := by
  simp only [resized, List.length_append, List.length_take, List.length_replicate]
  omega

theorem resized_of_le {xs : Bytes} {n : Nat} (h : n ≤ xs.length) (fill : UInt8) :
    xs.resized n fill = xs.take n := by
  simp [resized, Nat.sub_eq_zero_of_le h]

@[simp] theorem resized_length (xs : Bytes) (fill : UInt8) :
    xs.resized xs.length fill = xs := by
  rw [resized_of_le (Nat.le_refl _), List.take_length]

theorem resized_of_ge {xs : Bytes} {n : Nat} (h : xs.length ≤ n) (fill : UInt8) :
    xs.resized n fill = xs ++ List.replicate (n - xs.length) fill := by
  rw [resized, List.take_of_length_le h]

/-! ## Writing over a stretch -/

/-- `ys` in place of what `xs` held from `pos` on. A gap before `pos` is filled with zero bytes. -/
def spliced (xs : Bytes) (pos : Nat) (ys : Bytes) : Bytes :=
  xs.resized pos 0 ++ ys ++ xs.drop (pos + ys.length)

theorem length_spliced (xs : Bytes) (pos : Nat) (ys : Bytes) :
    (xs.spliced pos ys).length = max xs.length (pos + ys.length) := by
  simp only [spliced, List.length_append, length_resized, List.length_drop]
  omega

theorem length_spliced_of_le {xs : Bytes} {pos : Nat} {ys : Bytes}
    (h : pos + ys.length ≤ xs.length) : (xs.spliced pos ys).length = xs.length := by
  rw [length_spliced]
  omega

theorem spliced_of_le {xs : Bytes} {pos : Nat} (ys : Bytes) (h : pos ≤ xs.length) :
    xs.spliced pos ys = xs.take pos ++ ys ++ xs.drop (pos + ys.length) := by
  rw [spliced, resized_of_le h]

/-- Writing at the end of what is there appends. -/
theorem spliced_length (xs ys : Bytes) : xs.spliced xs.length ys = xs ++ ys := by
  simp [spliced]

/-- Writing over everything from the start leaves what was written. -/
theorem spliced_zero_of_length_le {xs ys : Bytes} (h : xs.length ≤ ys.length) :
    xs.spliced 0 ys = ys := by
  simp [spliced, resized, h]

theorem take_spliced {xs : Bytes} {pos : Nat} (ys : Bytes) (h : pos ≤ xs.length) :
    (xs.spliced pos ys).take pos = xs.take pos := by
  have : (xs.take pos).length = pos := by rw [List.length_take]; omega
  rw [spliced_of_le ys h, List.append_assoc, List.take_append_of_le_length (Nat.le_of_eq this.symm),
    List.take_take, Nat.min_self]

theorem drop_spliced {xs : Bytes} {pos : Nat} (ys : Bytes) (h : pos ≤ xs.length) :
    (xs.spliced pos ys).drop (pos + ys.length) = xs.drop (pos + ys.length) := by
  have : (xs.take pos ++ ys).length = pos + ys.length := by
    rw [List.length_append, List.length_take]; omega
  rw [spliced_of_le ys h, List.drop_append_of_le_length (Nat.le_of_eq this.symm),
    List.drop_eq_nil_of_le (Nat.le_of_eq this), List.nil_append]

theorem spliced_window {xs : Bytes} {pos : Nat} (ys : Bytes) (h : pos ≤ xs.length) :
    ((xs.spliced pos ys).drop pos).take ys.length = ys := by
  have : (xs.take pos).length = pos := by rw [List.length_take]; omega
  rw [spliced_of_le ys h, List.append_assoc,
    List.drop_append_of_le_length (Nat.le_of_eq this.symm),
    List.drop_eq_nil_of_le (Nat.le_of_eq this), List.nil_append, List.take_append_of_le_length
    (Nat.le_refl _), List.take_length]

end Bytes

end WholeFile
