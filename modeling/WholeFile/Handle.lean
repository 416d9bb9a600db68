/-!
# Handles

A handle names a slot of an arena and the version of what the slot held when the handle was made.
-/

namespace WholeFile

/-- One more than the largest number that 32 bits hold. -/
def halfWordLimit : Nat := 0x100000000

structure Handle where
  index : Nat
  version : Nat
deriving DecidableEq, Repr

namespace Handle

/-- The handle that never names anything. -/
def invalid : Handle := ⟨halfWordLimit - 1, 1⟩

/-- The index is that of the invalid handle, which no slot has. -/
def isNull (h : Handle) : Bool := h.index = halfWordLimit - 1

def describe (h : Handle) : String :=
  if h.isNull then "BufferHandle(null)" else s!"BufferHandle({h.index}v{h.version})"

/-- The handle as one number. -/
def raw (h : Handle) : Nat := h.version * halfWordLimit + h.index

/-- The handle of a number. Versions of live slots are odd, and so is this one's. -/
def ofRaw (n : Nat) : Handle :=
  ⟨n % halfWordLimit, n / halfWordLimit % halfWordLimit / 2 * 2 + 1⟩

/-- By index, then by version. -/
def order (g h : Handle) : Ordering := (compare g.index h.index).then (compare g.version h.version)

theorem ofRaw_raw {h : Handle} (hi : h.index < halfWordLimit) (hv : h.version < halfWordLimit)
    (odd : h.version % 2 = 1) : ofRaw h.raw = h := by
  obtain ⟨index, version⟩ := h
  simp only [halfWordLimit] at hi hv
  simp only [ofRaw, raw, halfWordLimit, mk.injEq] at odd ⊢
  omega

end Handle

end WholeFile
