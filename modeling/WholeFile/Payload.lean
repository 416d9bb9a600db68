import WholeFile.Buffer
import WholeFile.Error

/-!
# Payloads

What can be written to a file: buffers, growable storage, fixed bytes, references to these, and
views of any of them. A view is a window on its parent that stays where it is while the base below
it is resized; spare capacity and bytes outside the window never show.
-/

namespace WholeFile

/-! ## Ranges -/

/-- One more than the largest number that 64 bits hold. -/
def wordLimit : Nat := 0x10000000000000000

inductive Bound where
  | included (n : Nat)
  | excluded (n : Nat)
  | unbounded
deriving DecidableEq, Repr

structure Range where
  start : Bound
  stop : Bound
deriving DecidableEq, Repr

/-- The number after `n`, if 64 bits hold it. -/
def successor (n : Nat) : Except Abort Nat :=
  if n + 1 < wordLimit then .ok (n + 1) else .error .boundOverflow

namespace Range

/-- The first position inside. -/
def first (r : Range) : Except Abort Nat :=
  match r.start with
  | .included n => .ok n
  | .excluded n => successor n
  | .unbounded => .ok 0

/-- The first position past the end, for a payload of `total` bytes. -/
def past (r : Range) (total : Nat) : Except Abort Nat :=
  match r.stop with
  | .included n => successor n
  | .excluded n => .ok n
  | .unbounded => .ok total

end Range

/-! ## Payloads -/

inductive Payload where
  | buffer (b : Buffer)
  | storage (s : Storage)
  /-- Bytes whose number never changes. -/
  | fixed (bytes : Bytes)
  /-- A reference, which is as good as what it refers to. -/
  | borrowed (target : Payload)
  /-- The window from `start` up to `stop` on a parent. -/
  | view (parent : Payload) (start stop : Nat)

namespace Payload

/-- How many bytes have a value. -/
def initialized : Payload → Nat
  | buffer b => b.size
  | storage s => s.size
  | fixed bytes => bytes.length
  | borrowed target => target.initialized
  | view parent start stop => max start (min stop parent.initialized) - start

/-- How many bytes there is room for. Spare capacity of a buffer does not count. -/
def total : Payload → Nat
  | buffer b => b.size
  | storage s => s.capacity
  | fixed bytes => bytes.length
  | borrowed target => target.total
  | view _ start stop => stop - start

/-- The bytes that have a value. A view begins inside its parent, or the access is broken off. -/
def bytes : Payload → Except Abort Bytes
  | buffer b => .ok b.bytes
  | storage s => .ok s.bytes
  | fixed bytes => .ok bytes
  | borrowed target => target.bytes
  | view parent start stop => do
    let outer ← parent.bytes
    if start ≤ outer.length then .ok ((outer.take stop).drop start) else .error .outOfBounds

/-- Where the payload's first byte lies in its base. -/
def offset : Payload → Except Abort Nat
  | buffer _ | storage _ | fixed _ => .ok 0
  | borrowed target => target.offset
  | view parent start _ => do
    let outer ← parent.offset
    if start ≤ parent.initialized then .ok (outer + start) else .error .outOfBounds

/-- Where the first byte that can be written over lies in the base. The bytes with a value are taken
from those of the parent, which must have them all. -/
def writeOffset : Payload → Except Abort Nat
  | buffer _ | storage _ | fixed _ => .ok 0
  | borrowed target => target.writeOffset
  | view parent start stop => do
    let outer ← parent.writeOffset
    if max start (min stop parent.initialized) ≤ parent.initialized then .ok (outer + start)
    else .error .outOfBounds

/-- What lies below all views and references. -/
def base : Payload → Payload
  | borrowed target => target.base
  | view parent _ _ => parent.base
  | p => p

/-! ## Views -/

/-- The view from `start` up to `stop`, if it begins at a byte with a value, or right past the
last, and ends inside the payload. -/
def window (p : Payload) (start stop : Nat) : Except Abort Payload :=
  if p.total < stop then .error .endPastTotal
  else if p.initialized < start then .error .beginPastInitialized
  else if stop < start then .error .beginPastEnd
  else .ok (view p start stop)

/-- The view of a range. -/
def restrict (p : Payload) (r : Range) : Except Abort Payload := do
  let start ← r.first
  let stop ← r.past p.total
  p.window start stop

/-- The ranges applied one after another, each to the view before it. -/
def restrictAll (p : Payload) (rs : List Range) : Except Abort Payload :=
  rs.foldlM restrict p

/-! ## Changes -/

/-- `bytes` written over those with a value from `pos` on, if they fit. -/
def overwrite? : Payload → Nat → Bytes → Option Payload
  | buffer b, pos, bytes => (b.overwrite? pos bytes).map buffer
  | storage s, pos, bytes => (s.overwrite? pos bytes).map storage
  | fixed held, pos, bytes =>
    if pos + bytes.length ≤ held.length then some (fixed (held.spliced pos bytes)) else none
  | borrowed target, pos, bytes => (target.overwrite? pos bytes).map borrowed
  | view parent start stop, pos, bytes =>
    if pos + bytes.length ≤ (view parent start stop).initialized then
      (parent.overwrite? (start + pos) bytes).map (view · start stop)
    else none

/-- Writes `bytes` over those with a value from `pos` on. No payload comes back if they do not
fit, and none is touched if the bytes cannot be reached. -/
def write (p : Payload) (pos : Nat) (bytes : Bytes) : Except Abort (Option Payload) := do
  let _ ← p.bytes
  return p.overwrite? pos bytes

/-- Gives every byte that has a value the value `byte`. -/
def fill (p : Payload) (byte : UInt8) : Except Abort Payload := do
  let held ← p.bytes
  return (p.overwrite? 0 (held.map fun _ => byte)).getD p

/-- Resizes the base below all views. A buffer grows by zero bytes and may refuse, storage grows
by `fill` and must not fail, and fixed bytes stay as they are. -/
def resizeBase (size : Nat) (fill : UInt8) : Payload → Except Failure Payload
  | buffer b =>
    match b.resize size with
    | .ok b => .ok (buffer b)
    | .error e => .error (.error (.alloc e))
  | storage s =>
    match s.resize size fill with
    | .ok s => .ok (storage s)
    | .error _ => .error (.abort .capacityOverflow)
  | fixed bytes => .ok (fixed bytes)
  | borrowed target => return borrowed (← target.resizeBase size fill)
  | view parent start stop => return view (← parent.resizeBase size fill) start stop

/-! ## The bytes of a view -/

theorem bytes_view (parent : Payload) (start stop : Nat) :
    (view parent start stop).bytes = parent.bytes.bind fun outer =>
      if start ≤ outer.length then .ok ((outer.take stop).drop start)
      else .error .outOfBounds := rfl

/-- A payload whose bytes can be reached has as many as it says. -/
theorem length_bytes {p : Payload} {held : Bytes} (h : p.bytes = .ok held) :
    held.length = p.initialized := by
  induction p generalizing held with
  | buffer b => cases h; rfl
  | storage s => cases h; rfl
  | fixed bytes => cases h; rfl
  | borrowed target ih => exact ih h
  | view parent start stop ih =>
    rw [bytes_view] at h
    cases hp : parent.bytes with
    | error e => simp [hp, Except.bind] at h
    | ok outer =>
      simp only [hp, Except.bind] at h
      split at h
      · cases h
        simp only [initialized, ← ih hp, List.length_drop, List.length_take]
        omega
      · cases h

theorem window_eq_ok_iff {p q : Payload} {start stop : Nat} :
    p.window start stop = .ok q ↔
      start ≤ p.initialized ∧ start ≤ stop ∧ stop ≤ p.total ∧ q = view p start stop := by
  simp only [window]
  repeat' split
  all_goals simp only [reduceCtorEq, false_iff, Except.ok.injEq]
  all_goals grind

end Payload

end WholeFile
