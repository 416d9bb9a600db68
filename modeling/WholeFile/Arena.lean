import WholeFile.Handle

/-!
# Arenas

Values named by handles. A freed slot is used again, the last freed first, but under a new
version, so that no old handle names what a new one does.
-/

namespace WholeFile

/-- A place for one value. Its version is odd while it holds one, and even while it is free. -/
structure Slot (α : Type) where
  version : Nat
  value : Option α

structure Arena (α : Type) where
  slots : List (Slot α) := []
  /-- The positions of free slots, the next to be used first. -/
  free : List Nat := []

namespace Arena

variable {α : Type}

/-- Versions go round within 32 bits. -/
def nextVersion (version : Nat) : Nat := (version + 1) % halfWordLimit

/-- The position that a handle names. Indices count from one. -/
def position? (h : Handle) : Option Nat := if h.index = 0 then none else some (h.index - 1)

def handleAt (position version : Nat) : Handle := ⟨position + 1, version⟩

/-- Where the value is that a handle names. -/
def locate? (a : Arena α) (h : Handle) : Option (Nat × α) :=
  match position? h with
  | none => none
  | some position =>
    match a.slots[position]? with
    | some ⟨version, some value⟩ => if version = h.version then some (position, value) else none
    | _ => none

def get? (a : Arena α) (h : Handle) : Option α := (a.locate? h).map (·.2)

def contains (a : Arena α) (h : Handle) : Bool := (a.get? h).isSome

/-- How many values there are. -/
def size (a : Arena α) : Nat := a.slots.countP (·.value.isSome)

def isEmpty (a : Arena α) : Bool := a.size = 0

def insert (a : Arena α) (value : α) : Handle × Arena α :=
  match a.free with
  | [] => (handleAt a.slots.length 1, { a with slots := a.slots ++ [⟨1, some value⟩] })
  | position :: free =>
    let version := (a.slots[position]?).elim 1 fun slot => nextVersion slot.version
    (handleAt position version, ⟨a.slots.set position ⟨version, some value⟩, free⟩)

/-- Puts another value in the place of the one that a handle names. -/
def set (a : Arena α) (h : Handle) (value : α) : Arena α :=
  match a.locate? h with
  | none => a
  | some (position, _) => { a with slots := a.slots.set position ⟨h.version, some value⟩ }

/-- Takes out the value that a handle names. -/
def remove (a : Arena α) (h : Handle) : Option (α × Arena α) :=
  match a.locate? h with
  | none => none
  | some (position, value) =>
    some (value, ⟨a.slots.set position ⟨nextVersion h.version, none⟩, position :: a.free⟩)

end Arena

end WholeFile
