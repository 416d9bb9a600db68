import WholeFile.Machine.FileTable
import WholeFile.Machine.Schedule
import WholeFile.Machine.Journal

/-!
# The machine

A process and the kernel under it: the file table, the open descriptors, the answers to come, the
journal, and what the process has found out about rings.
-/

namespace WholeFile

structure Machine where
  files : FileTable := {}
  umask : Nat := 0o022
  /-- The path behind each descriptor; a free number has none. -/
  descriptors : List (Option Path) := []
  schedule : Schedule := {}
  journal : Journal := []
  /-- Whether rings can be set up, once that has been tried. -/
  ringSupport : Option Bool := none

namespace Machine

def record (m : Machine) (c : Call) : Machine := { m with journal := m.journal ++ [.call c] }

def log (m : Machine) (level : LogLevel) (source : LogSource) (message : String) : Machine :=
  { m with journal := m.journal ++ [.log ⟨level, source, message⟩] }

/-! ## Descriptors -/

/-- The lowest free descriptor, and the machine with it in use for `p`. -/
def allocate (m : Machine) (p : Path) : Descriptor × Machine :=
  match m.descriptors.findIdx? Option.isNone with
  | some fd => (fd, { m with descriptors := m.descriptors.set fd (some p) })
  | none => (m.descriptors.length, { m with descriptors := m.descriptors ++ [some p] })

def release (m : Machine) (fd : Descriptor) : Machine :=
  { m with descriptors := m.descriptors.set fd none }

/-- The path behind an open descriptor. -/
def path? (m : Machine) (fd : Descriptor) : Option Path := (m.descriptors[fd]?).join

/-- The node behind an open descriptor. -/
def node? (m : Machine) (fd : Descriptor) : Option Node := (m.path? fd).bind m.files.find?

/-- How many bytes the file behind a descriptor holds. -/
def extent (m : Machine) (fd : Descriptor) : Nat := (m.node? fd).elim 0 (·.content.length)

def openCount (m : Machine) : Nat := m.descriptors.countP Option.isSome

end Machine

end WholeFile
