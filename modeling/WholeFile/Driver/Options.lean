/-!
# Driver options

Which backend is asked for, and with what settings.
-/

namespace WholeFile

/-- Which backend transfers bytes. -/
inductive DriverKind where
  /-- A ring where that works, blocking calls otherwise. -/
  | auto
  /-- One blocking call for each transfer. -/
  | blocking
  /-- A ring, with one transfer under way at a time. -/
  | ring
deriving DecidableEq, Repr

def DriverKind.name : DriverKind → String
  | auto => "Auto"
  | blocking => "Blocking"
  | ring => "Uring"

def defaultEntries : Nat := 8

def defaultFileMode : Nat := 0o666

structure Options where
  driver : DriverKind := .auto
  /-- How many entries a ring has, before rounding up to a power of two. -/
  entries : Nat := defaultEntries
  /-- The permission bits of new files, before the process's mask. -/
  fileMode : Nat := defaultFileMode
deriving DecidableEq, Repr

namespace Options

def withDriver (o : Options) (kind : DriverKind) : Options := { o with driver := kind }

def withEntries (o : Options) (entries : Nat) : Options := { o with entries }

def withFileMode (o : Options) (mode : Nat) : Options := { o with fileMode := mode }

/-- The options with all their parts. -/
def describe (o : Options) : String :=
  s!"Options \x7b driver: {o.driver.name}, uring_entries: {o.entries}, file_mode: {o.fileMode} \x7d"

end Options

end WholeFile
