import WholeFile.Bytes
import WholeFile.Errno

/-!
# Schedules of answers

How the kernel will answer the coming calls, one queue for each kind of call. Each call takes the
front of its queue. An empty queue answers as a kernel does that has nothing in its way.
-/

namespace WholeFile

/-- The front of a queue and what is left, or the usual answer if the queue is empty. -/
def next {α : Type} (usual : α) : List α → α × List α
  | [] => (usual, [])
  | a :: rest => (a, rest)

structure SizeAnswer where
  errno : Option Errno := none
  size : Option Nat := none
deriving DecidableEq, Repr

/-- The file may have new content by now, and the call may then fail or come short. -/
structure ReadAnswer where
  content : Option Bytes := none
  errno : Option Errno := none
  short : Option Nat := none
deriving DecidableEq, Repr

structure WriteAnswer where
  errno : Option Errno := none
  short : Option Nat := none
deriving DecidableEq, Repr

/-- The operations that a ring supports, if not all. -/
structure ProbeAnswer where
  errno : Option Errno := none
  operations : Option (List Nat) := none
deriving DecidableEq, Repr

/-- What one wait on a ring does: which completions appear out of nowhere, whether queued entries
are taken, whether finished ones are posted, and whether the call then fails. -/
structure EnterAnswer where
  errno : Option Errno := none
  take : Bool := true
  post : Bool := true
  stray : List (Nat × Int32) := []
deriving DecidableEq, Repr

structure Schedule where
  openFile : List (Option Errno) := []
  size : List SizeAnswer := []
  read : List ReadAnswer := []
  write : List WriteAnswer := []
  close : List (Option Errno) := []
  setup : List (Option Errno) := []
  probe : List ProbeAnswer := []
  enter : List EnterAnswer := []
deriving DecidableEq, Repr

end WholeFile
