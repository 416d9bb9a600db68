import WholeFile.Bytes
import WholeFile.Errno

/-!
# The journal

What a run did, in order: the system calls it made, with their answers, and the lines it logged.
-/

namespace WholeFile

abbrev Descriptor := Nat

/-- What a file is opened for. -/
inductive Access where
  /-- Reading what is there. -/
  | read
  /-- Writing in place of what is there, with a new file where there is none. -/
  | replace
deriving DecidableEq, Repr

/-- The memory that a read fills: a buffer, as far in as the bytes are in the file, or a probe, from
its start. -/
inductive Target where
  | buffer
  | probe
deriving DecidableEq, Repr

/-- A transfer between memory and a place in a file. -/
inductive Transfer where
  | read (length : Nat) (target : Target)
  | write (bytes : Bytes)
deriving DecidableEq, Repr

/-- How many bytes are asked for. -/
def Transfer.length : Transfer → Nat
  | read length _ => length
  | write bytes => bytes.length

/-- A system call and its answer. Reads answer with the bytes they delivered, and writes with how
many bytes they took. -/
inductive Call where
  | openFile (path : Path) (access : Access) (mode : Nat) (answer : Except Errno Descriptor)
  | size (fd : Descriptor) (answer : Except Errno Nat)
  | read (fd : Descriptor) (length offset : Nat) (answer : Except Errno Bytes)
  | write (fd : Descriptor) (bytes : Bytes) (offset : Nat) (answer : Except Errno Nat)
  | close (fd : Descriptor) (answer : Except Errno Unit)
  | setup (entries : Nat) (answer : Except Errno Unit)
  | probe (answer : Except Errno Unit)
  | ringClose
  /-- The kernel carries out a ring's read entry. -/
  | ringRead (ticket : Nat) (fd : Descriptor) (length offset : Nat) (answer : Except Errno Bytes)
  /-- The kernel carries out a ring's write entry. -/
  | ringWrite (ticket : Nat) (fd : Descriptor) (bytes : Bytes) (offset : Nat)
      (answer : Except Errno Nat)
  | enter (queued : Nat) (answer : Except Errno Nat)

inductive LogLevel where
  | debug | warn
deriving DecidableEq, Repr

def LogLevel.name : LogLevel → String
  | debug => "DEBUG"
  | warn => "WARN"

/-- The part of the library that logs a line. -/
inductive LogSource where
  | driver | ring | platform
deriving DecidableEq, Repr

def LogSource.name : LogSource → String
  | driver => "seaplatform::driver"
  | ring => "seaplatform::driver::uring"
  | platform => "seaplatform::platform"

structure LogLine where
  level : LogLevel
  source : LogSource
  message : String
deriving DecidableEq, Repr

def LogLine.text (l : LogLine) : String := s!"{l.level.name} {l.source.name}: {l.message}"

inductive Event where
  | call (c : Call)
  | log (l : LogLine)

def Event.call? : Event → Option Call
  | call c => some c
  | log _ => none

def Event.log? : Event → Option LogLine
  | call _ => none
  | log l => some l

abbrev Journal := List Event

namespace Journal

/-- The system calls, in order. -/
def calls (j : Journal) : List Call := j.filterMap Event.call?

/-- The logged lines, in order. -/
def lines (j : Journal) : List LogLine := j.filterMap Event.log?

theorem calls_append (i j : Journal) : calls (i ++ j) = calls i ++ calls j :=
  List.filterMap_append ..

theorem lines_append (i j : Journal) : lines (i ++ j) = lines i ++ lines j :=
  List.filterMap_append ..

end Journal

end WholeFile
