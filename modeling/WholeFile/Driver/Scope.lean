import WholeFile.Driver.WriteFile
import WholeFile.Payload
import WholeFile.Table

/-!
# Drivers in force

Files can be read and written without naming a driver. The one in force is then used: that of the
innermost block around the call, or a new blocking driver outside all blocks. A block restores what
was in force before it, however it ends.
-/

namespace WholeFile

/-! ## What is in force -/

/-- A machine, its drivers by name, and the name of the driver in force. -/
structure Scope where
  machine : Machine
  drivers : Table String Driver := {}
  inForce : Option String := none

namespace Scope

/-- The driver in force, with its name if it has one. -/
def current (s : Scope) : Option String × Driver :=
  match s.inForce with
  | none => (none, .blocking)
  | some name =>
    match s.drivers.find? name with
    | none => (none, .blocking)
    | some d => (some name, d)

/-- Lets the named driver do something. -/
def perform {ε α : Type} (s : Scope) (name : Option String) (d : Driver)
    (operation : Driver → Machine → Run ε α) : Except ε α × Scope :=
  let run := operation d s.machine
  let drivers := match name with
    | none => s.drivers
    | some name => s.drivers.insert name run.driver
  (run.result, { s with machine := run.machine, drivers })

/-- Lets the driver in force do something. -/
def performCurrent {ε α : Type} (s : Scope) (operation : Driver → Machine → Run ε α) :
    Except ε α × Scope :=
  s.perform s.current.1 s.current.2 operation

/-- Runs `body` with the named driver in force, or as things are if there is no such driver. -/
def within {α : Type} (s : Scope) (name : String) (body : Scope → α × Scope) : α × Scope :=
  match s.drivers.find? name with
  | none => body s
  | some _ =>
    let (a, t) := body { s with inForce := some name }
    (a, { t with inForce := s.inForce })

/-- Blocks within blocks, the first name outermost, up to the first name without a driver. -/
def withinAll {α : Type} (s : Scope) : List String → (Scope → α × Scope) → α × Scope
  | [], body => body s
  | name :: names, body =>
    match s.drivers.find? name with
    | none => body s
    | some _ => s.within name fun s => s.withinAll names body

/-! ## Files -/

def readFile (s : Scope) (p : Path) : Except Failure Buffer × Scope :=
  s.performCurrent fun d m => d.readFile m p

/-- Writes the bytes of a payload that have a value. They are looked at before the file is. -/
def writeFile (s : Scope) (p : Path) (payload : Payload) : Except Failure Unit × Scope :=
  match payload.bytes with
  | .error cause => (.error (.abort cause), s)
  | .ok bytes =>
    let (result, s) := s.performCurrent fun d m => d.writeFile m p bytes
    (result.mapError .error, s)

end Scope

/-! ## Programs -/

/-- What code can do with files and blocks. An abort ends the code around it, out to the next
place where aborts are caught. -/
inductive Program where
  | read (p : Path)
  | write (p : Path) (payload : Payload)
  | abort (cause : Abort)
  | within (driver : String) (body : Program)
  | both (first second : Program)
  | caught (body : Program)

/-- What one call on a file came to. -/
inductive FileResult where
  | read (result : Except Failure Buffer)
  | written (result : Except Failure Unit)

/-- How code ended, and what its calls on files came to, in order. -/
structure Ending where
  results : List FileResult
  aborted : Option Abort

/-- The abort that a result passes on. -/
def abortOf {α : Type} : Except Failure α → Option Abort
  | .error (.abort cause) => some cause
  | _ => none

def Program.run : Program → Scope → Ending × Scope
  | read p, s =>
    let (result, s) := s.readFile p
    (⟨[.read result], abortOf result⟩, s)
  | write p payload, s =>
    let (result, s) := s.writeFile p payload
    (⟨[.written result], abortOf result⟩, s)
  | abort cause, s => (⟨[], some cause⟩, s)
  | within driver body, s => s.within driver body.run
  | both first second, s =>
    match first.run s with
    | (⟨results, some cause⟩, s) => (⟨results, some cause⟩, s)
    | (⟨results, none⟩, s) =>
      let (ending, s) := second.run s
      (⟨results ++ ending.results, ending.aborted⟩, s)
  | caught body, s =>
    let (ending, s) := body.run s
    (⟨ending.results, none⟩, s)

end WholeFile
