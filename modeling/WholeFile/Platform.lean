import WholeFile.Arena
import WholeFile.Driver.WriteFile

/-!
# Platforms

An arena of buffers with a driver, for callers that know handles only. What fails gives the invalid
handle or `false`, leaves all buffers as they were, and logs one line that says why.
-/

namespace WholeFile

structure Platform where
  arena : Arena Buffer := {}
  driver : Driver := .blocking

namespace Platform

/-! ## Asking -/

def get (p : Platform) (h : Handle) : Except Error Buffer :=
  (p.arena.get? h).elim (.error .invalidHandle) .ok

def isValid (p : Platform) (h : Handle) : Bool := p.arena.contains h

/-- The size of the buffer, or zero. -/
def size (p : Platform) (h : Handle) : Nat := (p.arena.get? h).elim 0 Buffer.size

def data (p : Platform) (h : Handle) : Option Bytes := (p.arena.get? h).map Buffer.bytes

/-- How many buffers there are. -/
def count (p : Platform) : Nat := p.arena.size

def isEmpty (p : Platform) : Bool := p.arena.isEmpty

/-! ## Saying why -/

def note (m : Machine) (message : String) : Machine := m.log .debug .platform message

/-- Whether the named operation succeeded. If not, its error is logged. -/
def succeeded (m : Machine) (operation : String) : Except Error Unit → Bool × Machine
  | .ok () => (true, m)
  | .error e => (false, note m s!"{operation} failed: {e.message}")

/-! ## Making and releasing buffers -/

/-- Takes over a buffer. -/
def insert (p : Platform) (b : Buffer) : Handle × Platform :=
  let (h, arena) := p.arena.insert b
  (h, { p with arena })

/-- Takes over a buffer if there is one, and logs the error if there is not. -/
def insertResult (p : Platform) (m : Machine) : Except Error Buffer → Handle × Platform × Machine
  | .ok b =>
    let (h, p) := p.insert b
    (h, p, m)
  | .error e => (.invalid, p, note m s!"returning invalid handle: {e.message}")

/-- A buffer of `size` zero bytes. -/
def construct (p : Platform) (m : Machine) (size : Nat) : Handle × Platform × Machine :=
  p.insertResult m ((Buffer.withSize size).mapError .alloc)

/-- A buffer with a copy of the first `size` bytes of `data`. -/
def constructFrom (p : Platform) (m : Machine) (data : Bytes) (size : Nat) :
    Handle × Platform × Machine :=
  if size ≤ data.length then p.insertResult m ((Buffer.copyOf (data.take size)).mapError .alloc)
  else
    (.invalid, p, note m
      s!"construct_with_buffer: asked for {size} bytes from a {data.length} byte source")

/-- Gives a buffer back to the caller. -/
def take (p : Platform) (h : Handle) : Option (Buffer × Platform) :=
  (p.arena.remove h).map fun (b, arena) => (b, { p with arena })

/-- Releases a buffer. Doing so twice is no error. -/
def destruct (p : Platform) (m : Machine) (h : Handle) : Platform × Machine :=
  match p.arena.remove h with
  | some (_, arena) => ({ p with arena }, m)
  | none => (p, note m s!"destruct: ignoring invalid handle {h.describe}")

/-! ## Changing buffers -/

/-- Changes the buffer that a handle names, if it names one and the change succeeds. -/
def edit (p : Platform) (h : Handle) (f : Buffer → Except Error Buffer) :
    Except Error Platform := do
  let b ← p.get h
  let b ← f b
  return { p with arena := p.arena.set h b }

/-- Exactly `size` bytes, new ones zero. -/
def resizeBuffer (p : Platform) (h : Handle) (size : Nat) : Except Error Platform :=
  p.edit h fun b => (b.resize size).mapError .alloc

def resize (p : Platform) (m : Machine) (h : Handle) (size : Nat) : Bool × Platform × Machine :=
  let result := p.resizeBuffer h size
  let (ok, m) := succeeded m "resize" (result.map fun _ => ())
  (ok, result.toOption.getD p, m)

/-- Writes `bytes` over those of the buffer from `pos` on. Nothing comes back if they do not fit. -/
def overwrite? (p : Platform) (h : Handle) (pos : Nat) (bytes : Bytes) : Option Platform := do
  let b ← p.arena.get? h
  let b ← b.overwrite? pos bytes
  return { p with arena := p.arena.set h b }

/-- Gives every byte of the buffer the value `byte`, if the handle names one. -/
def fill (p : Platform) (h : Handle) (byte : UInt8) : Option Platform :=
  (p.arena.get? h).map fun b => { p with arena := p.arena.set h (b.fill byte) }

/-! ## Files -/

/-- Reads a whole file into a new buffer. -/
def readFile (p : Platform) (m : Machine) (path : Path) :
    Except Abort Handle × Platform × Machine :=
  let run := p.driver.readFile m path
  let p := { p with driver := run.driver }
  match run.result with
  | .error (.abort cause) => (.error cause, p, run.machine)
  | .error (.error e) =>
    let (h, p, m) := p.insertResult run.machine (.error e)
    (.ok h, p, m)
  | .ok b =>
    let (h, p, m) := p.insertResult run.machine (.ok b)
    (.ok h, p, m)

/-- Writes the buffer to a file. With an invalid handle no file is touched. -/
def writeFile (p : Platform) (m : Machine) (path : Path) (h : Handle) : Bool × Platform × Machine :=
  match p.get h with
  | .error e =>
    let (ok, m) := succeeded m "write_file" (.error e)
    (ok, p, m)
  | .ok b =>
    let run := p.driver.writeFile m path b.bytes
    let (ok, m) := succeeded run.machine "write_file" run.result
    (ok, { p with driver := run.driver }, m)

end Platform

end WholeFile
