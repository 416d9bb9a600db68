import WholeFile.Driver.Scope
import WholeFile.Platform

/-!
# Sessions

A run of commands on one machine: files are put in place, drivers and platforms are made, used and
dropped, each under a name, and handles are kept in variables that all platforms share. Each
command is answered with its result and with what it did on the way.
-/

namespace WholeFile

/-! ## Commands -/

/-- How to make a driver. -/
inductive DriverRequest where
  | options (o : Options)
  | blocking

/-- How to make a platform. -/
inductive PlatformRequest where
  | blocking
  | options (o : Options)
  /-- With the driver of that name, which goes into it; with a blocking one if there is none. -/
  | driver (name : String)

/-- What can be done with a platform and a handle. -/
inductive HandleCommand where
  | construct (size : Nat)
  | constructFrom (data : Bytes) (size : Nat)
  | insert (s : Storage)
  | read (p : Path)
  | write (p : Path)
  | forge (raw : Nat)
  | invalid
  | alias (source : String)
  | compare (other : String)
  | inspect
  | take
  | destruct
  | isValid
  | size
  | data
  | pointer
  | resize (size : Nat)
  | poke (pos : Nat) (bytes : Bytes)
  | fill (byte : UInt8)
  | get
  | getResized (size : Nat)

inductive Command where
  | putFile (p : Path) (n : Node)
  | unlink (p : Path)
  | setSchedule (s : Schedule)
  | makeDriver (name : String) (request : DriverRequest)
  | dropDriver (name : String)
  /-- Reads with the named driver. -/
  | readWith (driver : String) (p : Path)
  /-- Reads with the driver in force inside blocks for these names. -/
  | readWithin (names : List String) (p : Path)
  | writeWith (driver : String) (p : Path) (bytes : Bytes)
  | writeWithin (names : List String) (p : Path) (payload : Payload) (ranges : List Range)
  | makePlatform (name : String) (request : PlatformRequest)
  | onPlatform (platform handle : String) (c : HandleCommand)

/-! ## Answers -/

inductive Reply where
  | done
  | existed (answer : Bool)
  | kind (k : DriverKind)
  | failed (cause : Failure)
  | noDriver
  | contents (bytes : Bytes)
  /-- A handle was kept: what it names, and how it shows. -/
  | created (valid : Bool) (size : Nat) (data : Option Bytes) (h : Handle)
  | flag (answer : Bool)
  | count (n : Nat)
  | data (bytes : Option Bytes)
  | compared (equal : Bool) (order : Ordering)
  | inspected (h : Handle)
  | pointer (present : Bool)
  | resized (ok : Bool) (size : Nat) (data : Option Bytes)
  | pastEnd
  | nullPointer
  | filled (data : Option Bytes)
  | shown (b : Buffer)
  | reached (bytes : Bytes)

/-- The result of a command, what it did, and how many buffers its platform has if it used one and
was not aborted. -/
structure Answer where
  reply : Reply
  journal : Journal
  live : Option Nat

/-! ## State -/

structure Session where
  scope : Scope
  platforms : Table String Platform := {}
  handles : Table String Handle := {}

namespace Session

def machine (s : Session) : Machine := s.scope.machine

def withMachine (s : Session) (m : Machine) : Session :=
  { s with scope := { s.scope with machine := m } }

/-- The value of a handle variable, which is invalid before it is set. -/
def handle (s : Session) (name : String) : Handle := (s.handles.find? name).getD .invalid

def withHandle (s : Session) (name : String) (h : Handle) : Session :=
  { s with handles := s.handles.insert name h }

/-- The platform of that name, or a new one. -/
def platform (s : Session) (name : String) : Platform := (s.platforms.find? name).getD {}

def withPlatform (s : Session) (name : String) (p : Platform) : Session :=
  { s with platforms := s.platforms.insert name p }

/-! ## Handles -/

/-- Keeps a handle and tells what it names. -/
def keep (s : Session) (platform variableName : String) (h : Handle) : Reply × Session :=
  let p := s.platform platform
  (.created (p.isValid h) (p.size h) (p.data h) h, s.withHandle variableName h)

/-- Keeps the handle that an operation of a platform gave. -/
def keepFrom (s : Session) (name variableName : String) (given : Handle × Platform × Machine) :
    Reply × Session :=
  let (h, p, m) := given
  ((s.withPlatform name p).withMachine m).keep name variableName h

def runHandle (s : Session) (name variableName : String) : HandleCommand → Reply × Session
  | .construct size => s.keepFrom name variableName ((s.platform name).construct s.machine size)
  | .constructFrom data size =>
    s.keepFrom name variableName ((s.platform name).constructFrom s.machine data size)
  | .insert storage =>
    let (h, p) := (s.platform name).insert (.ofStorage storage)
    s.keepFrom name variableName (h, p, s.machine)
  | .read path =>
    match (s.platform name).readFile s.machine path with
    | (.error cause, p, m) => (.failed (.abort cause), (s.withPlatform name p).withMachine m)
    | (.ok h, p, m) => s.keepFrom name variableName (h, p, m)
  | .write path =>
    let (ok, p, m) := (s.platform name).writeFile s.machine path (s.handle variableName)
    (.flag ok, (s.withPlatform name p).withMachine m)
  | .forge raw => s.keep name variableName (.ofRaw raw)
  | .invalid => s.keep name variableName .invalid
  | .alias source => (.done, s.withHandle variableName (s.handle source))
  | .compare other =>
    let g := s.handle variableName
    let h := s.handle other
    (.compared (g = h) (g.order h), s)
  | .inspect => (.inspected (s.handle variableName), s)
  | .take =>
    match (s.platform name).take (s.handle variableName) with
    | none => (.data none, s)
    | some (b, p) => (.data (some b.bytes), s.withPlatform name p)
  | .destruct =>
    let h := s.handle variableName
    let (p, m) := (s.platform name).destruct s.machine h
    (.flag (p.isValid h), (s.withPlatform name p).withMachine m)
  | .isValid => (.flag ((s.platform name).isValid (s.handle variableName)), s)
  | .size => (.count ((s.platform name).size (s.handle variableName)), s)
  | .data => (.data ((s.platform name).data (s.handle variableName)), s)
  | .pointer => (.pointer ((s.platform name).isValid (s.handle variableName)), s)
  | .resize size =>
    let h := s.handle variableName
    let (ok, p, m) := (s.platform name).resize s.machine h size
    (.resized ok (p.size h) (p.data h), (s.withPlatform name p).withMachine m)
  | .poke pos bytes =>
    let h := s.handle variableName
    let p := s.platform name
    if p.size h < pos + bytes.length then (.pastEnd, s)
    else
      match p.overwrite? h pos bytes with
      | none => (.nullPointer, s)
      | some p => (.data (p.data h), s.withPlatform name p)
  | .fill byte =>
    let h := s.handle variableName
    match (s.platform name).fill h byte with
    | none => (.filled none, s)
    | some p => (.filled (p.data h), s.withPlatform name p)
  | .get =>
    match (s.platform name).get (s.handle variableName) with
    | .error e => (.failed (.error e), s)
    | .ok b => (.shown b, s)
  | .getResized size =>
    let h := s.handle variableName
    match (s.platform name).resizeBuffer h size with
    | .error e => (.failed (.error e), s)
    | .ok p => (.reached ((p.data h).getD []), s.withPlatform name p)

/-! ## Drivers and platforms -/

def makeDriver (m : Machine) : DriverRequest → Except IoError Driver × Machine
  | .options o => Driver.create m o
  | .blocking => (.ok .blocking, m)

/-- What is dropped when a driver takes the place of another. -/
def dropReplaced (old : Option Driver) (m : Machine) : Machine := old.elim m (·.drop m)

/-- A driver for a new platform. One that a name stood for is no longer under that name. -/
def driverFor (s : Session) : PlatformRequest → Except IoError Driver × Session
  | .blocking => (.ok .blocking, s)
  | .options o =>
    let (d, m) := Driver.create s.machine o
    (d, s.withMachine m)
  | .driver name =>
    ((s.scope.drivers.find? name).elim (.ok .blocking) .ok,
      { s with scope := { s.scope with drivers := s.scope.drivers.erase name } })

/-- What a call on a file came to, as a reply. -/
def readReply : Except Failure Buffer → Reply
  | .ok b => .contents b.bytes
  | .error cause => .failed cause

def writeReply : Except Failure Unit → Reply
  | .ok () => .done
  | .error cause => .failed cause

def run (s : Session) : Command → Reply × Session
  | .putFile p n =>
    (.done, s.withMachine { s.machine with files := s.machine.files.insert p n })
  | .unlink p =>
    (.existed (s.machine.files.find? p).isSome,
      s.withMachine { s.machine with files := s.machine.files.erase p })
  | .setSchedule schedule => (.done, s.withMachine { s.machine with schedule })
  | .makeDriver name request =>
    match makeDriver s.machine request with
    | (.error e, m) => (.failed (.error (.io e)), s.withMachine m)
    | (.ok d, m) =>
      let old := s.scope.drivers.find? name
      let scope :=
        { s.scope with machine := dropReplaced old m, drivers := s.scope.drivers.insert name d }
      (.kind d.kind, { s with scope })
  | .dropDriver name =>
    let old := s.scope.drivers.find? name
    let scope :=
      { s.scope with
        machine := dropReplaced old s.machine
        drivers := s.scope.drivers.erase name }
    (.existed old.isSome, { s with scope })
  | .readWith driver p =>
    match s.scope.drivers.find? driver with
    | none => (.noDriver, s)
    | some d =>
      let (result, scope) := s.scope.perform (some driver) d fun d m => d.readFile m p
      (readReply result, { s with scope })
  | .readWithin names p =>
    let (result, scope) := s.scope.withinAll names fun scope => scope.readFile p
    (readReply result, { s with scope })
  | .writeWith driver p bytes =>
    match s.scope.drivers.find? driver with
    | none => (.noDriver, s)
    | some d =>
      let (result, scope) := s.scope.perform (some driver) d fun d m => d.writeFile m p bytes
      (writeReply (result.mapError .error), { s with scope })
  | .writeWithin names p payload ranges =>
    match payload.restrictAll ranges with
    | .error cause => (.failed (.abort cause), s)
    | .ok payload =>
      let (result, scope) := s.scope.withinAll names fun scope => scope.writeFile p payload
      (writeReply result, { s with scope })
  | .makePlatform name request =>
    match s.driverFor request with
    | (.error e, s) => (.failed (.error (.io e)), s)
    | (.ok d, s) =>
      let old := (s.platforms.find? name).map Platform.driver
      (.kind d.kind,
        (s.withPlatform name { driver := d }).withMachine (dropReplaced old s.machine))
  | .onPlatform platform handle c =>
    (s.withPlatform platform (s.platform platform)).runHandle platform handle c

/-- How many buffers the platform of a command has, unless an abort cut the answer short. -/
def live (s : Session) (c : Command) (r : Reply) : Option Nat :=
  match c, r with
  | .onPlatform _ _ _, .failed (.abort _) => none
  | .onPlatform platform _ _, _ => some (s.platform platform).count
  | _, _ => none

/-- Runs one command, with a journal of its own. -/
def step (s : Session) (c : Command) : Answer × Session :=
  let (reply, s) := (s.withMachine { s.machine with journal := [] }).run c
  (⟨reply, s.machine.journal, s.live c reply⟩, s)

/-- Runs commands in order. -/
def steps (s : Session) : List Command → List Answer × Session
  | [] => ([], s)
  | c :: rest =>
    let (answer, s) := s.step c
    let (answers, s) := s.steps rest
    (answer :: answers, s)

end Session

end WholeFile
