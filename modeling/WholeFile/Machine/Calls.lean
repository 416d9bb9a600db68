import WholeFile.Machine.Basic

/-!
# System calls

What each call does to the machine, and what it answers. Transfers are given here without their
journal entry, since a ring carries them out as well.
-/

namespace WholeFile.Machine

/-! ## Opening and closing -/

/-- The permission bits of a new file. -/
def grantedMode (mode umask : Nat) : Nat :=
  let bits := mode &&& 0o7777
  bits ^^^ (bits &&& umask)

/-- What stands against a new file at `p`: it needs a directory to be in. -/
def creationError? (files : FileTable) (p : Path) : Option Errno :=
  match p.parent? with
  | none => none
  | some parent =>
    match files.find? parent with
    | none => some .noEntry
    | some n => if n.directory then none else some .notADirectory

/-- The file table once `p` is open. -/
def filesOpened (m : Machine) (p : Path) (access : Access) (mode : Nat) : Except Errno FileTable :=
  match m.files.find? p, access with
  | some _, .read => .ok m.files
  | some n, .replace =>
    if n.directory then .error .isADirectory
    else .ok (m.files.insert p { n with content := [], reported := none })
  | none, .read => .error .noEntry
  | none, .replace =>
    if p = [] then .error .noEntry
    else
      match creationError? m.files p with
      | some e => .error e
      | none => .ok (m.files.insert p { mode := grantedMode mode m.umask })

/-- Opens `p` under the lowest free descriptor. -/
def opened (m : Machine) (p : Path) (access : Access) (mode : Nat) :
    Except Errno Descriptor × Machine :=
  match m.filesOpened p access mode with
  | .error e => (.error e, m)
  | .ok files =>
    let (fd, m) := { m with files }.allocate p
    (.ok fd, m)

def openFile (m : Machine) (p : Path) (access : Access) (mode : Nat) :
    Except Errno Descriptor × Machine :=
  let (fault, rest) := next none m.schedule.openFile
  let m := { m with schedule.openFile := rest }
  let (answer, m) : Except Errno Descriptor × Machine :=
    match fault with
    | some e => (.error e, m)
    | none => m.opened p access mode
  (answer, m.record (.openFile p access mode answer))

/-- Closes a descriptor. It is free afterwards even when the call fails. -/
def close (m : Machine) (fd : Descriptor) : Except Errno Unit × Machine :=
  let (fault, rest) := next none m.schedule.close
  let m := { m with schedule.close := rest }
  let answer := match fault with
    | some e => .error e
    | none => .ok ()
  (answer, (m.release fd).record (.close fd answer))

/-! ## Sizes and transfers -/

/-- The reported size of an open file. -/
def size (m : Machine) (fd : Descriptor) : Except Errno Nat × Machine :=
  let (fault, rest) := next {} m.schedule.size
  let m := { m with schedule.size := rest }
  let answer := match fault.errno, m.node? fd with
    | some e, _ => .error e
    | none, none => .error .badDescriptor
    | none, some n => .ok (fault.size.getD n.size)
  (answer, m.record (.size fd answer))

/-- Gives the open file new content, if there is any to give. -/
def refreshed (m : Machine) (fd : Descriptor) (content : Option Bytes) : Machine :=
  match content, m.path? fd with
  | some bytes, some p => { m with files := m.files.editContent p fun _ => bytes }
  | _, _ => m

/-- Up to `length` bytes of the open file from `offset` on. -/
def transferIn (m : Machine) (fd : Descriptor) (length offset : Nat) :
    Except Errno Bytes × Machine :=
  let (fault, rest) := next {} m.schedule.read
  let m := { m with schedule.read := rest }
  let m := m.refreshed fd fault.content
  let answer := match fault.errno, m.node? fd with
    | some e, _ => .error e
    | none, none => .error .badDescriptor
    | none, some n =>
      if n.directory then .error .isADirectory
      else .ok ((n.content.drop offset).take (min length (fault.short.getD length)))
  (answer, m)

/-- Writes `bytes`, or the first few of them, to the open file at `offset`. A file that does not
reach that far is filled up with zero bytes first, but writing nothing leaves it as it is. -/
def transferOut (m : Machine) (fd : Descriptor) (bytes : Bytes) (offset : Nat) :
    Except Errno Nat × Machine :=
  let (fault, rest) := next {} m.schedule.write
  let m := { m with schedule.write := rest }
  match fault.errno, m.path? fd with
  | some e, _ => (.error e, m)
  | none, none => (.error .badDescriptor, m)
  | none, some p =>
    let written := bytes.take (fault.short.getD bytes.length)
    if written = [] then (.ok 0, m)
    else (.ok written.length, { m with files := m.files.editContent p (·.spliced offset written) })

def read (m : Machine) (fd : Descriptor) (length offset : Nat) : Except Errno Bytes × Machine :=
  let (answer, m) := m.transferIn fd length offset
  (answer, m.record (.read fd length offset answer))

def write (m : Machine) (fd : Descriptor) (bytes : Bytes) (offset : Nat) :
    Except Errno Nat × Machine :=
  let (answer, m) := m.transferOut fd bytes offset
  (answer, m.record (.write fd bytes offset answer))

/-! ## What transfers leave alone -/

theorem schedule_refreshed (m : Machine) (fd : Descriptor) (content : Option Bytes) :
    (m.refreshed fd content).schedule = m.schedule := by
  unfold refreshed
  split <;> rfl

theorem enterQueue_transferIn (m : Machine) (fd : Descriptor) (length offset : Nat) :
    (m.transferIn fd length offset).2.schedule.enter = m.schedule.enter := by
  simp only [transferIn, schedule_refreshed]

theorem enterQueue_transferOut (m : Machine) (fd : Descriptor) (bytes : Bytes) (offset : Nat) :
    (m.transferOut fd bytes offset).2.schedule.enter = m.schedule.enter := by
  simp only [transferOut]
  split
  · rfl
  · rfl
  · split <;> rfl

end WholeFile.Machine
