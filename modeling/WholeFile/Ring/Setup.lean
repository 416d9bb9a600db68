import WholeFile.Ring.Basic

/-!
# Setting up rings

A ring is of use if the kernel can both read and write through it, which is asked of every new one.
Whether rings can be had at all is found out once in a process.
-/

namespace WholeFile

/-! ## System calls -/

namespace Machine

/-- The most entries that the kernel gives a ring. -/
def maxEntries : Nat := 32768

/-- A ring of at least `entries` entries, a power of two. -/
def setup (m : Machine) (entries : Nat) : Except Errno Ring × Machine :=
  let (fault, rest) := next none m.schedule.setup
  let m := { m with schedule.setup := rest }
  let answer : Except Errno Ring := match fault with
    | some e => .error e
    | none =>
      if entries = 0 ∨ maxEntries < entries then .error .invalidArgument
      else .ok { capacity := entries.nextPowerOfTwo }
  (answer, m.record (.setup entries (answer.map fun _ => ())))

/-- Which operations rings have; all of them if no list is given. -/
def probe (m : Machine) : Except Errno (Option (List Nat)) × Machine :=
  let (fault, rest) := next {} m.schedule.probe
  let m := { m with schedule.probe := rest }
  let answer : Except Errno (Option (List Nat)) := match fault.errno with
    | some e => .error e
    | none => .ok fault.operations
  (answer, m.record (.probe (answer.map fun _ => ())))

end Machine

/-! ## Rings of use -/

namespace Ring

/-- What a ring calls reading and writing at an offset. -/
def transferOperations : List Nat := [22, 23]

/-- A new ring that can carry transfers. One that cannot is closed again. -/
def create (m : Machine) (entries : Nat) : Except IoError Ring × Machine :=
  match m.setup entries with
  | (.error e, m) => (.error (.os e), m)
  | (.ok ring, m) =>
    match m.probe with
    | (.error e, m) => (.error (.os e), m.record .ringClose)
    | (.ok operations, m) =>
      if operations.all fun had => transferOperations.all had.contains then (.ok ring, m)
      else (.error .ringLacksTransfers, m.record .ringClose)

/-- Whether rings can be had, tried with a small one the first time. -/
def supported (m : Machine) : Bool × Machine :=
  match m.ringSupport with
  | some known => (known, m)
  | none =>
    match create m 2 with
    | (.ok _, m) => (true, { m.record .ringClose with ringSupport := some true })
    | (.error e, m) =>
      let m := m.log .debug .ring s!"io_uring is not available error={e.message}"
      (false, { m with ringSupport := some false })

end Ring

end WholeFile
