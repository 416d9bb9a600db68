import WholeFile.Driver.Options
import WholeFile.Ring.Setup

/-!
# Drivers

A driver carries out whole-file reads and writes over one of two backends. Asking for blocking
calls or for whatever works never fails; asking for a ring fails if there is none to be had.
-/

namespace WholeFile

inductive Backend where
  | blocking
  | ring (r : Ring)
deriving DecidableEq, Repr

structure Driver where
  backend : Backend
  /-- The permission bits of files that a write creates, before the process's mask. -/
  fileMode : Nat
deriving DecidableEq, Repr

namespace Driver

/-- A blocking driver with the default options. -/
def blocking : Driver := ⟨.blocking, defaultFileMode⟩

/-- The backend in use, never `auto`. -/
def kind (d : Driver) : DriverKind :=
  match d.backend with
  | .blocking => .blocking
  | .ring _ => .ring

/-- A ring if rings are supported and one can be set up, blocking calls otherwise. -/
def autoBackend (m : Machine) (entries : Nat) : Backend × Machine :=
  match Ring.supported m with
  | (false, m) => (.blocking, m)
  | (true, m) =>
    match Ring.create m entries with
    | (.ok ring, m) => (.ring ring, m)
    | (.error e, m) =>
      (.blocking, m.log .debug .driver
        s!"io_uring setup failed, using blocking driver error={e.message}")

def chooseBackend (m : Machine) (o : Options) : Except IoError Backend × Machine :=
  match o.driver with
  | .blocking => (.ok .blocking, m)
  | .ring =>
    let (ring, m) := Ring.create m o.entries
    (ring.map .ring, m)
  | .auto =>
    let (backend, m) := autoBackend m o.entries
    (.ok backend, m)

/-- A driver as the options ask for it. -/
def create (m : Machine) (o : Options) : Except IoError Driver × Machine :=
  match chooseBackend m o with
  | (.error e, m) => (.error e, m)
  | (.ok backend, m) =>
    let d : Driver := ⟨backend, o.fileMode⟩
    (.ok d, m.log .debug .driver s!"driver ready requested={o.driver.name} kind={d.kind.name}")

/-- The machine once the driver is gone, and its ring with it. -/
def drop (d : Driver) (m : Machine) : Machine :=
  match d.backend with
  | .blocking => m
  | .ring _ => m.record .ringClose

theorem kind_ne_auto (d : Driver) : d.kind ≠ .auto := by
  unfold kind
  split <;> decide

end Driver

end WholeFile
