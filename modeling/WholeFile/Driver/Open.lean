import WholeFile.Error
import WholeFile.Machine.Calls

/-!
# Opening files

A path with a NUL byte in it cannot be handed to the kernel, and no call is made for it. An
interrupted call is made again.
-/

namespace WholeFile.Machine

theorem creationError?_ne_interrupted (files : FileTable) (p : Path) :
    creationError? files p ≠ some .interrupted := by
  unfold creationError?
  repeat' split
  all_goals decide

theorem filesOpened_ne_interrupted (m : Machine) (p : Path) (access : Access) (mode : Nat) :
    m.filesOpened p access mode ≠ .error .interrupted := by
  have := creationError?_ne_interrupted m.files p
  unfold filesOpened
  repeat' split
  all_goals simp_all [Errno.interrupted, Errno.noEntry, Errno.isADirectory]

/-- An interruption is an answer that was scheduled. -/
theorem openFile_interrupted {m m' : Machine} {p : Path} {access : Access} {mode : Nat}
    (h : m.openFile p access mode = (.error .interrupted, m')) :
    m'.schedule.openFile.length < m.schedule.openFile.length := by
  cases hq : m.schedule.openFile with
  | nil =>
    have := { m with schedule.openFile := [] }.filesOpened_ne_interrupted p access mode
    simp only [openFile, hq, next, opened] at h
    split at h
    · cases h; contradiction
    · cases h
  | cons a rest =>
    have : m'.schedule.openFile = rest := by
      simp only [openFile, hq, next, opened, allocate, record] at h
      repeat' split at h
      all_goals cases h
      all_goals rfl
    simp [this]

/-- Opens `p`, as often as it takes not to be interrupted. -/
def openAgain (m : Machine) (p : Path) (access : Access) (mode : Nat) :
    Except Errno Descriptor × Machine :=
  match h : m.openFile p access mode with
  | (.error e, m') =>
    if he : e = .interrupted then
      have := openFile_interrupted (he ▸ h)
      m'.openAgain p access mode
    else (.error e, m')
  | (.ok fd, m') => (.ok fd, m')
termination_by m.schedule.openFile.length

def openPath (m : Machine) (p : Path) (access : Access) (mode : Nat) :
    Except IoError Descriptor × Machine :=
  if 0 ∈ p then (.error .nulInPath, m)
  else
    let (answer, m) := m.openAgain p access mode
    (answer.mapError .os, m)

end WholeFile.Machine
