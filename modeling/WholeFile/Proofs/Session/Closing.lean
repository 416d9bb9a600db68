import WholeFile.Proofs.Driver.Closing
import WholeFile.Proofs.Session.Keeping

/-!
# Sessions leave no file open

Every call on a file closes what it has opened, so a session ends with the descriptors that it began
with, whatever its kernel answers.
-/

namespace WholeFile

/-! ## Commands -/

theorem Machine.sameOpen_noting : Noting SameOpen where
  refl _ := .of_eq rfl
  trans := .trans
  readFile d m p := d.sameOpen_readFile m p
  writeFile d m p bytes := d.sameOpen_writeFile m p bytes
  noted _ _ := .of_eq rfl
  closedRing _ := .of_eq rfl
  refiled _ _ := .of_eq rfl
  rescheduled _ _ := .of_eq rfl

namespace Session

theorem sameOpen_run (s : Session) (c : Command) : s.machine.SameOpen (s.run c).2.machine :=
  Machine.sameOpen_noting.run s c fun o _ => .of_eq (Driver.apart_create s.machine o).descriptors

theorem sameOpen_steps (s : Session) (history : List Command) :
    s.machine.SameOpen (s.steps history).2.machine := by
  induction history generalizing s with
  | nil => exact .of_eq rfl
  | cons c rest ih =>
    have first : s.machine.SameOpen (s.step c).2.machine := sameOpen_run s.afresh c
    exact first.trans (ih (s.step c).2)

/-- Whatever the kernel answers, a call closes the file that it has opened, once and after all else,
with nothing of it under way in a ring. So no session ends with a file open that was not before. -/
theorem files_closed :
    (∀ (d : Driver) (m : Machine) (call : FileCall), d.Reached →
      (d.kind = .ring → m.schedule.Honest) →
        Discipline m (d.carryOut m call).2.2 (d.carryOut m call).2.1.backend) ∧
    ∀ (m : Machine) (history : List Command),
      m.SameOpen (steps { scope := { machine := m } } history).2.machine ∧
        (steps { scope := { machine := m } } history).2.machine.openCount = m.openCount := by
  constructor
  · intro d m call reached honest
    have ready : (d.host m).Ready := Driver.ready_iff.2 ⟨reached.settled, honest⟩
    cases call with
    | read p => exact Driver.readFile_discipline ready p
    | write p bytes => exact Driver.writeFile_discipline ready p bytes
  · intro m history
    have same := sameOpen_steps { scope := { machine := m } } history
    exact ⟨same, same.openCount⟩

/-- The wait for a write fails while the kernel has it, and closing fails as well. -/
theorem files_closed_failing :
    let d : Driver := ⟨.ring { capacity := Nat.nextPowerOfTwo 8 }, 0o666⟩
    let m : Machine :=
      { schedule.size := [{ errno := some ⟨5⟩ }]
        schedule.enter := [{ post := false, errno := some ⟨5⟩ }, { post := false }]
        schedule.close := [some ⟨5⟩, some .interrupted] }
    let call : FileCall := .write [0x61] [1, 2, 3]
    let history : List Command :=
      [.makeDriver "ring" (.options { driver := .ring }), .writeWith "ring" [0x61] [1, 2, 3],
        .readWith "ring" [0x61], .onPlatform "main" "h" (.read [0x62])]
    d.Reached ∧ m.schedule.Honest ∧
      Discipline m (d.carryOut m call).2.2 (d.carryOut m call).2.1.backend ∧
      m.SameOpen (steps { scope := { machine := m } } history).2.machine ∧
      (steps { scope := { machine := m } } history).2.machine.openCount = 0 := by
  intro d m call history
  have made : Driver.create {} { driver := .ring } =
      (.ok d, (Driver.create {} { driver := .ring }).2) := rfl
  have reached : d.Reached := .created made
  have honest : m.schedule.Honest := by
    refine ⟨?_, ?_, ?_⟩
    · simp [m, Schedule.Strayless]
    · simp [m]
    · simp [m]
  obtain ⟨calls, sessions⟩ := files_closed
  exact ⟨reached, honest, calls d m call reached fun _ => honest, sessions m history⟩

end Session

end WholeFile
