import WholeFile.Proofs.Payload.Inside
import WholeFile.Proofs.Session.Store

/-!
# Payloads that are written to files

Writing a payload is writing the bytes of its base that are inside all windows. If there is nothing
to be reached, that shows before anything is asked of the kernel.
-/

namespace WholeFile.Scope

open Payload (Made)

/-- What comes of a payload is what comes of the bytes inside all windows, whichever driver is in
force. If the base ends before the last window begins, nothing at all is done. -/
theorem writeFile_inside {payload : Payload} (made : payload.Made) (s : Scope) (p : Path) :
    (payload.origin ≤ payload.baseBytes.length →
      payload.bytes = .ok payload.inside ∧ payload.offset = .ok payload.origin ∧
        payload.inside = (payload.baseBytes.drop payload.origin).take payload.initialized ∧
        let run := s.current.2.writeFile s.machine p payload.inside
        s.writeFile p payload = (run.result.mapError .error,
          (s.performCurrent fun d m => d.writeFile m p payload.inside).2) ∧
          (s.writeFile p payload).2.machine = run.machine) ∧
    (payload.baseBytes.length < payload.origin →
      s.writeFile p payload = (.error (.abort .outOfBounds), s)) := by
  refine ⟨fun le => ?_, fun short => ?_⟩
  · have shown := made.fitted.bytes_of_le le
    obtain ⟨offset, stretch⟩ := Payload.accessors_of_bytes shown
    have wrote := writeFile_of_bytes s p shown
    exact ⟨shown, offset, stretch, wrote, congrArg (Scope.machine ∘ Prod.snd) wrote⟩
  · unfold writeFile
    rw [Payload.bytes_of_lt short]

/-- A view of a view of storage is written when the storage has shrunk to the first byte of the
inner window, and again when it has shrunk to before that window. The file is made only the first
time. -/
theorem writeFile_inside_shrunk :
    let made := Payload.view (.view (.storage ⟨[1, 2, 3, 4, 5], 8, by decide, by decide⟩) 1 7) 2 5
    let short := Payload.view (.view (.storage ⟨[1, 2, 3, 4], 8, by decide, by decide⟩) 1 7) 2 5
    let gone := Payload.view (.view (.storage ⟨[1, 2], 8, by decide, by decide⟩) 1 7) 2 5
    let s : Scope := { machine := {} }
    made.Made ∧ made.resizeBase 4 0 = .ok short ∧ short.resizeBase 2 0 = .ok gone ∧
      short.inside = [4] ∧ (s.writeFile [0x61] short).2.machine =
        (s.current.2.writeFile s.machine [0x61] [4]).machine ∧
      (s.writeFile [0x61] short).2.machine.files.content [0x61] = [4] ∧
      s.writeFile [0x61] gone = (.error (.abort .outOfBounds), s) := by
  intro made short gone s
  have made' : made.Made := by
    have whole : (Payload.storage ⟨[1, 2, 3, 4, 5], 8, by decide, by decide⟩).Made := .whole trivial
    have outer := whole.restrict (r := ⟨.included 1, .excluded 7⟩) rfl
    exact outer.restrict (r := ⟨.included 2, .excluded 5⟩) rfl
  have shrunk : made.resizeBase 4 0 = .ok short := rfl
  have shrunk' : short.resizeBase 2 0 = .ok gone := rfl
  have short' := made'.resizeBase shrunk
  obtain ⟨-, -, -, -, machine⟩ := (writeFile_inside short' s [0x61]).1 (by decide)
  have inside : short.inside = [4] := by decide
  rw [inside] at machine
  refine ⟨made', shrunk, shrunk', inside, machine, ?_, ?_⟩
  · decide +kernel
  · exact (writeFile_inside (short'.resizeBase shrunk') s [0x61]).2 (by decide)

end WholeFile.Scope
