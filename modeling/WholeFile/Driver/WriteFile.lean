import WholeFile.Driver.ReadFile

/-!
# Writing a whole file

The file is emptied when it is opened and written from the front. What a failing write has put
there stays. The file is closed however the writing ends; where all bytes were written, a failure
to close it is a failure of the write.
-/

namespace WholeFile

namespace Host

/-- Writes `bytes` from position `written` on. Gives the position that was reached. -/
def writeAll (h : Host) (fd : Descriptor) (bytes : Bytes) (written : Nat) :
    Except Error Nat × Host :=
  if written < bytes.length then
    let a := h.writeAt fd written (bytes.drop written)
    match a.result with
    | .error e => (.error (.io e), a.host)
    | .ok 0 => (.error (.shortWrite bytes.length written), a.host)
    | .ok (n + 1) => a.host.writeAll fd bytes (written + (n + 1))
  else (.ok written, h)
termination_by bytes.length - written

/-- Writes an open file and closes it. -/
def writeOpen (h : Host) (fd : Descriptor) (p : Path) (bytes : Bytes) : Except Error Unit × Host :=
  match h.writeAll fd bytes 0 with
  | (.error cause, h) => (.error cause, { h with machine := (h.machine.close fd).2 })
  | (.ok written, h) =>
    match h.machine.close fd with
    | (.error e, machine) => (.error (.io (.os e)), { h with machine })
    | (.ok (), machine) =>
      let message := s!"wrote file path={Text.lossy p} len={written}"
      (.ok (), { h with machine := machine.log .debug .driver message })

end Host

/-- Replaces the content of the file at `p`, which is created if it is not there. -/
def Driver.writeFile (d : Driver) (m : Machine) (p : Path) (bytes : Bytes) : Run Error Unit :=
  match m.openPath p .replace d.fileMode with
  | (.error e, m) => ⟨.error (.io e), d, m⟩
  | (.ok fd, m) =>
    let (result, h) := Host.writeOpen ⟨m, d.backend⟩ fd p bytes
    ⟨result, { d with backend := h.backend }, h.machine⟩

end WholeFile
