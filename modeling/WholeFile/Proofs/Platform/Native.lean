import WholeFile.Proofs.Driver.Revised
import WholeFile.Proofs.Platform.Operations

/-!
# Platforms and programs without handles

A platform does what a program does that has a variable for each buffer and makes the calls itself.
Both have the same bytes and do the same to the kernel, and one fails where the other does.
-/

namespace WholeFile

/-! ## Without handles -/

/-- A program with its own buffers. A variable goes by the handle that the platform gives out for
the same buffer. -/
structure Native where
  machine : Machine
  driver : Driver
  buffers : Table Handle Buffer := {}

/-- What came of the call that the program makes for an operation. -/
inductive Called where
  | done
  | failed (cause : Error)
  | aborted (cause : Abort)
  /-- There is no call to make: the variable is gone, or there are fewer bytes than asked for. -/
  | skipped

namespace Native

/-- Keeps the buffer that a call gave. -/
def keep (n : Native) (name : Handle) : Except Error Buffer → Called × Native
  | .ok b => (.done, { n with buffers := n.buffers.insert name b })
  | .error e => (.failed e, n)

/-- Makes a call for the buffer in a variable. -/
def onVariable (n : Native) (h : Handle) (call : Buffer → Called × Native) : Called × Native :=
  match n.buffers.find? h with
  | none => (.skipped, n)
  | some b => call b

/-- The call for an operation. If it makes a buffer, that gets the given name. -/
def step (n : Native) (name : Handle) : Operation → Called × Native
  | .construct size => n.keep name ((Buffer.withSize size).mapError .alloc)
  | .constructFrom data size =>
    if size ≤ data.length then n.keep name ((Buffer.copyOf (data.take size)).mapError .alloc)
    else (.skipped, n)
  | .insert b => n.keep name (.ok b)
  | .readFile path =>
    let run := n.driver.readFile n.machine path
    let n := { n with machine := run.machine, driver := run.driver }
    match run.result with
    | .error (.abort cause) => (.aborted cause, n)
    | .error (.error e) => n.keep name (.error e)
    | .ok b => n.keep name (.ok b)
  | .take h => n.onVariable h fun _ => (.done, { n with buffers := n.buffers.erase h })
  | .destruct h => (.done, { n with buffers := n.buffers.erase h })
  | .resize h size => n.onVariable h fun b => n.keep h ((b.resize size).mapError .alloc)
  | .writeFile path h => n.onVariable h fun b =>
    let run := n.driver.writeFile n.machine path b.bytes
    let n := { n with machine := run.machine, driver := run.driver }
    match run.result with
    | .ok () => (.done, n)
    | .error e => (.failed e, n)
  | .overwrite h pos bytes => n.onVariable h fun b =>
    match b.overwrite? pos bytes with
    | none => (.skipped, n)
    | some b => n.keep h (.ok b)
  | .fill h byte => n.onVariable h fun b => n.keep h (.ok (b.fill byte))

end Native

/-! ## What an operation needs -/

/-- What the operation is given is not there, or not as much of it as it asks for. -/
def Operation.Lacks (p : Platform) : Operation → Prop
  | constructFrom data size => data.length < size
  | overwrite h pos bytes => p.isValid h = false ∨ p.size h < pos + bytes.length
  | take h | resize h _ | writeFile _ h | fill h _ => p.isValid h = false
  | construct _ | insert _ | readFile _ | destruct _ => False

namespace Native

variable {n : Native} {h : Handle} {call : Buffer → Called × Native}

theorem keep_ne_skipped (n : Native) (name : Handle) (result : Except Error Buffer) :
    (n.keep name result).1 ≠ .skipped := by
  cases result <;> exact nofun

theorem onVariable_skipped_iff (h : Handle) :
    (n.onVariable h call).1 = .skipped ↔
      n.buffers.find? h = none ∨ ∃ b, n.buffers.find? h = some b ∧ (call b).1 = .skipped := by
  unfold onVariable
  cases n.buffers.find? h <;> simp

/-- Only what lacks something is not called for. -/
theorem step_skipped_iff {p : Platform} (same : ∀ h, p.arena.get? h = n.buffers.find? h)
    (name : Handle) (op : Operation) : (n.step name op).1 = .skipped ↔ op.Lacks p := by
  have gone (h : Handle) : p.isValid h = false ↔ n.buffers.find? h = none := by
    rw [Platform.isValid_eq_false_iff, same]
  have only {h : Handle} {call : Buffer → Called × Native} (calls : ∀ b, (call b).1 ≠ .skipped) :
      (n.onVariable h call).1 = .skipped ↔ p.isValid h = false := by
    rw [gone, onVariable_skipped_iff]
    simp [calls]
  cases op with
  | construct size => exact iff_of_false (n.keep_ne_skipped name _) id
  | constructFrom data size =>
    by_cases fits : size ≤ data.length
    · simp only [step, if_pos fits, Operation.Lacks, keep_ne_skipped, false_iff]
      omega
    · simp only [step, if_neg fits, Operation.Lacks, true_iff]
      omega
  | insert b => exact iff_of_false (n.keep_ne_skipped name _) id
  | readFile path =>
    refine ⟨fun h => ?_, False.elim⟩
    simp only [step] at h
    split at h
    · cases h
    · exact keep_ne_skipped _ _ _ h
    · exact keep_ne_skipped _ _ _ h
  | take h => exact only fun b => nofun
  | destruct h => exact ⟨nofun, False.elim⟩
  | resize h size => exact only fun b => n.keep_ne_skipped h _
  | writeFile path h =>
    refine only fun b => ?_
    simp only
    split <;> exact nofun
  | overwrite h pos bytes =>
    refine (onVariable_skipped_iff h).trans ?_
    rw [← gone]
    cases there : p.arena.get? h with
    | none => simp [Operation.Lacks, Platform.isValid_eq_false_iff, there]
    | some b =>
      have size : p.size h = b.size := by simp [Platform.size, there]
      rw [← same, Operation.Lacks, size, ← Buffer.overwrite?_eq_none_iff]
      cases hb : b.overwrite? pos bytes <;> simp [there, hb, n.keep_ne_skipped]
  | fill h byte => exact only fun b => n.keep_ne_skipped h _

end Native

/-! ## One operation -/

/-- The platform has under each handle what the program has in the variable. -/
structure Platform.Tracks (p : Platform) (m : Machine) (n : Native) : Prop where
  buffers : ∀ h, p.arena.get? h = n.buffers.find? h
  driver : p.driver = n.driver
  machine : m.Matches n.machine

/-- The operation failed if the call did, or if there was none to make. -/
structure Outcome.Agrees (o : Outcome) (c : Called) : Prop where
  sentinel : o.sentinel = true ↔ (∃ e, c = .failed e) ∨ c = .skipped
  aborted : ∀ cause, o = .aborted cause ↔ c = .aborted cause

theorem Outcome.agrees_failed {o : Outcome} (failed : o.sentinel = true) (e : Error) :
    o.Agrees (.failed e) := by
  refine ⟨by simp [failed], fun cause => ?_⟩
  constructor
  · rintro rfl
    cases failed
  · intro h
    cases h

theorem Outcome.agrees_skipped {o : Outcome} (failed : o.sentinel = true) : o.Agrees .skipped := by
  refine ⟨by simp [failed], fun cause => ?_⟩
  constructor
  · rintro rfl
    cases failed
  · intro h
    cases h

theorem Outcome.agrees_done {o : Outcome} (ok : o.sentinel = false)
    (ended : ∀ cause, o ≠ .aborted cause) : o.Agrees .done :=
  ⟨by simp [ok], fun cause => by simp [ended cause]⟩

theorem Outcome.agrees_aborted (cause : Abort) : (Outcome.aborted cause).Agrees (.aborted cause) :=
  ⟨by simp [sentinel], by simp⟩

/-- The name for the buffer that an operation makes. -/
def Outcome.name : Outcome → Handle
  | handle h => h
  | _ => .invalid

namespace Platform

variable {p : Platform} {m : Machine} {n : Native} {h : Handle} {b : Buffer}

theorem Tracks.note (tracks : p.Tracks m n) (message : String) : p.Tracks (note m message) n :=
  ⟨tracks.buffers, tracks.driver, (Machine.matches_log ..).trans tracks.machine⟩

theorem Tracks.inserted (tracks : p.Tracks m n) (sound : p.arena.Sound) (b : Buffer) :
    Tracks { p with arena := (p.arena.insert b).2 } m (n.keep (p.arena.insert b).1 (.ok b)).2 := by
  refine ⟨fun g => ?_, tracks.driver, tracks.machine⟩
  change (p.arena.insert b).2.get? g = (n.buffers.insert (p.arena.insert b).1 b).find? g
  by_cases same : g = (p.arena.insert b).1
  · rw [same, Arena.get?_insert_self sound, Table.find?_insert_self]
  · rw [Arena.get?_insert_of_ne sound b same, Table.find?_insert_of_ne _ _ same, tracks.buffers]

theorem Tracks.changed (tracks : p.Tracks m n) (there : p.arena.get? h = some b) (c : Buffer) :
    Tracks { p with arena := p.arena.set h c } m (n.keep h (.ok c)).2 := by
  refine ⟨fun g => ?_, tracks.driver, tracks.machine⟩
  change (p.arena.set h c).get? g = (n.buffers.insert h c).find? g
  by_cases same : g = h
  · have live := Arena.contains_eq_true_iff.2 ⟨b, there⟩
    rw [same, Arena.get?_set_self live, Table.find?_insert_self]
  · rw [Arena.get?_set_of_ne c same, Table.find?_insert_of_ne _ _ same, tracks.buffers]

theorem Tracks.removed (tracks : p.Tracks m n) {arena : Arena Buffer}
    (taken : p.arena.remove h = some (b, arena)) :
    Tracks { p with arena } m { n with buffers := n.buffers.erase h } := by
  refine ⟨fun g => ?_, tracks.driver, tracks.machine⟩
  change arena.get? g = (n.buffers.erase h).find? g
  by_cases same : g = h
  · rw [same, (Arena.remove_eq_some taken).2, Table.find?_erase_self]
  · rw [Arena.get?_remove_of_ne taken same, Table.find?_erase_of_ne _ same, tracks.buffers]

theorem Tracks.absent (tracks : p.Tracks m n) (gone : p.arena.get? h = none) :
    p.Tracks m { n with buffers := n.buffers.erase h } := by
  refine ⟨fun g => ?_, tracks.driver, tracks.machine⟩
  change p.arena.get? g = (n.buffers.erase h).find? g
  by_cases same : g = h
  · rw [same, gone, Table.find?_erase_self]
  · rw [Table.find?_erase_of_ne _ same, tracks.buffers]

/-- What an operation of the platform leaves is what the call leaves. -/
def Follows (r : Outcome × Platform × Machine) (c : Called × Native) : Prop :=
  r.1.Agrees c.1 ∧ r.2.1.Tracks r.2.2 c.2

theorem Tracks.insertResult (tracks : p.Tracks m n) (bounded : p.arena.Bounded)
    (result : Except Error Buffer) (room : (p.insertResult m result).2.1.count ≤ Arena.limit) :
    Follows (.handle (p.insertResult m result).1, (p.insertResult m result).2)
      (n.keep (p.insertResult m result).1 result) := by
  cases result with
  | error e => exact ⟨Outcome.agrees_failed rfl e, tracks.note _⟩
  | ok b =>
    -- In a full arena the handle would be the null one, and look like a failure.
    have present := (bounded.insert b room).2
    exact ⟨Outcome.agrees_done present (by simp), tracks.inserted bounded.sound b⟩

theorem Tracks.onVariable (tracks : p.Tracks m n) (h : Handle) {call : Buffer → Called × Native}
    {r : Outcome × Platform × Machine}
    (gone : p.arena.get? h = none → r.1.sentinel = true ∧ r.2.1.Tracks r.2.2 n)
    (there : ∀ b, p.arena.get? h = some b → Follows r (call b)) :
    Follows r (n.onVariable h call) := by
  unfold Native.onVariable
  rw [← tracks.buffers]
  cases hg : p.arena.get? h with
  | none => exact ⟨Outcome.agrees_skipped (gone hg).1, (gone hg).2⟩
  | some b => exact there b hg

/-- A reading by the platform goes as the program's own. -/
theorem Tracks.readFile (tracks : p.Tracks m n) (bounded : p.arena.Bounded) {path : Path}
    (room : (p.step m (.readFile path)).2.1.count ≤ Arena.limit) :
    Follows (p.step m (.readFile path)) (n.step (p.step m (.readFile path)).1.name
      (.readFile path)) := by
  obtain ⟨result, driver, machine⟩ := tracks.machine.run (p.driver.readFile · path)
    fun m past => p.driver.readFile_revised m past path
  rw [tracks.driver] at result driver machine
  have moved : Tracks { p with driver := (n.driver.readFile m path).driver }
      (n.driver.readFile m path).machine
      { n with
        machine := (n.driver.readFile n.machine path).machine
        driver := (n.driver.readFile n.machine path).driver } :=
    ⟨tracks.buffers, driver, machine⟩
  simp only [Platform.step, Platform.readFile, tracks.driver, Native.step] at room ⊢
  rw [← result]
  cases hr : (n.driver.readFile m path).result with
  | ok b =>
    rw [hr] at room
    exact moved.insertResult bounded (.ok b) room
  | error cause =>
    rw [hr] at room
    cases cause with
    | abort cause => exact ⟨Outcome.agrees_aborted cause, moved⟩
    | error e => exact moved.insertResult bounded (.error e) room

theorem Tracks.writeFile (tracks : p.Tracks m n) (path : Path) (h : Handle) (name : Handle) :
    Follows (p.step m (.writeFile path h)) (n.step name (.writeFile path h)) := by
  refine tracks.onVariable h ?_ ?_
  · intro gone
    simp only [Platform.step, Platform.writeFile, get_of_none gone]
    exact ⟨rfl, tracks.note _⟩
  · intro b there
    obtain ⟨result, driver, machine⟩ := tracks.machine.run (p.driver.writeFile · path b.bytes)
      fun m past => p.driver.writeFile_revised m past path b.bytes
    rw [tracks.driver] at result driver machine
    have moved : Tracks { p with driver := (n.driver.writeFile m path b.bytes).driver }
        (n.driver.writeFile m path b.bytes).machine
        { n with
          machine := (n.driver.writeFile n.machine path b.bytes).machine
          driver := (n.driver.writeFile n.machine path b.bytes).driver } :=
      ⟨tracks.buffers, driver, machine⟩
    simp only [Platform.step, Platform.writeFile, get_of_some there, tracks.driver]
    rw [← result]
    cases (n.driver.writeFile m path b.bytes).result with
    | ok => exact ⟨Outcome.agrees_done rfl (by simp), moved⟩
    | error e => exact ⟨Outcome.agrees_failed rfl e, moved.note _⟩

theorem Tracks.step (tracks : p.Tracks m n) (bounded : p.arena.Bounded) {op : Operation}
    (room : (p.step m op).2.1.count ≤ Arena.limit) :
    Follows (p.step m op) (n.step (p.step m op).1.name op) := by
  cases op with
  | construct size => exact tracks.insertResult bounded _ room
  | constructFrom data size =>
    by_cases fits : size ≤ data.length
    · simp only [Platform.step, constructFrom, if_pos fits, Native.step] at room ⊢
      exact tracks.insertResult bounded _ room
    · simp only [Platform.step, constructFrom, if_neg fits, Native.step]
      exact ⟨Outcome.agrees_skipped rfl, tracks.note _⟩
  | insert b =>
    exact ⟨Outcome.agrees_done (bounded.insert b room).2 (by simp [Platform.step]),
      tracks.inserted bounded.sound b⟩
  | readFile path => exact tracks.readFile bounded room
  | take h =>
    refine tracks.onVariable h ?_ ?_
    · intro gone
      have none := Arena.remove_eq_none_iff.2 (isValid_eq_false_iff.2 gone)
      simp only [Platform.step, take_eq, none]
      exact ⟨rfl, tracks⟩
    · intro b there
      obtain ⟨arena, taken⟩ := Arena.exists_remove there
      simp only [Platform.step, take_eq, taken]
      exact ⟨Outcome.agrees_done rfl (by simp), tracks.removed taken⟩
  | destruct h =>
    cases there : p.arena.get? h with
    | none =>
      have none := Arena.remove_eq_none_iff.2 (isValid_eq_false_iff.2 there)
      simp only [Platform.step, destruct, none, Native.step]
      exact ⟨Outcome.agrees_done rfl (by simp), (tracks.absent there).note _⟩
    | some b =>
      obtain ⟨arena, taken⟩ := Arena.exists_remove there
      simp only [Platform.step, destruct, taken, Native.step]
      exact ⟨Outcome.agrees_done rfl (by simp), tracks.removed taken⟩
  | resize h size =>
    refine tracks.onVariable h ?_ ?_
    · intro gone
      simp only [Platform.step, resize, resizeBuffer_of_none gone]
      exact ⟨rfl, tracks.note _⟩
    · intro b there
      simp only [Platform.step, resize, resizeBuffer_of_some there]
      cases b.resize size with
      | error e => exact ⟨Outcome.agrees_failed rfl _, tracks.note _⟩
      | ok c => exact ⟨Outcome.agrees_done rfl (by simp), tracks.changed there c⟩
  | writeFile path h => exact tracks.writeFile path h _
  | overwrite h pos bytes =>
    refine tracks.onVariable h ?_ ?_
    · intro gone
      simp only [Platform.step, overwrite?_of_none gone]
      exact ⟨rfl, tracks⟩
    · intro b there
      simp only [Platform.step, overwrite?_of_some there]
      cases b.overwrite? pos bytes with
      | none => exact ⟨Outcome.agrees_skipped rfl, tracks⟩
      | some c => exact ⟨Outcome.agrees_done rfl (by simp), tracks.changed there c⟩
  | fill h byte =>
    refine tracks.onVariable h ?_ ?_
    · intro gone
      simp only [Platform.step, fill, gone]
      exact ⟨rfl, tracks⟩
    · intro b there
      simp only [Platform.step, fill, there]
      exact ⟨Outcome.agrees_done rfl (by simp), tracks.changed there _⟩

end Platform

end WholeFile
