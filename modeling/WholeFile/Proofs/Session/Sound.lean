import WholeFile.Proofs.Driver.Making
import WholeFile.Proofs.Platform.Sound
import WholeFile.Session

/-!
# Sessions that can be had

A session that starts with no drivers and no platforms has only ones that can be relied on, whatever
is done in it. A command changes one file at most, and its text says which.
-/

namespace WholeFile

/-! ## Tables -/

namespace Table

variable {κ α : Type} [BEq κ] [LawfulBEq κ] {P : α → Prop} {t : Table κ α}

/-- What is in the table has the property. -/
def All (P : α → Prop) (t : Table κ α) : Prop := ∀ k a, t.find? k = some a → P a

omit [LawfulBEq κ] in
theorem all_empty : All P ({} : Table κ α) := by
  intro k a h
  cases h

theorem All.insert (all : t.All P) (k : κ) {a : α} (new : P a) : (t.insert k a).All P := by
  intro j b h
  by_cases same : j = k
  · rw [same, find?_insert_self] at h
    cases h
    exact new
  · rw [find?_insert_of_ne t a same] at h
    exact all j b h

theorem All.erase (all : t.All P) (k : κ) : (t.erase k).All P := by
  intro j b h
  by_cases same : j = k
  · rw [same, find?_erase_self] at h
    cases h
  · rw [find?_erase_of_ne t same] at h
    exact all j b h

end Table

/-! ## Scopes -/

namespace Scope

structure Sound (s : Scope) : Prop where
  orderly : s.machine.schedule.Orderly
  drivers : s.drivers.All Driver.Settled

theorem Sound.force {s : Scope} (sound : s.Sound) (inForce : Option String) :
    Sound { s with inForce } := ⟨sound.orderly, sound.drivers⟩

/-- From `s` to `t`, no file but `target` has changed. -/
structure Moves (s : Scope) (target : Option Path) (t : Scope) : Prop where
  sound : t.Sound
  files : s.machine.files.AgreeOff target t.machine.files

variable {s t : Scope} {target : Option Path} {d : Driver} {m : Machine}

theorem moves_of_keeps (sound : s.Sound) (keeps : s.machine.Keeps target m) :
    s.Moves target { s with machine := m } :=
  ⟨⟨sound.orderly.of_leftOf keeps.before.schedule, sound.drivers⟩, keeps.files⟩

theorem Moves.name (moves : s.Moves target t) (name : String) (settled : d.Settled) :
    s.Moves target { t with drivers := t.drivers.insert name d } :=
  ⟨⟨moves.sound.orderly, moves.sound.drivers.insert name settled⟩, moves.files⟩

theorem Moves.unname (moves : s.Moves target t) (name : String) :
    s.Moves target { t with drivers := t.drivers.erase name } :=
  ⟨⟨moves.sound.orderly, moves.sound.drivers.erase name⟩, moves.files⟩

theorem settled_current (sound : s.Sound) : s.current.2.Settled := by
  unfold current
  split
  · exact trivial
  · split
    · exact trivial
    · next there => exact sound.drivers _ _ there

theorem perform_moves {ε α : Type} {operation : Driver → Machine → Run ε α} (sound : s.Sound)
    (name : Option String) (settled : (operation d s.machine).driver.Settled)
    (keeps : s.machine.Keeps target (operation d s.machine).machine) :
    s.Moves target (s.perform name d operation).2 := by
  have moved := moves_of_keeps sound keeps
  cases name with
  | none => exact moved
  | some name => exact moved.name name settled

/-- What runs inside blocks runs with some driver in force. -/
theorem withinAll_run {α : Type} (s : Scope) (names : List String) (body : Scope → α × Scope) :
    ∃ force t, body { s with inForce := force } = ((s.withinAll names body).1, t) ∧
      (s.withinAll names body).2.machine = t.machine ∧
      (s.withinAll names body).2.drivers = t.drivers := by
  induction names generalizing s with
  | nil => exact ⟨s.inForce, (body s).2, rfl, rfl, rfl⟩
  | cons name names ih =>
    -- A block takes back what is in force, so only the innermost one is seen by `body`.
    unfold withinAll
    split
    · exact ⟨s.inForce, (body s).2, rfl, rfl, rfl⟩
    · next d there =>
      unfold within
      rw [there]
      exact ih { s with inForce := some name }

theorem withinAll_moves {α : Type} (names : List String) {body : Scope → α × Scope}
    (moves : ∀ force, Moves { s with inForce := force } target (body { s with inForce := force }).2) :
    s.Moves target (s.withinAll names body).2 := by
  obtain ⟨force, t, ran, machine, drivers⟩ := s.withinAll_run names body
  have moved := moves force
  rw [ran] at moved
  refine ⟨⟨?_, ?_⟩, ?_⟩
  · rw [machine]
    exact moved.sound.orderly
  · rw [drivers]
    exact moved.sound.drivers
  · rw [machine]
    exact moved.files

theorem readWith_moves (sound : s.Sound) (name : Option String) (settled : d.Settled) (p : Path) :
    s.Moves none (s.perform name d fun d m => d.readFile m p).2 :=
  perform_moves sound name (Driver.settled_readFile settled sound.orderly p)
    (Driver.keeps_readFile settled sound.orderly p)

theorem writeWith_moves (sound : s.Sound) (name : Option String) (settled : d.Settled) (p : Path)
    (bytes : Bytes) : s.Moves (some p) (s.perform name d fun d m => d.writeFile m p bytes).2 :=
  perform_moves sound name (Driver.settled_writeFile settled sound.orderly p bytes)
    (Driver.keeps_writeFile settled sound.orderly p bytes)

theorem readFile_moves (sound : s.Sound) (p : Path) : s.Moves none (s.readFile p).2 :=
  readWith_moves sound _ (settled_current sound) p

theorem writeFile_moves (sound : s.Sound) (p : Path) (payload : Payload) :
    s.Moves (some p) (s.writeFile p payload).2 := by
  unfold writeFile
  split
  · exact moves_of_keeps sound (.refl s.machine)
  · exact writeWith_moves sound _ (settled_current sound) p _

end Scope

/-! ## Sessions -/

/-- The file that a command is told to change. -/
def HandleCommand.target? : HandleCommand → Option Path
  | write p => some p
  | _ => none

def Command.target? : Command → Option Path
  | putFile p _ => some p
  | unlink p => some p
  | writeWith _ p _ => some p
  | writeWithin _ p _ _ => some p
  | onPlatform _ _ c => c.target?
  | _ => none

/-- New answers are those of an orderly machine. -/
def Command.Orderly : Command → Prop
  | setSchedule s => s.Orderly
  | _ => True

namespace Session

structure Sound (s : Session) : Prop where
  scope : s.scope.Sound
  platforms : s.platforms.All Platform.Sound

theorem sound_new {m : Machine} (orderly : m.schedule.Orderly) :
    Sound { scope := { machine := m } } := ⟨⟨orderly, Table.all_empty⟩, Table.all_empty⟩

structure Moves (s : Session) (target : Option Path) (t : Session) : Prop where
  scope : s.scope.Moves target t.scope
  platforms : t.platforms.All Platform.Sound

variable {s t : Session} {target : Option Path} {m n : Machine} {p : Platform}

theorem Moves.sound (moves : s.Moves target t) : t.Sound := ⟨moves.scope.sound, moves.platforms⟩

theorem Moves.files (moves : s.Moves target t) :
    s.machine.files.AgreeOff target t.machine.files := moves.scope.files

theorem moves_refl (sound : s.Sound) : s.Moves target s :=
  ⟨⟨sound.scope, .of_eq rfl target⟩, sound.platforms⟩

theorem moves_scope (sound : s.Sound) {scope : Scope} (moves : s.scope.Moves target scope) :
    s.Moves target { s with scope } := ⟨moves, sound.platforms⟩

theorem moves_machine (sound : s.Sound) (keeps : s.machine.Keeps target m) :
    s.Moves target (s.withMachine m) :=
  moves_scope sound (Scope.moves_of_keeps sound.scope keeps)

theorem Moves.keep (moves : s.Moves target t) (keeps : t.machine.Keeps none m) :
    s.Moves target (t.withMachine m) := by
  have kept := moves_machine moves.sound keeps
  exact ⟨⟨kept.scope.sound, moves.files.trans (.of_eq kept.files target)⟩, kept.platforms⟩

theorem Moves.platform (moves : s.Moves target t) (name : String) (sound : p.Sound) :
    s.Moves target (t.withPlatform name p) := ⟨moves.scope, moves.platforms.insert name sound⟩

theorem Moves.handle (moves : s.Moves target t) (name : String) (h : Handle) :
    s.Moves target (t.withHandle name h) := ⟨moves.scope, moves.platforms⟩

theorem sound_platform (sound : s.Sound) (name : String) : (s.platform name).Sound := by
  unfold platform
  cases there : s.platforms.find? name with
  | none => exact Platform.sound_new trivial
  | some p => exact sound.platforms name p there

theorem sound_named (sound : s.Sound) (name : String) :
    Sound (s.withPlatform name (s.platform name)) :=
  ⟨sound.scope, sound.platforms.insert name (sound_platform sound name)⟩

/-- What an operation of a platform leaves behind goes into the session. -/
theorem moves_leaves (sound : s.Sound) (name : String) (leaves : p.Leaves s.machine target m) :
    s.Moves target ((s.withPlatform name p).withMachine m) :=
  (moves_machine sound leaves.keeps).platform name leaves.sound

/-! ## Commands on platforms -/

theorem keepFrom_moves (sound : s.Sound) (name variableName : String) {h : Handle}
    (leaves : p.Leaves s.machine target m) :
    s.Moves target (s.keepFrom name variableName (h, p, m)).2 :=
  (moves_leaves sound name leaves).handle variableName h

theorem runHandle_moves (sound : s.Sound) (name variableName : String) (c : HandleCommand) :
    s.Moves c.target? (s.runHandle name variableName c).2 := by
  have usable := sound_platform sound name
  have orderly : s.machine.schedule.Orderly := sound.scope.orderly
  have still : s.Moves none s := moves_refl sound
  cases c with
  | construct size => exact keepFrom_moves sound _ _ (Platform.construct_leaves usable _ _)
  | constructFrom data size =>
    exact keepFrom_moves sound _ _ (Platform.constructFrom_leaves usable _ _ _)
  | insert storage =>
    exact keepFrom_moves sound _ _ ⟨Platform.sound_insert usable _, .refl _⟩
  | read path =>
    have read := Platform.readFile_leaves usable orderly path
    simp only [runHandle]
    split
    · next there =>
      rw [there] at read
      exact moves_leaves sound name read
    · next there =>
      rw [there] at read
      exact keepFrom_moves sound name variableName read
  | write path =>
    exact moves_leaves sound name
      (Platform.writeFile_leaves usable orderly path (s.handle variableName))
  | forge | invalid | «alias» => exact still.handle _ _
  | compare | inspect | isValid | size | data | pointer => exact still
  | take =>
    simp only [runHandle]
    split
    · exact still
    · next taken => exact still.platform name (Platform.sound_take usable taken)
  | destruct => exact moves_leaves sound name (Platform.destruct_leaves usable _ _)
  | resize size => exact moves_leaves sound name (Platform.resize_leaves usable _ _ size)
  | poke pos bytes =>
    simp only [runHandle]
    split
    · exact still
    · split
      · exact still
      · next written => exact still.platform name (Platform.sound_overwrite? usable written)
  | fill byte =>
    simp only [runHandle]
    split
    · exact still
    · next filled => exact still.platform name (Platform.sound_fill usable filled)
  | get =>
    simp only [runHandle]
    split <;> exact still
  | getResized size =>
    simp only [runHandle]
    split
    · exact still
    · next resized => exact still.platform name (Platform.sound_edit usable resized)

/-! ## Commands -/

theorem dropReplaced_apart (old : Option Driver) (m : Machine) : m.Apart (dropReplaced old m) := by
  cases old with
  | none => exact .refl m
  | some d => exact d.apart_drop m

theorem makeDriver_apart (m : Machine) (request : DriverRequest) :
    m.Apart (makeDriver m request).2 := by
  cases request with
  | options o => exact Driver.apart_create m o
  | blocking => exact .refl m

theorem settled_makeDriver {request : DriverRequest} {d : Driver}
    (made : makeDriver m request = (.ok d, n)) : d.Settled := by
  cases request with
  | options o => exact Driver.settled_create made
  | blocking =>
    cases made
    trivial

theorem driverFor_moves (sound : s.Sound) (request : PlatformRequest) :
    s.Moves none (s.driverFor request).2 := by
  cases request with
  | blocking => exact moves_refl sound
  | options o => exact moves_machine sound ((Driver.apart_create s.machine o).keeps none)
  | driver name =>
    exact moves_scope sound (Scope.Moves.unname (moves_refl sound).scope name)

theorem settled_driverFor (sound : s.Sound) {request : PlatformRequest} {d : Driver}
    (made : (s.driverFor request).1 = .ok d) : d.Settled := by
  cases request with
  | blocking =>
    cases made
    trivial
  | options o =>
    exact Driver.settled_create (Prod.ext made rfl)
  | driver name =>
    cases there : s.scope.drivers.find? name with
    | none =>
      simp only [driverFor, there] at made
      cases made
      trivial
    | some d =>
      simp only [driverFor, there] at made
      cases made
      exact sound.scope.drivers name d there

theorem run_moves (sound : s.Sound) {c : Command} (orderly : c.Orderly) :
    s.Moves c.target? (s.run c).2 := by
  have still : s.Moves none s := moves_refl sound
  cases c with
  | putFile p node =>
    refine moves_scope sound ⟨⟨sound.scope.orderly, sound.scope.drivers⟩, ?_⟩
    exact fun q other => Table.find?_insert_of_ne _ _ other
  | unlink p =>
    refine moves_scope sound ⟨⟨sound.scope.orderly, sound.scope.drivers⟩, ?_⟩
    exact fun q other => Table.find?_erase_of_ne _ other
  | setSchedule schedule =>
    exact moves_scope sound ⟨⟨orderly, sound.scope.drivers⟩, rfl⟩
  | makeDriver name request =>
    have apart := makeDriver_apart s.machine request
    simp only [run]
    split
    · next made =>
      rw [made] at apart
      exact moves_machine sound (apart.keeps none)
    · next made =>
      rw [made] at apart
      have dropped := apart.trans (dropReplaced_apart (s.scope.drivers.find? name) _)
      exact moves_scope sound ((Scope.moves_of_keeps sound.scope (dropped.keeps none)).name name
        (settled_makeDriver made))
  | dropDriver name =>
    have dropped := dropReplaced_apart (s.scope.drivers.find? name) s.machine
    exact moves_scope sound ((Scope.moves_of_keeps sound.scope (dropped.keeps none)).unname name)
  | readWith driver p =>
    simp only [run]
    split
    · exact still
    · next there =>
      exact moves_scope sound
        (Scope.readWith_moves sound.scope _ (sound.scope.drivers _ _ there) p)
  | readWithin names p =>
    refine moves_scope sound (Scope.withinAll_moves names fun force => ?_)
    exact Scope.readFile_moves (sound.scope.force force) p
  | writeWith driver p bytes =>
    simp only [run]
    split
    · exact moves_refl sound
    · next there =>
      exact moves_scope sound
        (Scope.writeWith_moves sound.scope _ (sound.scope.drivers _ _ there) p bytes)
  | writeWithin names p payload ranges =>
    simp only [run]
    split
    · exact moves_refl sound
    · refine moves_scope sound (Scope.withinAll_moves names fun force => ?_)
      exact Scope.writeFile_moves (sound.scope.force force) p _
  | makePlatform name request =>
    have moves := driverFor_moves sound request
    simp only [run]
    split
    · next made =>
      rw [made] at moves
      exact moves
    · next d t made =>
      rw [made] at moves
      have settled : d.Settled := settled_driverFor sound (congrArg Prod.fst made)
      have dropped := dropReplaced_apart ((t.platforms.find? name).map Platform.driver) t.machine
      exact (moves.keep (dropped.keeps none)).platform name (Platform.sound_new settled)
  | onPlatform platform handle c =>
    have moved := runHandle_moves (sound_named sound platform) platform handle c
    exact ⟨moved.scope, moved.platforms⟩

/-- The session with a journal for its next command alone. -/
def afresh (s : Session) : Session := s.withMachine { s.machine with journal := [] }

theorem sound_afresh (sound : s.Sound) : s.afresh.Sound :=
  ⟨⟨sound.scope.orderly, sound.scope.drivers⟩, sound.platforms⟩

theorem step_moves (sound : s.Sound) {c : Command} (orderly : c.Orderly) :
    s.Moves c.target? (s.step c).2 := by
  have moved := run_moves (sound_afresh sound) orderly
  exact ⟨⟨moved.scope.sound, moved.files⟩, moved.platforms⟩

theorem sound_steps (sound : s.Sound) {cs : List Command} (orderly : ∀ c ∈ cs, c.Orderly) :
    (s.steps cs).2.Sound := by
  induction cs generalizing s with
  | nil => exact sound
  | cons c rest ih =>
    have first := step_moves sound (orderly c List.mem_cons_self)
    exact ih first.sound fun c' mem => orderly c' (List.mem_cons_of_mem _ mem)

/-- A file stays as it is for as long as no command is told to change it. -/
theorem find?_steps (sound : s.Sound) {cs : List Command} (orderly : ∀ c ∈ cs, c.Orderly)
    {p : Path} (others : ∀ c ∈ cs, c.target? ≠ some p) :
    (s.steps cs).2.machine.files.find? p = s.machine.files.find? p := by
  induction cs generalizing s with
  | nil => rfl
  | cons c rest ih =>
    have first := step_moves sound (orderly c List.mem_cons_self)
    have later := ih first.sound (fun c' mem => orderly c' (List.mem_cons_of_mem _ mem))
      (fun c' mem => others c' (List.mem_cons_of_mem _ mem))
    exact later.trans (first.files.find? (others c List.mem_cons_self))

end Session

end WholeFile
