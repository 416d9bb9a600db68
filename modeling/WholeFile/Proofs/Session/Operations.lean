import WholeFile.Proofs.Platform.Operations
import WholeFile.Proofs.Session.Sound

/-!
# What commands do to platforms

A command with a handle is an operation of a platform, and is answered with what came of it, or it
only asks. All that commands do to the platforms of a session is done by operations and by putting
new ones in place, so a session has to run for long to fill an arena.
-/

namespace WholeFile

/-! ## Commands and operations -/

/-- The operation that a command carries out with the handle `h`, if it does more than to ask or to
change bytes. -/
def HandleCommand.operation? (h : Handle) : HandleCommand → Option Operation
  | construct n => some (.construct n)
  | constructFrom bytes n => some (.constructFrom bytes n)
  | insert storage => some (.insert (.ofStorage storage))
  | read p => some (.readFile p)
  | write p => some (.writeFile p h)
  | take => some (.take h)
  | destruct => some (.destruct h)
  | resize n => some (.resize h n)
  | _ => none

/-- The reply tells what came of an operation. -/
inductive Outcome.Shows : Outcome → Reply → Prop
  | handle (valid : Bool) (size : Nat) (data : Option Bytes) (h : Handle) :
      Shows (.handle h) (.created valid size data h)
  | flag (ok : Bool) : Shows (.flag ok) (.flag ok)
  | resized (ok : Bool) (size : Nat) (data : Option Bytes) :
      Shows (.flag ok) (.resized ok size data)
  | taken (b : Option Buffer) : Shows (.taken b) (.data (b.map Buffer.bytes))
  /-- Whether the handle is valid afterwards. -/
  | released (valid : Bool) : Shows .released (.flag valid)
  | aborted (cause : Abort) : Shows (.aborted cause) (.failed (.abort cause))

namespace Session

variable {s : Session} {c : Command} {name other variableName : String} {q : Platform}

theorem platform_withPlatform (s : Session) (name : String) (q : Platform) :
    (s.withPlatform name q).platform name = q := by
  unfold platform withPlatform
  rw [Table.find?_insert_self]
  rfl

/-- A platform that is put where it is already changes nothing. -/
theorem platform_withPlatform_self (s : Session) (name other : String) :
    (s.withPlatform name (s.platform name)).platform other = s.platform other := by
  by_cases same : other = name
  · rw [same, platform_withPlatform]
  · rw [platform, withPlatform, Table.find?_insert_of_ne _ _ same]
    rfl

/-- What becomes of a session by a command that is an operation. -/
structure Operates (s : Session) (name : String) (op : Operation) (reply : Reply) (t : Session) :
    Prop where
  reply : ((s.platform name).step s.machine op).1.Shows reply
  platform : t.platform name = ((s.platform name).step s.machine op).2.1
  machine : t.machine = ((s.platform name).step s.machine op).2.2

theorem runHandle_of_operation {hc : HandleCommand} {op : Operation}
    (operates : hc.operation? (s.handle variableName) = some op) :
    s.Operates name op (s.runHandle name variableName hc).1
      (s.runHandle name variableName hc).2 := by
  have put (q : Platform) : (s.withPlatform name q).platform name = q :=
    platform_withPlatform s name q
  cases hc with
  | construct | constructFrom | insert =>
    cases operates
    exact ⟨.handle .., put _, rfl⟩
  | read path =>
    cases operates
    simp only [runHandle]
    cases read : (s.platform name).readFile s.machine path with
    | mk answer rest =>
      cases answer with
      | error cause =>
        have given : (s.platform name).step s.machine (.readFile path) =
            (.aborted cause, rest.1, rest.2) := by simp only [Platform.step, read]
        refine ⟨?_, ?_, ?_⟩ <;> rw [given]
        · exact .aborted cause
        · exact put _
        · rfl
      | ok h =>
        have given : (s.platform name).step s.machine (.readFile path) =
            (.handle h, rest.1, rest.2) := by simp only [Platform.step, read]
        refine ⟨?_, ?_, ?_⟩ <;> rw [given]
        · exact .handle ..
        · exact put _
        · rfl
  | write path =>
    cases operates
    exact ⟨.flag _, put _, rfl⟩
  | take =>
    cases operates
    simp only [runHandle]
    cases taken : (s.platform name).take (s.handle variableName) with
    | none =>
      have given : (s.platform name).step s.machine (.take (s.handle variableName)) =
          (.taken none, s.platform name, s.machine) := by simp only [Platform.step, taken]
      refine ⟨?_, ?_, ?_⟩ <;> rw [given]
      exact .taken none
    | some got =>
      have given : (s.platform name).step s.machine (.take (s.handle variableName)) =
          (.taken (some got.1), got.2, s.machine) := by simp only [Platform.step, taken]
      refine ⟨?_, ?_, ?_⟩ <;> rw [given]
      · exact .taken (some got.1)
      · exact put _
      · rfl
  | destruct =>
    cases operates
    exact ⟨.released _, put _, rfl⟩
  | resize size =>
    cases operates
    exact ⟨.resized .., put _, rfl⟩
  | _ => cases operates

theorem machine_runHandle_of_none {hc : HandleCommand}
    (asks : hc.operation? (s.handle variableName) = none) :
    (s.runHandle name variableName hc).2.machine = s.machine := by
  cases hc with
  | construct | constructFrom | insert | read | write | take | destruct | resize => cases asks
  | poke | fill | get | getResized =>
    simp only [runHandle]
    repeat' split
    all_goals rfl
  | _ => rfl

/-! ## Platforms -/

theorem find?_withPlatform {p : Platform}
    (there : (s.withPlatform name p).platforms.find? other = some q) :
    s.platforms.find? other = some q ∨ other = name ∧ q = p := by
  by_cases same : other = name
  · subst same
    exact .inr ⟨rfl, Option.some.inj (there.symm.trans (Table.find?_insert_self ..))⟩
  · rw [withPlatform, Table.find?_insert_of_ne _ _ same] at there
    exact .inl there

/-- What a platform is after a command with a handle, it was before, or it has become by an
operation. -/
theorem find?_runHandle {hc : HandleCommand}
    (there : (s.runHandle name variableName hc).2.platforms.find? other = some q) :
    s.platforms.find? other = some q ∨
      other = name ∧ ∃ m op, q = ((s.platform name).step m op).2.1 := by
  have stepped (op : Operation)
      (there : (s.withPlatform name ((s.platform name).step s.machine op).2.1).platforms.find? other
        = some q) :
      s.platforms.find? other = some q ∨
        other = name ∧ ∃ m op, q = ((s.platform name).step m op).2.1 := by
    rcases find?_withPlatform there with old | ⟨same, new⟩
    · exact .inl old
    · exact .inr ⟨same, _, op, new⟩
  cases hc with
  | construct size => exact stepped (.construct size) there
  | constructFrom data size => exact stepped (.constructFrom data size) there
  | insert storage => exact stepped (.insert (.ofStorage storage)) there
  | write path => exact stepped (.writeFile path (s.handle variableName)) there
  | destruct => exact stepped (.destruct (s.handle variableName)) there
  | resize size => exact stepped (.resize (s.handle variableName) size) there
  | read path =>
    refine stepped (.readFile path) ?_
    simp only [runHandle] at there
    simp only [Platform.step]
    cases hr : (s.platform name).readFile s.machine path with
    | mk answer rest =>
      rw [hr] at there
      cases answer <;> exact there
  | take =>
    simp only [runHandle] at there
    cases ht : (s.platform name).take (s.handle variableName) with
    | none =>
      rw [ht] at there
      exact .inl there
    | some taken =>
      rw [ht] at there
      refine stepped (.take (s.handle variableName)) ?_
      simp only [Platform.step, ht]
      exact there
  | poke pos bytes =>
    simp only [runHandle] at there
    split at there
    · exact .inl there
    · split at there
      · exact .inl there
      · next p ho =>
        refine stepped (.overwrite (s.handle variableName) pos bytes) ?_
        simp only [Platform.step, ho]
        exact there
  | fill byte =>
    simp only [runHandle] at there
    split at there
    · exact .inl there
    · next p hf =>
      refine stepped (.fill (s.handle variableName) byte) ?_
      simp only [Platform.step, hf]
      exact there
  | get =>
    simp only [runHandle] at there
    split at there <;> exact .inl there
  | getResized size =>
    simp only [runHandle] at there
    split at there
    · exact .inl there
    · next p hr =>
      refine stepped (.resize (s.handle variableName) size) ?_
      simp only [Platform.step, Platform.resize, hr]
      exact there
  | forge | invalid | «alias» | compare | inspect | isValid | size | data | pointer =>
    exact .inl there

theorem platforms_driverFor (s : Session) (request : PlatformRequest) :
    (s.driverFor request).2.platforms = s.platforms := by
  cases request <;> rfl

/-- What a platform is after a command, it was before, or it is new, or it has become by an
operation. -/
theorem find?_run (there : (s.run c).2.platforms.find? name = some q) :
    s.platforms.find? name = some q ∨ (∃ d, q = { driver := d }) ∨
      ∃ m op, q = ((s.platform name).step m op).2.1 := by
  cases c with
  | putFile | unlink | setSchedule | dropDriver | readWithin => exact .inl there
  | makeDriver | readWith | writeWith | writeWithin =>
    simp only [run] at there
    split at there <;> exact .inl there
  | makePlatform target request =>
    have kept := s.platforms_driverFor request
    simp only [run] at there
    split at there
    · next made =>
      rw [made] at kept
      rw [kept] at there
      exact .inl there
    · next d t made =>
      rw [made] at kept
      rcases find?_withPlatform (s := t) there with old | ⟨-, new⟩
      · rw [kept] at old
        exact .inl old
      · exact .inr (.inl ⟨d, new⟩)
  | onPlatform target handle hc =>
    -- A platform that was not there is made before it is used.
    rcases find?_runHandle there with old | ⟨rfl, m, op, new⟩
    · rcases find?_withPlatform old with older | ⟨rfl, new⟩
      · exact .inl older
      · unfold platform at new
        cases known : s.platforms.find? name with
        | none =>
          rw [known] at new
          exact .inr (.inl ⟨.blocking, new⟩)
        | some p =>
          rw [known] at new
          exact .inl (congrArg some new.symm)
    · rw [platform_withPlatform_self] at new
      exact .inr (.inr ⟨m, op, new⟩)

/-! ## Arenas -/

/-- No arena is ever too full for another slot to have an index. -/
def Roomy (s : Session) (history : List Command) : Prop :=
  ∀ before, before <+: history →
    (s.steps before).2.platforms.All fun p => p.count ≤ Arena.limit

/-- What holds of all platforms holds of one that is made on its first use. -/
theorem all_platform {P : Platform → Prop} (all : s.platforms.All P) (new : ∀ d, P { driver := d })
    (name : String) : P (s.platform name) := by
  unfold platform
  cases there : s.platforms.find? name with
  | none => exact new .blocking
  | some p => exact all name p there

theorem bounded_new (d : Driver) : (Platform.mk {} d).arena.Bounded := Arena.bounded_empty

theorem bounded_run (bounded : s.platforms.All (·.arena.Bounded))
    (room : (s.run c).2.platforms.All fun p => p.count ≤ Arena.limit) :
    (s.run c).2.platforms.All (·.arena.Bounded) := by
  intro name q there
  have fits := room name q there
  rcases find?_run there with old | ⟨d, rfl⟩ | ⟨m, op, rfl⟩
  · exact bounded name q old
  · exact bounded_new d
  · exact (Platform.bounded_step (all_platform bounded bounded_new name) fits).1

theorem bounded_steps {history : List Command} (bounded : s.platforms.All (·.arena.Bounded))
    (roomy : s.Roomy history) : (s.steps history).2.platforms.All (·.arena.Bounded) := by
  induction history generalizing s with
  | nil => exact bounded
  | cons c rest ih =>
    have first : (s.step c).2.platforms.All (·.arena.Bounded) :=
      bounded_run (s := s.afresh) bounded (roomy [c] ⟨rest, rfl⟩)
    refine ih first fun before earlier => ?_
    exact roomy (c :: before) (List.cons_prefix_cons.2 ⟨rfl, earlier⟩)


/-- The arena can be relied on, and it holds `n` buffers at most. -/
structure Few (n : Nat) (p : Platform) : Prop where
  sound : p.arena.Sound
  count : p.count ≤ n

theorem few_new (n : Nat) (d : Driver) : Few n { driver := d } := ⟨Arena.sound_empty, Nat.zero_le n⟩

/-- A command makes at most one buffer. -/
theorem few_run {n : Nat} (few : s.platforms.All (Few n)) (c : Command) :
    (s.run c).2.platforms.All (Few (n + 1)) := by
  intro name q there
  rcases find?_run there with old | ⟨d, rfl⟩ | ⟨m, op, rfl⟩
  · obtain ⟨sound, count⟩ := few name q old
    exact ⟨sound, Nat.le_succ_of_le count⟩
  · exact few_new _ d
  · obtain ⟨sound, count⟩ := all_platform few (few_new n) name
    exact ⟨Platform.sound_step sound m op,
      Nat.le_trans (Platform.count_step sound m op) (Nat.succ_le_succ count)⟩

theorem few_steps {n : Nat} (few : s.platforms.All (Few n)) (history : List Command) :
    (s.steps history).2.platforms.All (Few (n + history.length)) := by
  induction history generalizing s n with
  | nil => exact few
  | cons c rest ih =>
    have later := ih (few_run (s := s.afresh) few c)
    rw [Nat.add_right_comm, Nat.add_assoc] at later
    exact later

/-- A session has to be long to fill an arena. -/
theorem roomy_of_length (m : Machine) {history : List Command}
    (short : history.length ≤ Arena.limit) : Roomy { scope := { machine := m } } history := by
  intro before earlier name q there
  have few := few_steps (s := { scope := { machine := m } }) (n := 0) Table.all_empty before
  have count := (few name q there).count
  rw [Nat.zero_add] at count
  exact Nat.le_trans count (Nat.le_trans earlier.length_le short)

end Session

end WholeFile
