import WholeFile.Driver.Scope
import WholeFile.Proofs.Platform.Native

/-!
# Platforms beside programs without handles

A platform and a program of its own buffers, each on a machine of its own, run side by side. After
every operation they agree, whatever drivers are in force around the platform.
-/

namespace WholeFile

/-- What goes on inside blocks and asks for no driver in force does not notice the blocks. -/
theorem Scope.withinAll_machine {α : Type} (s : Scope) (names : List String)
    (f : Machine → α × Machine) :
    s.withinAll names (fun s => ((f s.machine).1, { s with machine := (f s.machine).2 })) =
      ((f s.machine).1, { s with machine := (f s.machine).2 }) := by
  induction names generalizing s with
  | nil => rfl
  | cons name names ih =>
    unfold withinAll
    split
    · rfl
    · next there =>
      -- The block takes back what is in force, so what is left differs in its machine only.
      unfold within
      rw [there]
      simp only [ih]

/-- A platform and a program without handles. The drivers in scope are those around the platform. -/
structure Tandem where
  scope : Scope
  platform : Platform
  native : Native

namespace Tandem

/-- Both are given the same driver and the same machine. -/
def start (scope : Scope) (d : Driver) : Tandem where
  scope
  platform := { driver := d }
  native := { machine := scope.machine, driver := d }

/-- An operation inside blocks for the named drivers, and the program's call for it. -/
def step (t : Tandem) (names : List String) (op : Operation) : Outcome × Called × Tandem :=
  let ((outcome, platform), scope) := t.scope.withinAll names fun s =>
    let (outcome, platform, machine) := t.platform.step s.machine op
    ((outcome, platform), { s with machine })
  let (called, native) := t.native.step outcome.name op
  (outcome, called, { scope, platform, native })

def steps (t : Tandem) (run : List (List String × Operation)) : Tandem :=
  run.foldl (fun t turn => (t.step turn.1 turn.2).2.2) t

/-- The arena is never too full for another slot to have an index. -/
def Roomy (t : Tandem) (run : List (List String × Operation)) : Prop :=
  ∀ before, before <+: run → (t.steps before).platform.count ≤ Arena.limit

variable {t : Tandem} {names : List String} {op : Operation}
  {run : List (List String × Operation)}

/-! ## One operation -/

theorem step_eq (t : Tandem) (names : List String) (op : Operation) :
    t.step names op =
      let (outcome, platform, machine) := t.platform.step t.scope.machine op
      let (called, native) := t.native.step outcome.name op
      (outcome, called, { scope := { t.scope with machine }, platform, native }) := by
  have blocks := t.scope.withinAll_machine names fun m =>
    let (outcome, platform, machine) := t.platform.step m op
    ((outcome, platform), machine)
  simp only at blocks
  simp only [step, blocks]

/-- What callers see of the platform is what the program's variables hold, and both have made the
same system calls. -/
structure InStep (t : Tandem) : Prop where
  valid : ∀ h, t.platform.isValid h = (t.native.buffers.find? h).isSome
  data : ∀ h, t.platform.data h = (t.native.buffers.find? h).map Buffer.bytes
  size : ∀ h, t.platform.size h = (t.native.buffers.find? h).elim 0 Buffer.size
  driver : t.platform.driver = t.native.driver
  calls : t.scope.machine.journal.calls = t.native.machine.journal.calls
  /-- Files, descriptors and the answers to come. -/
  kernel : { t.scope.machine with journal := [] } = { t.native.machine with journal := [] }

/-- What an operation does is what the program's call for it does. -/
structure Alike (t : Tandem) (names : List String) (op : Operation) : Prop where
  sentinel : (t.step names op).1.sentinel = true ↔
    (∃ e, (t.step names op).2.1 = .failed e) ∨ op.Lacks t.platform
  aborted : ∀ cause, (t.step names op).1 = .aborted cause ↔ (t.step names op).2.1 = .aborted cause
  /-- Without a file to go to, the machine is not asked for anything. -/
  idle : (op.path? = none ∨ ∃ path h, op = .writeFile path h ∧ t.platform.isValid h = false) →
    (t.step names op).2.2.scope.machine.Matches t.scope.machine
  failed : (t.step names op).1.sentinel = true →
    ∀ h, (t.step names op).2.2.platform.data h = t.platform.data h
  others : ∀ h, t.platform.isValid h = true → op.operand? ≠ some h →
    (t.step names op).2.2.platform.data h = t.platform.data h
  /-- The drivers in scope are not used, and the one in force is as before. -/
  scope : (t.step names op).2.2.scope =
    { t.scope with machine := (t.step names op).2.2.scope.machine }

/-- What a run keeps. -/
structure Joined (t : Tandem) : Prop where
  bounded : t.platform.arena.Bounded
  tracks : t.platform.Tracks t.scope.machine t.native

theorem joined_start (scope : Scope) (d : Driver) : (start scope d).Joined := by
  refine ⟨Arena.bounded_empty, fun h => ?_, rfl, .refl scope.machine⟩
  change Arena.get? {} h = none
  unfold Arena.get? Arena.locate?
  cases Arena.position? h <;> rfl

theorem Joined.inStep (joined : t.Joined) : t.InStep where
  valid h := by
    unfold Platform.isValid Arena.contains
    rw [joined.tracks.buffers]
  data h := by
    unfold Platform.data
    rw [joined.tracks.buffers]
  size h := by
    unfold Platform.size
    rw [joined.tracks.buffers]
  driver := joined.tracks.driver
  calls := joined.tracks.machine.calls
  kernel := joined.tracks.machine.state

theorem Joined.step (joined : t.Joined)
    (room : (t.step names op).2.2.platform.count ≤ Arena.limit) :
    (t.step names op).2.2.Joined := by
  rw [step_eq] at room ⊢
  exact ⟨(Platform.bounded_step joined.bounded room).1,
    (joined.tracks.step joined.bounded room).2⟩

theorem Joined.alike (joined : t.Joined)
    (room : (t.step names op).2.2.platform.count ≤ Arena.limit) : t.Alike names op := by
  have sound := joined.bounded.sound
  rw [step_eq] at room
  have agrees := (joined.tracks.step joined.bounded room).1
  constructor
  · rw [step_eq, ← Native.step_skipped_iff joined.tracks.buffers]
    exact agrees.sentinel
  · rw [step_eq]
    exact agrees.aborted
  · intro idle
    rw [step_eq]
    rcases t.platform.machine_step (m := t.scope.machine) idle with same | ⟨message, noted⟩
    · simp only [same]
      exact .refl _
    · simp only [noted]
      exact Machine.matches_log ..
  · intro failed h
    rw [step_eq] at failed ⊢
    simp only [Platform.data, (Platform.bounded_step joined.bounded room).2 failed]
  · intro h live other
    rw [step_eq]
    simp only [Platform.data, Platform.get?_step_of_ne sound live other]
  · rw [step_eq]

/-! ## Runs -/

theorem Joined.steps (joined : t.Joined) (room : t.Roomy run) : (t.steps run).Joined := by
  induction run generalizing t with
  | nil => exact joined
  | cons turn run ih =>
    refine ih (joined.step (room [turn] ⟨run, rfl⟩)) ?_
    intro before earlier
    exact room (turn :: before) (List.cons_prefix_cons.2 ⟨rfl, earlier⟩)

theorem steps_append (t : Tandem) (before after : List (List String × Operation)) :
    t.steps (before ++ after) = (t.steps before).steps after := List.foldl_append

/-- A platform is to its callers what their own buffers would be, operation by operation. It fails
where they would have failed, or were not there, and does the same to the kernel. -/
theorem steps_alike {scope : Scope} {d : Driver} (room : (start scope d).Roomy run) :
    ((start scope d).steps run).InStep ∧
      ∀ before names op after, run = before ++ (names, op) :: after →
        ((start scope d).steps before).Alike names op := by
  have new := joined_start scope d
  refine ⟨(new.steps room).inStep, ?_⟩
  rintro before names op after rfl
  have earlier : (start scope d).Roomy before := by
    intro first within
    exact room first (within.trans (List.prefix_append _ _))
  refine (new.steps earlier).alike ?_
  have through := room (before ++ [(names, op)]) ⟨after, by simp⟩
  rwa [steps_append] at through

/-! ## Short runs -/

theorem count_steps (sound : t.platform.arena.Sound) (run : List (List String × Operation)) :
    (t.steps run).platform.count ≤ t.platform.count + run.length := by
  induction run generalizing t with
  | nil => exact Nat.le_refl _
  | cons turn run ih =>
    have stepped : (t.step turn.1 turn.2).2.2.platform =
        (t.platform.step t.scope.machine turn.2).2.1 := by rw [step_eq]
    have count : (t.step turn.1 turn.2).2.2.platform.count ≤ t.platform.count + 1 := by
      rw [stepped]
      exact t.platform.count_step sound _ _
    have later := ih (t := (t.step turn.1 turn.2).2.2) (stepped ▸ t.platform.sound_step sound ..)
    rw [List.length_cons]
    exact Nat.le_trans later (by omega)

/-- A run has to be long to fill the arena. -/
theorem roomy_of_length (scope : Scope) (d : Driver) (short : run.length ≤ Arena.limit) :
    (start scope d).Roomy run := by
  intro before earlier
  have count := count_steps (t := start scope d) Arena.sound_empty before
  change _ ≤ 0 + before.length at count
  have within := earlier.length_le
  omega

/-- Files are written and read back inside a block, too much is asked for, and handles are used
after their buffers are gone. -/
theorem steps_alike_stale :
    let scope : Scope := { machine := {}, drivers := Table.insert {} "around" .blocking }
    let t := start scope .blocking
    let path : Path := [47, 97]
    let first : Handle := ⟨1, 1⟩
    let run : List (List String × Operation) :=
      [([], .construct 2), (["around"], .fill first 7), (["around"], .writeFile path first),
        ([], .resize first grantLimit), ([], .constructFrom [1, 2, 3] 4), ([], .destruct first),
        (["around"], .writeFile path first), (["around"], .readFile path), ([], .take first)]
    t.Roomy run ∧ (t.steps run).InStep ∧
      ∀ before names op after, run = before ++ (names, op) :: after →
        (t.steps before).Alike names op := by
  intro scope t path first run
  have room : t.Roomy run := roomy_of_length scope .blocking (by decide)
  exact ⟨room, steps_alike room⟩

end Tandem

end WholeFile
