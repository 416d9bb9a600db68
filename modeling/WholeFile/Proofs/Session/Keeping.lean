import WholeFile.Proofs.Session.Operations

/-!
# What commands keep

A command comes down to calls on files, requests for drivers, and small changes to the machine. What
all of these keep, every command keeps.
-/

namespace WholeFile

/-- The options that a driver is asked for with. -/
def Command.options? : Command → Option Options
  | .makeDriver _ (.options o) | .makePlatform _ (.options o) => some o
  | _ => none

/-- A relation to the machines that can come of a machine by commands, requests for drivers set
aside. -/
structure Machine.Keeping (R : Machine → Machine → Prop) : Prop where
  refl (m : Machine) : R m m
  trans {m n o : Machine} : R m n → R n o → R m o
  readFile (d : Driver) (m : Machine) (p : Path) : R m (d.readFile m p).machine
  writeFile (d : Driver) (m : Machine) (p : Path) (bytes : Bytes) :
    R m (d.writeFile m p bytes).machine
  closedRing (m : Machine) : R m (m.record .ringClose)
  refiled (m : Machine) (files : FileTable) : R m { m with files }
  rescheduled (m : Machine) (schedule : Schedule) : R m { m with schedule }

/-- A relation that is kept by what platforms have to say, too. -/
structure Machine.Noting (R : Machine → Machine → Prop) : Prop extends Keeping R where
  noted (m : Machine) (message : String) : R m (Platform.note m message)

variable {R : Machine → Machine → Prop}

/-! ## Platforms -/

namespace Machine.Noting

theorem step (noting : Noting R) (p : Platform) (m : Machine) (op : Operation) :
    R m (p.step m op).2.2 := by
  have idle {op : Operation}
      (idle : op.path? = none ∨ ∃ path h, op = .writeFile path h ∧ p.isValid h = false) :
      R m (p.step m op).2.2 := by
    rcases p.machine_step (m := m) idle with same | ⟨message, noted⟩
    · rw [same]
      exact noting.refl m
    · rw [noted]
      exact noting.noted m message
  cases op with
  | readFile path =>
    have read := noting.readFile p.driver m path
    simp only [Platform.step, Platform.readFile]
    cases (p.driver.readFile m path).result with
    | ok b => exact read
    | error cause =>
      cases cause with
      | error e => exact noting.trans read (noting.noted _ _)
      | abort cause => exact read
  | writeFile path h =>
    cases there : p.arena.get? h with
    | none => exact idle (.inr ⟨path, h, rfl, Platform.isValid_eq_false_iff.2 there⟩)
    | some b =>
      have wrote := noting.writeFile p.driver m path b.bytes
      simp only [Platform.step, Platform.writeFile, Platform.get_of_some there]
      cases (p.driver.writeFile m path b.bytes).result with
      | ok _ => exact wrote
      | error e => exact noting.trans wrote (noting.noted _ _)
  | construct | constructFrom | insert | take | destruct | resize | overwrite | fill =>
    exact idle (.inl rfl)

theorem runHandle (noting : Noting R) (s : Session) (name variableName : String)
    (c : HandleCommand) : R s.machine (s.runHandle name variableName c).2.machine := by
  cases operates : c.operation? (s.handle variableName) with
  | none =>
    rw [Session.machine_runHandle_of_none operates]
    exact noting.refl s.machine
  | some op =>
    rw [(Session.runHandle_of_operation operates).machine]
    exact noting.step (s.platform name) s.machine op

end Machine.Noting

/-! ## Blocks -/

namespace Machine.Keeping

theorem withinAll {α : Type} {s : Scope} (names : List String) {body : Scope → α × Scope}
    (kept : ∀ force, R s.machine (body { s with inForce := force }).2.machine) :
    R s.machine (s.withinAll names body).2.machine := by
  obtain ⟨force, t, ran, machine, -⟩ := s.withinAll_run names body
  have same := kept force
  rw [ran] at same
  rwa [machine]

theorem scopeWrite (keeping : Keeping R) (s : Scope) (p : Path) (payload : Payload) :
    R s.machine (s.writeFile p payload).2.machine := by
  unfold Scope.writeFile
  split
  · exact keeping.refl s.machine
  · next bytes _ => exact keeping.writeFile s.current.2 s.machine p bytes

/-! ## Commands -/

theorem dropReplaced (keeping : Keeping R) (old : Option Driver) (m : Machine) :
    R m (Session.dropReplaced old m) := by
  cases old with
  | none => exact keeping.refl m
  | some d =>
    obtain ⟨backend, mode⟩ := d
    cases backend with
    | blocking => exact keeping.refl m
    | ring r => exact keeping.closedRing m

/-- What making a driver keeps as well, and using a platform, every command keeps. -/
theorem run (keeping : Keeping R) (s : Session) (c : Command)
    (created : ∀ o, c.options? = some o → R s.machine (Driver.create s.machine o).2)
    (used : ∀ platform handle hc, c = .onPlatform platform handle hc →
      R s.machine
        ((s.withPlatform platform (s.platform platform)).runHandle platform handle hc).2.machine) :
    R s.machine (s.run c).2.machine := by
  have still : R s.machine s.machine := keeping.refl s.machine
  cases c with
  | putFile | unlink => exact keeping.refiled ..
  | setSchedule => exact keeping.rescheduled ..
  | makeDriver name request =>
    have made : R s.machine (Session.makeDriver s.machine request).2 := by
      cases request with
      | options o => exact created o rfl
      | blocking => exact still
    simp only [Session.run]
    split
    · next answer =>
      rw [answer] at made
      exact made
    · next answer =>
      rw [answer] at made
      exact keeping.trans made (keeping.dropReplaced (s.scope.drivers.find? name) _)
  | dropDriver name => exact keeping.dropReplaced (s.scope.drivers.find? name) s.machine
  | readWith driver p =>
    simp only [Session.run]
    split
    · exact still
    · next d _ => exact keeping.readFile d s.machine p
  | readWithin names p =>
    exact withinAll names fun force =>
      keeping.readFile (Scope.current { s.scope with inForce := force }).2 s.machine p
  | writeWith driver p bytes =>
    simp only [Session.run]
    split
    · exact still
    · next d _ => exact keeping.writeFile d s.machine p bytes
  | writeWithin names p payload ranges =>
    simp only [Session.run]
    split
    · exact still
    · next payload _ =>
      exact withinAll names fun force =>
        keeping.scopeWrite { s.scope with inForce := force } p payload
  | makePlatform name request =>
    have made : R s.machine (s.driverFor request).2.machine := by
      cases request with
      | options o => exact created o rfl
      | blocking | driver => exact still
    simp only [Session.run]
    split
    · next answer =>
      rw [answer] at made
      exact made
    · next t answer =>
      rw [answer] at made
      exact keeping.trans made (keeping.dropReplaced _ t.machine)
  | onPlatform platform handle c => exact used platform handle c rfl

end Machine.Keeping

theorem Machine.Noting.run (noting : Noting R) (s : Session) (c : Command)
    (created : ∀ o, c.options? = some o → R s.machine (Driver.create s.machine o).2) :
    R s.machine (s.run c).2.machine :=
  noting.toKeeping.run s c created fun platform handle hc _ =>
    noting.runHandle (s.withPlatform platform (s.platform platform)) platform handle hc

end WholeFile
