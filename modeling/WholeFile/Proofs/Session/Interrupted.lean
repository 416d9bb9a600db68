import Mathlib
import WholeFile.Proofs.Platform.Disturbed
import WholeFile.Proofs.Session.Closing

/-!
# Interruptions are not seen

A session goes the same way however often its openings, reads, writes and waits are interrupted.
This is so without rings, and with rings whose waits are calm.
-/

namespace WholeFile

/-! ## Tables -/

/-- Nothing on both sides, or two things that are related. -/
theorem none_or_some_of_rel {α β : Type} {R : α → β → Prop} {x : Option α} {y : Option β}
    (h : Option.Rel R x y) :
    (x = none ∧ y = none) ∨ ∃ a b, x = some a ∧ y = some b ∧ R a b := by
  cases h with
  | none => exact .inl ⟨rfl, rfl⟩
  | some related => exact .inr ⟨_, _, rfl, rfl, related⟩

namespace Table

variable {κ α : Type} [BEq κ] [LawfulBEq κ] {R : α → α → Prop} {t u : Table κ α}

/-- The same keys, for things that are related. -/
def Alike (R : α → α → Prop) (t u : Table κ α) : Prop := ∀ k, Option.Rel R (t.find? k) (u.find? k)

omit [LawfulBEq κ] in
theorem alike_empty : Alike R ({} : Table κ α) {} := fun _ => .none

theorem Alike.insert (alike : t.Alike R u) (k : κ) {a b : α} (related : R a b) :
    (t.insert k a).Alike R (u.insert k b) := by
  intro j
  by_cases same : j = k
  · rw [same, find?_insert_self, find?_insert_self]
    exact .some related
  · rw [find?_insert_of_ne t a same, find?_insert_of_ne u b same]
    exact alike j

theorem Alike.erase (alike : t.Alike R u) (k : κ) : (t.erase k).Alike R (u.erase k) := by
  intro j
  by_cases same : j = k
  · rw [same, find?_erase_self, find?_erase_self]
    exact .none
  · rw [find?_erase_of_ne t same, find?_erase_of_ne u same]
    exact alike j

end Table

/-! ## Scopes -/

namespace Scope

/-- `t` is `s` with more interruptions to come. -/
structure Disturbed (rings : Prop) (s t : Scope) : Prop where
  machine : s.machine.Disturbed rings t.machine
  drivers : s.drivers.Alike (Driver.Alike rings) t.drivers
  inForce : s.inForce = t.inForce

/-- What is done comes to the same where there are more interruptions to come. -/
def Steady (rings : Prop) {α : Type} (body : Scope → α × Scope) : Prop :=
  ∀ ⦃s t : Scope⦄, s.Disturbed rings t →
    (body s).1 = (body t).1 ∧ (body s).2.Disturbed rings (body t).2

variable {rings : Prop} {s t : Scope} {d e : Driver}

theorem Disturbed.current (related : s.Disturbed rings t) :
    s.current.1 = t.current.1 ∧ s.current.2.Alike rings t.current.2 := by
  unfold Scope.current
  rw [related.inForce]
  cases t.inForce with
  | none => exact ⟨rfl, Driver.alike_blocking⟩
  | some name =>
    rcases none_or_some_of_rel (related.drivers name) with ⟨hs, ht⟩ | ⟨d, e, hs, ht, alike⟩
    · simp only [hs, ht]
      exact ⟨trivial, Driver.alike_blocking⟩
    · simp only [hs, ht]
      exact ⟨trivial, alike⟩

theorem Disturbed.perform {ε α : Type} (related : s.Disturbed rings t)
    (operation : Driver → Machine → Run ε α) (name : Option String)
    (run : (operation d s.machine).Alike rings (operation e t.machine)) :
    (s.perform name d operation).1 = (t.perform name e operation).1 ∧
      (s.perform name d operation).2.Disturbed rings (t.perform name e operation).2 := by
  refine ⟨run.result, run.machine, ?_, related.inForce⟩
  cases name with
  | none => exact related.drivers
  | some name => exact related.drivers.insert name run.driver

theorem steady_performCurrent {ε α : Type} {operation : Driver → Machine → Run ε α}
    (same : ∀ {d e : Driver} {m n : Machine}, d.Alike rings e → m.Disturbed rings n →
      (operation d m).Alike rings (operation e n)) :
    Steady rings fun s => s.performCurrent operation := by
  intro s t related
  obtain ⟨name, alike⟩ := related.current
  have performed := related.perform operation s.current.1 (same alike related.machine)
  simp only [performCurrent]
  rw [← name]
  exact performed

theorem steady_readFile (p : Path) : Steady rings fun s => s.readFile p :=
  steady_performCurrent fun alike h => alike.readFile h p

theorem steady_writeFile (p : Path) (payload : Payload) :
    Steady rings fun s => s.writeFile p payload := by
  intro s t related
  simp only [writeFile]
  cases payload.bytes with
  | error cause => exact ⟨rfl, related⟩
  | ok bytes =>
    have steady : Steady rings fun s => s.performCurrent fun d m => d.writeFile m p bytes :=
      steady_performCurrent fun alike h => alike.writeFile h p bytes
    obtain ⟨result, after⟩ := steady related
    exact ⟨congrArg (Except.mapError Failure.error) result, after⟩

theorem steady_withinAll {α : Type} {body : Scope → α × Scope} (steady : Steady rings body)
    (names : List String) : Steady rings fun s => s.withinAll names body := by
  intro s t related
  induction names generalizing s t with
  | nil => exact steady related
  | cons name names ih =>
    simp only [withinAll, within]
    rcases none_or_some_of_rel (related.drivers name) with ⟨hs, ht⟩ | ⟨d, e, hs, ht, -⟩ <;>
      rw [hs, ht]
    · exact steady related
    · have inside : Disturbed rings { s with inForce := some name }
          { t with inForce := some name } :=
        ⟨related.machine, related.drivers, rfl⟩
      obtain ⟨result, after⟩ := ih inside
      exact ⟨result, after.machine, after.drivers, related.inForce⟩

end Scope

/-! ## Sessions -/

/-- The same command, or more interruptions to come. -/
inductive Command.Interrupted : Command → Command → Prop
  | refl (c : Command) : Interrupted c c
  | setSchedule {s t : Schedule} (more : s.Interrupted t) :
      Interrupted (.setSchedule s) (.setSchedule t)

/-- New waits are calm. -/
def Command.Calm : Command → Prop
  | setSchedule s => s.Calm
  | _ => True

/-- What an answer tells, but not how it came about. -/
def Answer.told (a : Answer) : Reply × Option Nat := (a.reply, a.live)

namespace Session

/-- No driver has a ring. -/
structure Ringless (s : Session) : Prop where
  drivers : s.scope.drivers.All (·.kind = .blocking)
  platforms : s.platforms.All (·.driver.kind = .blocking)

/-- `t` is `s` with more interruptions to come. -/
structure Disturbed (rings : Prop) (s t : Session) : Prop where
  scope : s.scope.Disturbed rings t.scope
  platforms : s.platforms.Alike (Platform.Alike rings) t.platforms
  handles : s.handles = t.handles

/-- The same reply, and sessions one of which has more interruptions to come. -/
structure Agree (rings : Prop) (x y : Reply × Session) : Prop where
  reply : x.1 = y.1
  session : x.2.Disturbed rings y.2

variable {rings : Prop} {s t : Session} {m n : Machine} {p q : Platform}

namespace Disturbed

theorem machine (related : s.Disturbed rings t) : s.machine.Disturbed rings t.machine :=
  related.scope.machine

theorem withMachine (related : s.Disturbed rings t) (h : m.Disturbed rings n) :
    (s.withMachine m).Disturbed rings (t.withMachine n) :=
  ⟨⟨h, related.scope.drivers, related.scope.inForce⟩, related.platforms, related.handles⟩

theorem withScope (related : s.Disturbed rings t) {scope scope' : Scope}
    (scopes : scope.Disturbed rings scope') :
    Disturbed rings { s with scope } { t with scope := scope' } :=
  ⟨scopes, related.platforms, related.handles⟩

theorem withPlatform (related : s.Disturbed rings t) (name : String) (alike : p.Alike rings q) :
    (s.withPlatform name p).Disturbed rings (t.withPlatform name q) :=
  ⟨related.scope, related.platforms.insert name alike, related.handles⟩

theorem withHandle (related : s.Disturbed rings t) (name : String) (h : Handle) :
    (s.withHandle name h).Disturbed rings (t.withHandle name h) :=
  ⟨related.scope, related.platforms, congrArg (·.insert name h) related.handles⟩

theorem handle (related : s.Disturbed rings t) (name : String) : s.handle name = t.handle name := by
  unfold Session.handle
  rw [related.handles]

theorem platform (related : s.Disturbed rings t) (name : String) :
    (s.platform name).Alike rings (t.platform name) := by
  unfold Session.platform
  rcases none_or_some_of_rel (related.platforms name) with ⟨hs, ht⟩ | ⟨p, q, hs, ht, alike⟩ <;>
    rw [hs, ht]
  · exact ⟨rfl, Driver.alike_blocking⟩
  · exact alike

/-! ## Commands on platforms -/

theorem keep (related : s.Disturbed rings t) (name variableName : String) (h : Handle) :
    Agree rings (s.keep name variableName h) (t.keep name variableName h) := by
  have alike := related.platform name
  simp only [Session.keep]
  rw [alike.isValid, alike.size, alike.data]
  exact ⟨rfl, related.withHandle variableName h⟩

/-- What an operation of a platform leaves behind goes into the session. -/
theorem operated {α : Type} {x y : α × Platform × Machine} (related : s.Disturbed rings t)
    (name : String) (agree : Platform.Agree rings x y) :
    ((s.withPlatform name x.2.1).withMachine x.2.2).Disturbed rings
      ((t.withPlatform name y.2.1).withMachine y.2.2) :=
  (related.withPlatform name agree.platform).withMachine agree.machine

theorem keepFrom {x y : Handle × Platform × Machine} (related : s.Disturbed rings t)
    (name variableName : String) (agree : Platform.Agree rings x y) :
    Agree rings (s.keepFrom name variableName x) (t.keepFrom name variableName y) := by
  have kept := (related.operated name agree).keep name variableName x.1
  unfold Session.keepFrom
  simp only
  rw [← agree.answer]
  exact kept

theorem runHandle (related : s.Disturbed rings t) (name variableName : String)
    (c : HandleCommand) :
    Agree rings (s.runHandle name variableName c) (t.runHandle name variableName c) := by
  have alike := related.platform name
  have still (r : Reply) : Agree rings (r, s) (r, t) := ⟨rfl, related⟩
  cases c with
  | construct size => exact related.keepFrom _ _ (alike.construct related.machine size)
  | constructFrom data size =>
    exact related.keepFrom _ _ (alike.constructFrom related.machine data size)
  | insert storage => exact related.keepFrom _ _ (alike.insert related.machine (.ofStorage storage))
  | read path =>
    have agree := alike.readFile related.machine path
    simp only [Session.runHandle]
    generalize (s.platform name).readFile s.machine path = x at agree ⊢
    generalize (t.platform name).readFile t.machine path = y at agree ⊢
    obtain ⟨answer, p, m⟩ := x
    obtain ⟨answer', q, n⟩ := y
    obtain ⟨same, kept, after⟩ := agree
    cases same
    cases answer with
    | error cause => exact ⟨rfl, (related.withPlatform name kept).withMachine after⟩
    | ok h => exact related.keepFrom name variableName ⟨rfl, kept, after⟩
  | write path =>
    have agree := alike.writeFile related.machine path (t.handle variableName)
    simp only [Session.runHandle, related.handle]
    exact ⟨congrArg Reply.flag agree.answer, related.operated name agree⟩
  | forge raw => exact related.keep ..
  | invalid => exact related.keep ..
  | «alias» source =>
    simp only [Session.runHandle, related.handle]
    exact ⟨rfl, related.withHandle ..⟩
  | compare | inspect =>
    simp only [Session.runHandle, related.handle]
    exact still _
  | take =>
    simp only [Session.runHandle, related.handle]
    rcases none_or_some_of_rel (alike.take (t.handle variableName)) with
      ⟨hs, ht⟩ | ⟨⟨b, p⟩, ⟨c, q⟩, hs, ht, same, kept⟩ <;> rw [hs, ht]
    · exact still _
    · cases same
      exact ⟨rfl, related.withPlatform name kept⟩
  | destruct =>
    obtain ⟨kept, after⟩ := alike.destruct related.machine (t.handle variableName)
    simp only [Session.runHandle, related.handle]
    exact ⟨congrArg Reply.flag (kept.isValid _), (related.withPlatform name kept).withMachine after⟩
  | isValid | size | data | pointer =>
    simp only [Session.runHandle, related.handle, alike.isValid, alike.size, alike.data]
    exact still _
  | resize size =>
    have agree := alike.resize related.machine (t.handle variableName) size
    simp only [Session.runHandle, related.handle]
    refine ⟨?_, related.operated name agree⟩
    rw [agree.answer, agree.platform.size, agree.platform.data]
  | poke pos bytes =>
    simp only [Session.runHandle, related.handle, alike.size]
    split
    · exact still _
    · rcases none_or_some_of_rel (alike.overwrite? (t.handle variableName) pos bytes) with
        ⟨hs, ht⟩ | ⟨p, q, hs, ht, kept⟩ <;> rw [hs, ht]
      · exact still _
      · exact ⟨congrArg Reply.data (kept.data _), related.withPlatform name kept⟩
  | fill byte =>
    simp only [Session.runHandle, related.handle]
    rcases none_or_some_of_rel (alike.fill (t.handle variableName) byte) with
      ⟨hs, ht⟩ | ⟨p, q, hs, ht, kept⟩ <;> rw [hs, ht]
    · exact still _
    · exact ⟨congrArg Reply.filled (kept.data _), related.withPlatform name kept⟩
  | get =>
    simp only [Session.runHandle, related.handle, alike.get]
    split <;> exact still _
  | getResized size =>
    simp only [Session.runHandle, related.handle]
    rcases alike.resizeBuffer (t.handle variableName) size with
      ⟨e, hp, hq⟩ | ⟨p, q, hp, hq, kept⟩ <;> rw [hp, hq]
    · exact still _
    · refine ⟨?_, related.withPlatform name kept⟩
      simp only [kept.data]

end Disturbed

/-! ## Drivers that are made -/

theorem steady_makeDriver (request : DriverRequest) :
    Machine.Steady rings fun m => makeDriver m request := by
  intro m n h
  cases request with
  | options o => exact Driver.steady_create o h
  | blocking => exact ⟨rfl, h⟩

theorem alike_makeDriver {request : DriverRequest} {d : Driver}
    (made : makeDriver m request = (.ok d, n)) (there : d.kind = .ring → rings) :
    d.Alike rings d := by
  cases request with
  | options o => exact Driver.alike_create made there
  | blocking =>
    cases made
    exact Driver.alike_blocking

theorem disturbed_dropReplaced {old old' : Option Driver}
    (alike : Option.Rel (Driver.Alike rings) old old') (h : m.Disturbed rings n) :
    (dropReplaced old m).Disturbed rings (dropReplaced old' n) := by
  cases alike with
  | none => exact h
  | some alike => exact alike.drop h

/-- The driver for a new platform is had on both sides, or on none. -/
theorem Disturbed.driverFor (related : s.Disturbed rings t) (request : PlatformRequest)
    (there : ∀ d, (s.driverFor request).1 = .ok d → d.kind = .ring → rings) :
    (∃ e s' t', s.driverFor request = (.error e, s') ∧ t.driverFor request = (.error e, t') ∧
        s'.Disturbed rings t') ∨
      ∃ d d' s' t', s.driverFor request = (.ok d, s') ∧ t.driverFor request = (.ok d', t') ∧
        d.Alike rings d' ∧ s'.Disturbed rings t' := by
  cases request with
  | blocking => exact .inr ⟨_, _, _, _, rfl, rfl, Driver.alike_blocking, related⟩
  | options o =>
    obtain ⟨made, m, n, hm, hn, after⟩ := (Driver.steady_create o).both related.machine
    simp only [Session.driverFor, hm, hn] at there ⊢
    cases made with
    | error e => exact .inl ⟨_, _, _, rfl, rfl, related.withMachine after⟩
    | ok d =>
      exact .inr ⟨_, _, _, _, rfl, rfl, Driver.alike_create hm (there d rfl),
        related.withMachine after⟩
  | driver name =>
    have erased : Scope.Disturbed rings { s.scope with drivers := s.scope.drivers.erase name }
        { t.scope with drivers := t.scope.drivers.erase name } :=
      ⟨related.scope.machine, related.scope.drivers.erase name, related.scope.inForce⟩
    right
    simp only [Session.driverFor]
    rcases none_or_some_of_rel (related.scope.drivers name) with
      ⟨hs, ht⟩ | ⟨d, e, hs, ht, alike⟩ <;> rw [hs, ht]
    · exact ⟨_, _, _, _, rfl, rfl, Driver.alike_blocking, related.withScope erased⟩
    · exact ⟨_, _, _, _, rfl, rfl, alike, related.withScope erased⟩

/-! ## Commands -/

theorem Disturbed.setSchedule (related : s.Disturbed rings t) {new new' : Schedule}
    (more : new.Interrupted new') (calm : rings → new.Calm) :
    (s.withMachine { s.machine with schedule := new }).Disturbed rings
      (t.withMachine { t.machine with schedule := new' }) :=
  have machine := related.machine
  related.withMachine ⟨machine.files, machine.umask, machine.descriptors, machine.ringSupport,
    more.disturbed calm⟩

theorem run_disturbed (related : s.Disturbed rings t) (c : Command) (calm : rings → c.Calm)
    (usable : rings ∨ (s.run c).2.Ringless) : Agree rings (s.run c) (t.run c) := by
  have machine := related.machine
  cases c with
  | putFile p node =>
    have files : s.machine.files.insert p node = t.machine.files.insert p node := by
      rw [machine.files]
    exact ⟨rfl, related.withMachine
      ⟨files, machine.umask, machine.descriptors, machine.ringSupport, machine.schedule⟩⟩
  | unlink p =>
    have files : s.machine.files.erase p = t.machine.files.erase p := by rw [machine.files]
    refine ⟨?_, related.withMachine
      ⟨files, machine.umask, machine.descriptors, machine.ringSupport, machine.schedule⟩⟩
    simp only [run, machine.files]
  | setSchedule schedule => exact ⟨rfl, related.setSchedule (.refl schedule) calm⟩
  | makeDriver name request =>
    obtain ⟨made, m, n, hm, hn, after⟩ := (steady_makeDriver request).both machine
    simp only [run, hm, hn] at usable ⊢
    cases made with
    | error e => exact ⟨rfl, related.withMachine after⟩
    | ok d =>
      have alike : d.Alike rings d := by
        refine alike_makeDriver hm fun ring => usable.resolve_right fun ringless => ?_
        have kind : d.kind = .blocking := ringless.drivers name d (Table.find?_insert_self ..)
        rw [ring] at kind
        cases kind
      have dropped := disturbed_dropReplaced (related.scope.drivers name) after
      exact ⟨rfl, related.withScope
        ⟨dropped, related.scope.drivers.insert name alike, related.scope.inForce⟩⟩
  | dropDriver name =>
    have named := related.scope.drivers name
    have dropped := disturbed_dropReplaced named machine
    refine ⟨?_, related.withScope
      ⟨dropped, related.scope.drivers.erase name, related.scope.inForce⟩⟩
    simp only [run]
    rcases none_or_some_of_rel named with ⟨hs, ht⟩ | ⟨d, e, hs, ht, -⟩
    · rw [hs, ht]
    · rw [hs, ht]
      rfl
  | readWith driver p =>
    simp only [run]
    rcases none_or_some_of_rel (related.scope.drivers driver) with
      ⟨hs, ht⟩ | ⟨d, e, hs, ht, alike⟩ <;> rw [hs, ht]
    · exact ⟨rfl, related⟩
    · obtain ⟨result, after⟩ := related.scope.perform (fun d m => d.readFile m p) (some driver)
        (alike.readFile machine p)
      exact ⟨congrArg readReply result, related.withScope after⟩
  | readWithin names p =>
    obtain ⟨result, after⟩ := Scope.steady_withinAll (Scope.steady_readFile p) names related.scope
    exact ⟨congrArg readReply result, related.withScope after⟩
  | writeWith driver p bytes =>
    simp only [run]
    rcases none_or_some_of_rel (related.scope.drivers driver) with
      ⟨hs, ht⟩ | ⟨d, e, hs, ht, alike⟩ <;> rw [hs, ht]
    · exact ⟨rfl, related⟩
    · obtain ⟨result, after⟩ := related.scope.perform (fun d m => d.writeFile m p bytes)
        (some driver) (alike.writeFile machine p bytes)
      exact ⟨congrArg (writeReply <| Except.mapError .error ·) result, related.withScope after⟩
  | writeWithin names p payload ranges =>
    simp only [run]
    cases payload.restrictAll ranges with
    | error cause => exact ⟨rfl, related⟩
    | ok payload =>
      obtain ⟨result, after⟩ :=
        Scope.steady_withinAll (Scope.steady_writeFile p payload) names related.scope
      exact ⟨congrArg writeReply result, related.withScope after⟩
  | makePlatform name request =>
    have there : ∀ d, (s.driverFor request).1 = .ok d → d.kind = .ring → rings := by
      intro d made ring
      refine usable.resolve_right fun ringless => ?_
      obtain ⟨u, had⟩ : ∃ u, s.driverFor request = (.ok d, u) := ⟨_, Prod.ext made rfl⟩
      simp only [run, had] at ringless
      have kind : d.kind = .blocking :=
        ringless.platforms name { driver := d } (Table.find?_insert_self ..)
      rw [ring] at kind
      cases kind
    simp only [run]
    rcases related.driverFor request there with
      ⟨e, s', t', hs, ht, after⟩ | ⟨d, d', s', t', hs, ht, alike, after⟩ <;> rw [hs, ht]
    · exact ⟨rfl, after⟩
    · have old : Option.Rel (Driver.Alike rings) ((s'.platforms.find? name).map Platform.driver)
          ((t'.platforms.find? name).map Platform.driver) := by
        rcases none_or_some_of_rel (after.platforms name) with
          ⟨hs, ht⟩ | ⟨p, q, hs, ht, alike⟩ <;> rw [hs, ht]
        · exact .none
        · exact .some alike.driver
      refine ⟨congrArg Reply.kind alike.kind, ?_⟩
      have made : Platform.Alike rings { driver := d } { driver := d' } := ⟨rfl, alike⟩
      exact (after.withPlatform name made).withMachine (disturbed_dropReplaced old after.machine)
  | onPlatform platform handle c =>
    exact (related.withPlatform platform (related.platform platform)).runHandle platform handle c

theorem run_interrupted {c c' : Command} (related : s.Disturbed rings t) (more : c.Interrupted c')
    (calm : rings → c.Calm) (usable : rings ∨ (s.run c).2.Ringless) :
    Agree rings (s.run c) (t.run c') := by
  cases more with
  | refl c => exact run_disturbed related c calm usable
  | setSchedule more => exact ⟨rfl, related.setSchedule more calm⟩

theorem Disturbed.live {c c' : Command} (related : s.Disturbed rings t) (more : c.Interrupted c')
    (r : Reply) : s.live c r = t.live c' r := by
  cases more with
  | setSchedule more => rfl
  | refl c =>
    unfold Session.live
    split
    · rfl
    · exact congrArg some (related.platform _).count
    · rfl

/-! ## Whole sessions -/

theorem step_interrupted {c c' : Command} (related : s.Disturbed rings t) (more : c.Interrupted c')
    (calm : rings → c.Calm) (usable : rings ∨ (s.step c).2.Ringless) :
    (s.step c).1.told = (t.step c').1.told ∧ (s.step c).2.Disturbed rings (t.step c').2 := by
  have machine := related.machine
  have fresh : s.afresh.Disturbed rings t.afresh := related.withMachine
    ⟨machine.files, machine.umask, machine.descriptors, machine.ringSupport, machine.schedule⟩
  have agree := run_interrupted fresh more calm usable
  refine ⟨Prod.ext agree.reply ?_, agree.session⟩
  change (s.afresh.run c).2.live c (s.afresh.run c).1 =
    (t.afresh.run c').2.live c' (t.afresh.run c').1
  rw [← agree.reply]
  exact agree.session.live more _

theorem steps_disturbed {cs ds : List Command} (related : s.Disturbed rings t)
    (more : List.Forall₂ Command.Interrupted cs ds) (calm : rings → ∀ c ∈ cs, c.Calm)
    (usable : rings ∨ ∀ past, past <+: cs → (s.steps past).2.Ringless) :
    (s.steps cs).1.map Answer.told = (t.steps ds).1.map Answer.told ∧
      (s.steps cs).2.Disturbed rings (t.steps ds).2 := by
  induction more generalizing s t with
  | nil => exact ⟨rfl, related⟩
  | @cons c c' cs ds head rest ih =>
    obtain ⟨told, after⟩ := step_interrupted related head
      (fun there => calm there c List.mem_cons_self)
      (usable.imp_right fun ringless => ringless [c] (List.prefix_append [c] cs))
    obtain ⟨later, last⟩ := ih after (fun there d mem => calm there d (List.mem_cons_of_mem c mem))
      (usable.imp_right fun ringless past start =>
        ringless (c :: past) (List.cons_prefix_cons.2 ⟨rfl, start⟩))
    exact ⟨congrArg₂ List.cons told later, last⟩

/-- The same files, open descriptors, buffers and handles. -/
structure Same (s t : Session) : Prop where
  files : s.machine.files = t.machine.files
  descriptors : s.machine.descriptors = t.machine.descriptors
  buffers : ∀ name,
    (s.platforms.find? name).map Platform.arena = (t.platforms.find? name).map Platform.arena
  handles : s.handles = t.handles

theorem Disturbed.same (related : s.Disturbed rings t) : s.Same t where
  files := related.machine.files
  descriptors := related.machine.descriptors
  buffers name := by
    rcases none_or_some_of_rel (related.platforms name) with ⟨hs, ht⟩ | ⟨p, q, hs, ht, alike⟩
    · rw [hs, ht]
    · rw [hs, ht]
      exact congrArg some alike.arena
  handles := related.handles

/-- As long as no driver has a ring, or all waits are calm, more interruptions make no difference to
what a session is told, nor to what it leaves behind. The closing of a file is not made again when
it is interrupted. A write that fails because of it says so, and the descriptor is free all the
same. -/
theorem steps_interrupted {m : Machine} {more : Schedule} {cs ds : List Command}
    (interrupted : m.schedule.Interrupted more)
    (commands : List.Forall₂ Command.Interrupted cs ds)
    (usable : (∀ past, past <+: cs → (steps { scope := { machine := m } } past).2.Ringless) ∨
      (m.schedule.Calm ∧ ∀ c ∈ cs, c.Calm)) :
    let (answers, s) := steps { scope := { machine := m } } cs
    let (answers', t) := steps { scope := { machine := { m with schedule := more } } } ds
    answers.map Answer.told = answers'.map Answer.told ∧ s.Same t ∧
      (∀ (d : Driver) (m : Machine) (call : FileCall),
        (m.since (d.carryOut m call).2.2).handled = [] ∨
          ∃ p access mode fd answer, (m.since (d.carryOut m call).2.2).handled =
            [.openFile p access mode (.ok fd), .close fd answer]) ∧
      ∀ (d : Driver) (m n : Machine) (p : Path) (bytes : Bytes) (fd : Descriptor) (w : Nat)
        (h : Host) (e : Errno), m.openPath p .replace d.fileMode = (.ok fd, n) →
          (d.host n).writeAll fd bytes 0 = (.ok w, h) → (h.machine.close fd).1 = .error e →
            (d.writeFile m p bytes).result = .error (.io (.os e)) ∧
              (d.writeFile m p bytes).machine.path? fd = none := by
  have start (rings : Prop) (calm : rings → m.schedule.Calm) :
      Disturbed rings { scope := { machine := m } }
        { scope := { machine := { m with schedule := more } } } :=
    ⟨⟨⟨rfl, rfl, rfl, rfl, interrupted.disturbed calm⟩, Table.alike_empty, rfl⟩,
      Table.alike_empty, rfl⟩
  have closes := Driver.handled_carryOut
  have fails {d : Driver} {m n : Machine} {p : Path} {bytes : Bytes} {fd : Descriptor} {w : Nat}
      {h : Host} {e : Errno} (opened : m.openPath p .replace d.fileMode = (.ok fd, n))
      (wrote : (d.host n).writeAll fd bytes 0 = (.ok w, h))
      (failed : (h.machine.close fd).1 = .error e) :
      (d.writeFile m p bytes).result = .error (.io (.os e)) ∧
        (d.writeFile m p bytes).machine.path? fd = none :=
    ⟨Driver.writeFile_of_close_error opened wrote failed, Driver.writeFile_released opened bytes⟩
  rcases usable with ringless | ⟨calm, news⟩
  · obtain ⟨told, last⟩ := steps_disturbed (start False nofun) commands nofun (.inr ringless)
    exact ⟨told, last.same, closes, fun _ _ _ _ _ _ _ _ _ => fails⟩
  · obtain ⟨told, last⟩ := steps_disturbed (start True fun _ => calm) commands (fun _ => news)
      (.inl trivial)
    exact ⟨told, last.same, closes, fun _ _ _ _ _ _ _ _ _ => fails⟩

/-- Interruptions before and after an entry is taken and in the middle of a write, and one of the
closing. -/
theorem steps_interrupted_everywhere :
    let signal : Option Errno := some .interrupted
    let m : Machine :=
      { schedule.write := [{ short := some 1 }]
        schedule.close := [signal]
        schedule.enter := [{ take := false }] }
    let more : Schedule :=
      { openFile := [signal, signal]
        write := [{ errno := signal }, { short := some 1 }, { errno := signal }]
        close := [signal]
        enter := [{ errno := signal, post := false }, { take := false },
          { errno := signal, take := false }] }
    let history (later : Schedule) : List Command :=
      [.makeDriver "ring" (.options { driver := .ring }), .writeWith "ring" [0x61] [1, 2, 3],
        .setSchedule later, .readWith "ring" [0x61], .onPlatform "main" "h" (.read [0x61])]
    let cs := history {}
    let ds := history { read := [{ errno := signal }, { errno := signal }] }
    let d : Driver := ⟨.ring { capacity := 8 }, 0o666⟩
    m.schedule.Interrupted more ∧ List.Forall₂ Command.Interrupted cs ds ∧ m.schedule.Calm ∧
      (∀ c ∈ cs, c.Calm) ∧
      (steps { scope := { machine := m } } cs).1.map Answer.told =
        (steps { scope := { machine := { m with schedule := more } } } ds).1.map Answer.told ∧
      (d.writeFile { m with schedule := more } [0x61] [1, 2, 3]).result =
        .error (.io (.os .interrupted)) := by
  intro signal m more history cs ds d
  have interrupted : m.schedule.Interrupted more := by
    refine ⟨?_, .nil, ?_, ?_, rfl, rfl, rfl, rfl⟩
    · exact .insert rfl (.insert rfl .nil)
    · exact .insert rfl (.keep _ (.insert rfl .nil))
    · exact .insert ⟨rfl, rfl⟩ (.keep _ (.insert ⟨rfl, rfl⟩ .nil))
  have commands : List.Forall₂ Command.Interrupted cs ds := by
    refine .cons (.refl _) (.cons (.refl _) (.cons (.setSchedule ?_) ?_))
    · refine ⟨.nil, ?_, .nil, .nil, rfl, rfl, rfl, rfl⟩
      exact .insert ⟨rfl, rfl⟩ (.insert ⟨rfl, rfl⟩ .nil)
    · exact .cons (.refl _) (.cons (.refl _) .nil)
  have calm : m.schedule.Calm := by
    intro a mem
    rw [List.mem_singleton.1 mem]
    exact ⟨rfl, nofun⟩
  have news : ∀ c ∈ cs, c.Calm := by
    simp [cs, history, Command.Calm, Schedule.Calm]
  have told := (steps_interrupted interrupted commands (.inr ⟨calm, news⟩)).1
  refine ⟨interrupted, commands, calm, news, told, ?_⟩
  cbv

end Session

end WholeFile
