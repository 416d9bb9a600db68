import WholeFile.Proofs.Driver.Remarks
import WholeFile.Proofs.Driver.Selection
import WholeFile.Proofs.Session.Keeping

/-!
# Requests for drivers in one process

Whether rings are to be had is found out at most once in a process, by the first request that leaves
the choice open, and all later ones of these go by what was found out then. Requests for a ring are
not bound by it, and nothing else that is done in a session has to do with it.
-/

namespace WholeFile

/-! ## Commands that ask nothing about rings -/

/-- From `m` to `n`, nothing was asked about rings. -/
structure Machine.Unasked (m n : Machine) : Prop where
  support : n.ringSupport = m.ringSupport
  setups : n.journal.setups = m.journal.setups

/-- Setting up a ring is remarked on. -/
theorem Journal.setups_remarks (j : Journal) : j.remarks.setups = j.setups := by
  unfold setups calls remarks
  rw [List.filterMap_filterMap, List.filterMap_filterMap, List.filterMap_filter]
  congr 1
  funext e
  cases e with
  | call c => cases c <;> rfl
  | log l => simp [Event.call?]

namespace Machine

variable {m n o : Machine}

theorem Unasked.trans (first : m.Unasked n) (second : n.Unasked o) : m.Unasked o :=
  ⟨second.support.trans first.support, second.setups.trans first.setups⟩

theorem Unasked.log (first : m.Unasked n) (level : LogLevel) (source : LogSource)
    (message : String) : m.Unasked (n.log level source message) :=
  ⟨first.support, (n.setups_log ..).trans first.setups⟩

theorem Unremarked.unasked (unremarked : m.Unremarked n) : m.Unasked n := by
  refine ⟨unremarked.support, ?_⟩
  rw [← Journal.setups_remarks, unremarked.remarks, Journal.setups_remarks]

theorem unasked_noting : Noting Unasked where
  refl _ := ⟨rfl, rfl⟩
  trans := .trans
  readFile d m p := by
    obtain ⟨n, unremarked, ⟨b, fd, -, machine⟩ | ⟨cause, -, machine⟩⟩ := d.readFile_remarks m p
    · rw [machine]
      exact (unremarked.unasked.log ..).trans (unremarked_close _ fd).unasked
    · rw [machine]
      exact unremarked.unasked
  writeFile d m p bytes := by
    obtain ⟨n, unremarked, ⟨fd, m', count, h, -, -, -, -, machine⟩ | ⟨e, -, machine⟩⟩ :=
      d.writeFile_remarks m p bytes
    · rw [machine]
      exact unremarked.unasked.log ..
    · rw [machine]
      exact unremarked.unasked
  noted m message := Unasked.log ⟨rfl, rfl⟩ ..
  closedRing m := ⟨rfl, m.setups_record rfl⟩
  refiled _ _ := ⟨rfl, rfl⟩
  rescheduled _ _ := ⟨rfl, rfl⟩

end Machine

/-! ## The record -/

/-- The command asks for a driver and leaves the choice open. -/
def Command.leavesOpen (c : Command) : Bool := c.options?.any fun o => o.driver = .auto

namespace Session

theorem unasked_run (s : Session) {c : Command} (other : c.options? = none) :
    s.machine.Unasked (s.run c).2.machine :=
  Machine.unasked_noting.run s c fun o h => by
    rw [other] at h
    cases h

/-- A request is answered with the driver that is made, or with the error that there is none. What
is dropped on the way has nothing more to ask. -/
theorem run_request (s : Session) {c : Command} {o : Options} (asks : c.options? = some o) :
    (s.run c).1 = (match (Driver.create s.machine o).1 with
      | .ok d => .kind d.kind
      | .error e => .failed (.error (.io e))) ∧
      (Driver.create s.machine o).2.Unasked (s.run c).2.machine := by
  have dropped (old : Option Driver) (m : Machine) : m.Unasked (dropReplaced old m) :=
    Machine.unasked_noting.dropReplaced old m
  cases c with
  | makeDriver name request =>
    cases request with
    | blocking => cases asks
    | options o' =>
      cases asks
      simp only [run, makeDriver]
      cases Driver.create s.machine o with
      | mk answer n =>
        cases answer with
        | error e => exact ⟨rfl, rfl, rfl⟩
        | ok d => exact ⟨rfl, dropped (s.scope.drivers.find? name) n⟩
  | makePlatform name request =>
    cases request with
    | blocking | driver => cases asks
    | options o' =>
      cases asks
      simp only [run, driverFor]
      cases Driver.create s.machine o with
      | mk answer n =>
        cases answer with
        | error e => exact ⟨rfl, rfl, rfl⟩
        | ok d => exact ⟨rfl, dropped _ n⟩
  | _ => cases asks

theorem ringSupport_run (s : Session) (c : Command) :
    (s.run c).2.machine.ringSupport =
      if c.leavesOpen then some (Ring.supported s.machine).1 else s.machine.ringSupport := by
  unfold Command.leavesOpen
  cases asks : c.options? with
  | none => exact (s.unasked_run asks).support
  | some o =>
    rw [(s.run_request asks).2.support, Driver.ringSupport_create]
    simp

/-- What is on record stays there. -/
theorem ringSupport_step (s : Session) (c : Command) :
    (s.step c).2.machine.ringSupport =
      if c.leavesOpen then some (Ring.supported s.afresh.machine).1
      else s.machine.ringSupport :=
  ringSupport_run s.afresh c

theorem steps_of_known {s : Session} {known : Bool} (h : s.machine.ringSupport = some known)
    (history : List Command) : (s.steps history).2.machine.ringSupport = some known := by
  induction history generalizing s with
  | nil => exact h
  | cons c rest ih =>
    refine ih (s := (s.step c).2) ?_
    rw [ringSupport_step, h, Ring.supported_of_known (m := s.afresh.machine) h]
    split <;> rfl

/-- Something is on record if it was before, or if a request has left the choice open. -/
theorem isSome_ringSupport_steps (s : Session) (history : List Command) :
    (s.steps history).2.machine.ringSupport.isSome =
      (s.machine.ringSupport.isSome || history.any Command.leavesOpen) := by
  induction history generalizing s with
  | nil => exact (Bool.or_false _).symm
  | cons c rest ih =>
    refine (ih (s.step c).2).trans ?_
    rw [ringSupport_step, List.any_cons, ← Bool.or_assoc]
    congr 1
    cases c.leavesOpen <;> simp

theorem steps_snd_append (s : Session) (earlier later : List Command) :
    (s.steps (earlier ++ later)).2 = ((s.steps earlier).2.steps later).2 := by
  induction earlier generalizing s with
  | nil => rfl
  | cons c rest ih => exact ih (s.step c).2

/-- All requests of a session, and what is on record about rings. It goes on record with the first
request that leaves the choice open, if it was not before, and each request is answered as the
record tells or as its own ring does. No other command asks about rings. -/
theorem steps_requests (s : Session) (history : List Command) :
    ∃ recorded : Bool, (∀ known, s.machine.ringSupport = some known → recorded = known) ∧
      ∀ earlier c later, history = earlier ++ c :: later →
        let t := (s.steps earlier).2
        let m := t.afresh.machine
        (∀ o, c.options? = some o →
          Driver.Answered m o (s.machine.ringSupport.isSome || earlier.any Command.leavesOpen)
            recorded ∧
          (t.step c).1.reply = (match (Driver.create m o).1 with
            | .ok d => .kind d.kind
            | .error e => .failed (.error (.io e))) ∧
          (t.step c).1.journal.setups = (Driver.create m o).2.journal.setups) ∧
        (c.options? = none → (t.step c).1.journal.setups = []) := by
  refine ⟨(s.steps history).2.machine.ringSupport.getD false, fun known h => ?_, ?_⟩
  · rw [steps_of_known h]
    rfl
  · rintro earlier c later rfl t m
    refine ⟨fun o asks => ⟨?_, ?_⟩, fun other => ?_⟩
    · have known : m.ringSupport.isSome =
          (s.machine.ringSupport.isSome || earlier.any Command.leavesOpen) :=
        isSome_ringSupport_steps s earlier
      rw [← known]
      refine Driver.answered m o fun auto => ?_
      -- What this request finds on record, or puts there, is there at the end.
      have leavesOpen : c.leavesOpen = true := by simp [Command.leavesOpen, asks, auto]
      have stepped : (t.step c).2.machine.ringSupport = some (Ring.supported m).1 := by
        rw [ringSupport_step, if_pos leavesOpen]
      have final := steps_of_known stepped later
      rw [steps_snd_append]
      change _ = ((t.step c).2.steps later).2.machine.ringSupport.getD false
      rw [final]
      rfl
    · obtain ⟨reply, unasked⟩ := t.afresh.run_request asks
      exact ⟨reply, unasked.setups⟩
    · exact (t.afresh.unasked_run other).setups

/-- The first request is for a ring, and there is one. Then none is to be had for a while, and that
goes on record. The third request does not try again, though it could have had a ring. -/
example :
    let refused : Schedule := { setup := [none, some .noEntry] }
    let open' := DriverRequest.options { driver := .auto }
    let history : List Command :=
      [.makeDriver "a" (.options { driver := .ring }), .makeDriver "b" open', .makeDriver "c" open']
    (steps { scope := { machine := { schedule := refused } } } history).1.map
      (·.journal.setups) = [[8], [2], []] := by
  decide

end Session

end WholeFile
