import WholeFile.Proofs.Ring.Settled

/-!
# Rings carry out each entry once

A driver makes one call after another on its ring, and anything may happen to the machine between
two of them. Whatever the kernel does during the calls, each of them returns with nothing under way,
and each entry is carried out once or not at all. A call comes to what the kernel answered to its own
entry, or to the failure because of which the entry was given up.
-/

namespace WholeFile

/-! ## What rings carried out -/

/-- The ticket of the entry that was carried out. -/
def Call.ticket? : Call → Option Nat
  | ringRead ticket _ _ _ _ => some ticket
  | ringWrite ticket _ _ _ _ => some ticket
  | _ => none

theorem Call.acts_of_ticket {c : Call} {ticket : Nat} (h : c.ticket? = some ticket) :
    (Event.call c).acts = true := by
  cases c <;> first | rfl | cases h

namespace Journal

/-- The entries that rings carried out, with the kernel's answers. -/
def carried (j : Journal) : List Call := j.calls.filter (·.ticket?.isSome)

theorem carried_append (i j : Journal) : carried (i ++ j) = carried i ++ carried j := by
  unfold carried
  rw [calls_append, List.filter_append]

theorem carried_filter_acts (j : Journal) : carried (j.filter Event.acts) = carried j := by
  induction j with
  | nil => rfl
  | cons event j ih =>
    rw [← List.singleton_append, List.filter_append, carried_append, carried_append, ih]
    congr 1
    cases event with
    | call c => cases c <;> rfl
    | log l => rfl

end Journal

/-- The kernel has carried out `e` once: what it recorded, what arrived of its answer, and what
became of the memory lent. -/
inductive Entry.CarriedOut (e : Entry) (loan : Loan) : Call → Except IoError Nat → Loan → Prop
  | read {length : Nat} {target : Target} (transfer : e.transfer = .read length target)
      (answer : Except Errno Bytes) :
      CarriedOut e loan (.ringRead e.ticket e.fd length e.offset answer)
        (delivered (answer.map List.length)) (loan.receive e target answer)
  | write {bytes : Bytes} (transfer : e.transfer = .write bytes) (answer : Except Errno Nat) :
      CarriedOut e loan (.ringWrite e.ticket e.fd bytes e.offset answer) (delivered answer) loan

theorem Entry.CarriedOut.ticket {e : Entry} {loan landed : Loan} {c : Call}
    {result : Except IoError Nat} (h : e.CarriedOut loan c result landed) :
    c.ticket? = some e.ticket := by
  cases h <;> rfl

theorem Wait.carriedOut_execute (w : Wait) (e : Entry) :
    ∃ c, e.CarriedOut w.loan c (delivered (w.answered e)) (w.execute e).loan ∧
      (w.execute e).machine.journal = w.machine.journal ++ [.call c] := by
  unfold answered execute
  cases ht : e.transfer with
  | read length target =>
    refine ⟨_, .read ht (w.machine.transferIn e.fd length e.offset).1, ?_⟩
    simp only [Machine.record, Machine.journal_transferIn]
  | write bytes =>
    refine ⟨_, .write ht (w.machine.transferOut e.fd bytes e.offset).1, ?_⟩
    simp only [Machine.record, Machine.journal_transferOut]

/-! ## Calls of a driver -/

/-- One attempt of a driver to read or to write, on the machine that it finds. -/
inductive RingCall where
  | read (machine : Machine) (fd : Descriptor) (offset : Nat) (target : Target) (loan : Loan)
  | write (machine : Machine) (fd : Descriptor) (offset : Nat) (bytes : Bytes)

namespace RingCall

def machine : RingCall → Machine
  | read machine _ _ _ _ => machine
  | write machine _ _ _ => machine

def attempt (c : RingCall) (r : Ring) : Attempt :=
  match c with
  | read machine fd offset target loan => Host.tryRead ⟨machine, .ring r⟩ fd offset target loan
  | write machine fd offset bytes => Host.tryWrite ⟨machine, .ring r⟩ fd offset bytes

/-- The entry that is pushed for the call. No entry asks for more than `maxRequest`. -/
def entry (c : RingCall) (ticket : Nat) : Entry :=
  match c with
  | read _ fd offset target loan =>
    ⟨ticket, fd, offset, .read (min (loan.room offset target) maxRequest) target⟩
  | write _ fd offset bytes => ⟨ticket, fd, offset, .write (bytes.take maxRequest)⟩

def loan (c : RingCall) (issued : Nat) : Loan :=
  match c with
  | read _ _ _ _ loan => loan
  | write _ _ _ _ => .nothing issued

theorem ticket_entry (c : RingCall) (ticket : Nat) : (c.entry ticket).ticket = ticket := by
  cases c <;> rfl

theorem serves_attempt {r : Ring} (settled : r.Settled) (c : RingCall)
    (strayless : c.machine.schedule.Strayless) :
    ∃ w : Wait, r.Serves c.machine (c.entry r.issued) (c.loan r.issued) (c.attempt r).result w ∧
      c.machine.Before w.machine ∧ (c.attempt r).loan = w.loan ∧
      (c.attempt r).host = ⟨w.machine, .ring w.ring⟩ := by
  cases c with
  | read machine fd offset target loan =>
    exact ⟨_, Ring.transfer_serves settled strayless _ _ _ _, Ring.before_transfer .., rfl, rfl⟩
  | write machine fd offset bytes =>
    exact ⟨_, Ring.transfer_serves settled strayless _ _ _ _, Ring.before_transfer .., rfl, rfl⟩

end RingCall

/-- A call that has been made, and the ring before and after it. -/
structure Served where
  call : RingCall
  before : Ring
  attempt : Attempt
  after : Ring

def Attempt.ring? (a : Attempt) : Option Ring :=
  match a.host.backend with
  | .ring r => some r
  | .blocking => none

def Ring.serve (r : Ring) (c : RingCall) : Served :=
  ⟨c, r, c.attempt r, (c.attempt r).ring?.getD r⟩

/-- Makes the calls one after another, each with the ring that the call before has left. -/
def Ring.serveAll (r : Ring) : List RingCall → List Served
  | [] => []
  | c :: calls => r.serve c :: (r.serve c).after.serveAll calls

namespace Served

def entry (s : Served) : Entry := s.call.entry s.before.issued

def loan (s : Served) : Loan := s.call.loan s.before.issued

def journal (s : Served) : Journal := s.call.machine.since s.attempt.host.machine

/-- The tickets of the entries that were carried out during the call. -/
def tickets (s : Served) : List Nat := s.journal.carried.filterMap Call.ticket?

/-- The kernel is done with everything that it was handed, so it no longer touches what was lent. -/
structure Quiescent (s : Served) : Prop where
  ring : s.attempt.host.backend = .ring s.after
  inFlight : s.after.inFlight = []
  posted : s.after.posted = []
  abandoned : s.after.queued ≠ [] → s.after.poisoned = true

/-- How a call went, and what the kernel has done for it. -/
inductive Accounted (s : Served) : Prop
  /-- The entry was carried out, and nothing else was. -/
  | carriedOut (c : Call) (once : s.journal.carried = [c])
      (answered : s.entry.CarriedOut s.loan c s.attempt.result s.attempt.loan)
      (empty : s.after.queued = [])
  /-- A wait failed before the kernel had seen the entry, which will never be handed over. -/
  | givenUp (errno : Errno) (ne : errno ≠ .interrupted)
      (failed : ∃ queued, .call (.enter queued (.error errno)) ∈ s.journal)
      (never : s.journal.carried = []) (result : s.attempt.result = .error (.os errno))
      (loan : s.attempt.loan = s.loan) (left : s.after.queued = [s.entry])
      (poisoned : s.after.poisoned = true)
  /-- The ring was poisoned already. -/
  | refused (poisoned : s.before.poisoned = true)
      (result : s.attempt.result = .error .ringPoisoned) (loan : s.attempt.loan = s.loan)
      (nothing : s.journal = []) (same : s.after = s.before)

end Served

namespace Ring

variable {r : Ring} {c : RingCall}

theorem attempt_serve (settled : r.Settled) (strayless : c.machine.schedule.Strayless) :
    ∃ w : Wait, r.Serves c.machine (r.serve c).entry (r.serve c).loan (r.serve c).attempt.result w ∧
      c.machine.Before w.machine ∧ (r.serve c).attempt.loan = w.loan ∧
      (r.serve c).journal = c.machine.since w.machine ∧ (r.serve c).after = w.ring ∧
      (r.serve c).attempt.host.backend = .ring w.ring := by
  obtain ⟨w, serves, before, loan, host⟩ := c.serves_attempt settled strayless
  refine ⟨w, serves, before, loan, ?_, ?_, ?_⟩
  · simp only [Served.journal, serve, host]
  · simp only [serve, Attempt.ring?, host, Option.getD_some]
  · simp only [serve, host]

theorem settled_serve (settled : r.Settled) (strayless : c.machine.schedule.Strayless) :
    (r.serve c).after.Settled := by
  obtain ⟨w, serves, -, -, -, after, -⟩ := attempt_serve settled strayless
  rw [after]
  exact serves.settled settled

theorem quiescent_serve (settled : r.Settled) (strayless : c.machine.schedule.Strayless) :
    (r.serve c).Quiescent := by
  obtain ⟨w, -, -, -, -, after, backend⟩ := attempt_serve settled strayless
  have left := settled_serve settled strayless
  refine ⟨?_, left.inFlight, left.posted, left.abandoned⟩
  rw [after, backend]

theorem issued_serve (settled : r.Settled) (strayless : c.machine.schedule.Strayless) :
    r.issued ≤ (r.serve c).after.issued ∧
      (r.poisoned = false → (r.serve c).after.issued = r.issued + 1) := by
  obtain ⟨w, serves, -, -, -, after, -⟩ := attempt_serve settled strayless
  rw [after]
  generalize (r.serve c).attempt.result = result at serves
  cases serves with
  | refused poisoned => simp [poisoned]
  | carriedOut sound poisoned quiet cause =>
    rw [Wait.ring_of_quiet quiet]
    exact ⟨Nat.le_succ _, fun _ => rfl⟩
  | givenUp sound errno queued ne quiet failed cause =>
    rw [Wait.ring_of_quiet quiet]
    exact ⟨Nat.le_succ _, fun _ => rfl⟩

theorem accounted_serve (settled : r.Settled) (strayless : c.machine.schedule.Strayless) :
    (r.serve c).Accounted := by
  obtain ⟨w, serves, before, loan, journal, after, -⟩ := attempt_serve settled strayless
  generalize hresult : (r.serve c).attempt.result = result at serves
  cases serves with
  | refused poisoned =>
    refine .refused poisoned hresult loan ?_ after
    rw [journal, Machine.since_self]
  | carriedOut sound poisoned quiet cause =>
    obtain ⟨call, done, recorded⟩ := Wait.carriedOut_execute
      ⟨c.machine, r.ticketed, (r.serve c).loan⟩ (r.serve c).entry
    have executed := (Wait.leads_execute ⟨c.machine, r.ticketed, (r.serve c).loan⟩
      (r.serve c).entry).before
    have same := Wait.machine_of_quiet quiet
    have did : (c.machine.since w.machine).filter Event.acts = [.call call] := by
      rw [Machine.acts_since before executed same,
        (Machine.since_eq_iff executed).2 recorded]
      exact List.filter_cons_of_pos (Call.acts_of_ticket done.ticket)
    refine .carriedOut call ?_ ?_ ?_
    · rw [journal, ← Journal.carried_filter_acts, did]
      simp [Journal.carried, Journal.calls, Event.call?, done.ticket]
    · rw [hresult, loan, Wait.loan_of_quiet quiet]
      exact done
    · rw [after, Wait.ring_of_quiet quiet]
      exact (settled.idle sound).queued
  | givenUp sound errno queued ne quiet failed cause =>
    refine .givenUp errno ne ⟨queued, ?_⟩ ?_ hresult ?_ ?_ ?_
    · rw [journal]
      exact failed
    · rw [journal, ← Journal.carried_filter_acts,
        Machine.acts_since before (.refl _) (Wait.machine_of_quiet quiet)]
      rw [Machine.since_self]
      rfl
    · rw [loan, Wait.loan_of_quiet quiet]
      rfl
    · rw [after, Wait.ring_of_quiet quiet]
      rfl
    · rw [after, Wait.ring_of_quiet quiet]
      rfl

theorem journal_serve_of_poisoned (settled : r.Settled) (strayless : c.machine.schedule.Strayless)
    (poisoned : r.poisoned = true) : (r.serve c).journal = [] := by
  obtain ⟨w, serves, -, -, journal, -⟩ := attempt_serve settled strayless
  rw [journal]
  generalize (r.serve c).attempt.result = result at serves
  cases serves with
  | refused poisoned => exact Machine.since_self _
  | carriedOut sound | givenUp sound =>
    rw [sound] at poisoned
    cases poisoned

theorem tickets_serve (settled : r.Settled) (strayless : c.machine.schedule.Strayless) :
    (r.serve c).tickets = [] ∨
      (r.serve c).tickets = [r.issued] ∧ (r.serve c).after.issued = r.issued + 1 := by
  have none (h : (r.serve c).journal.carried = []) : (r.serve c).tickets = [] := by
    rw [Served.tickets, h]
    rfl
  cases hp : r.poisoned with
  | true =>
    left
    apply none
    rw [journal_serve_of_poisoned settled strayless hp]
    rfl
  | false =>
    cases accounted_serve settled strayless with
    | carriedOut call once answered empty =>
      refine .inr ⟨?_, (issued_serve settled strayless).2 hp⟩
      have ticket : call.ticket? = some r.issued := by
        rw [answered.ticket]
        exact congrArg some (c.ticket_entry r.issued)
      simp [Served.tickets, once, ticket]
    | givenUp errno ne failed never => exact .inl (none never)
    | refused poisoned result loan nothing =>
      left
      apply none
      rw [nothing]
      rfl

/-! ## All calls -/

variable {calls : List RingCall}

theorem serveAll_all (settled : r.Settled) (strayless : ∀ c ∈ calls, c.machine.schedule.Strayless) :
    ∀ s ∈ r.serveAll calls, s.Quiescent ∧ s.Accounted := by
  induction calls generalizing r with
  | nil =>
    intro s hs
    cases hs
  | cons c calls ih =>
    have first := strayless c List.mem_cons_self
    intro s hs
    rcases List.mem_cons.1 hs with rfl | hs
    · exact ⟨quiescent_serve settled first, accounted_serve settled first⟩
    · apply ih (settled_serve settled first) _ s hs
      intro c' hc
      exact strayless c' (List.mem_cons_of_mem _ hc)

/-- Later calls use later tickets. -/
theorem tickets_serveAll (settled : r.Settled)
    (strayless : ∀ c ∈ calls, c.machine.schedule.Strayless) :
    (∀ t ∈ (r.serveAll calls).flatMap Served.tickets, r.issued ≤ t) ∧
      ((r.serveAll calls).flatMap Served.tickets).Nodup := by
  induction calls generalizing r with
  | nil => simp [serveAll]
  | cons c calls ih =>
    have first := strayless c List.mem_cons_self
    obtain ⟨above, nodup⟩ := ih (settled_serve settled first) fun c' hc =>
      strayless c' (List.mem_cons_of_mem _ hc)
    have le := (issued_serve settled first).1
    rw [serveAll, List.flatMap_cons]
    rcases tickets_serve settled first with none | ⟨one, issued⟩
    · rw [none, List.nil_append]
      exact ⟨fun t ht => Nat.le_trans le (above t ht), nodup⟩
    · rw [one, List.singleton_append, List.nodup_cons]
      refine ⟨?_, ?_, nodup⟩
      · intro t ht
        rcases List.mem_cons.1 ht with rfl | ht
        · exact Nat.le_refl _
        · exact Nat.le_trans le (above t ht)
      · intro ht
        have := above _ ht
        omega

/-- Whatever calls are made with a new ring, and however the waits in them go: each call returns with
nothing under way, it is accounted for by its own entry, and no entry is carried out twice. -/
theorem serveAll_exactly_once {m m' : Machine} {entries : Nat}
    (made : create m entries = (.ok r, m'))
    (strayless : ∀ c ∈ calls, c.machine.schedule.Strayless) :
    (∀ s ∈ r.serveAll calls, s.Quiescent ∧ s.Accounted) ∧
      ((r.serveAll calls).flatMap Served.tickets).Nodup :=
  ⟨serveAll_all (settled_of_create made) strayless,
    (tickets_serveAll (settled_of_create made) strayless).2⟩

/-- A read that is interrupted and whose completion is late, then a write that is never handed
over. -/
theorem serveAll_exactly_once_late_and_lost :
    let r : Ring := { capacity := Nat.nextPowerOfTwo 2 }
    let calls : List RingCall :=
      [.read { schedule.enter := [{ errno := some .interrupted, post := false }, { post := false }] }
        0 0 .probe ⟨[], [0], 0⟩,
      .write { schedule.enter := [{ errno := some ⟨5⟩, take := false }] } 0 0 [1]]
    create {} 2 = (.ok r, (create {} 2).2) ∧ (∀ c ∈ calls, c.machine.schedule.Strayless) ∧
      (∀ s ∈ r.serveAll calls, s.Quiescent ∧ s.Accounted) ∧
        ((r.serveAll calls).flatMap Served.tickets).Nodup := by
  intro r calls
  have made : create {} 2 = (.ok r, (create {} 2).2) := rfl
  have strayless : ∀ c ∈ calls, c.machine.schedule.Strayless := by
    simp [calls, RingCall.machine, Schedule.Strayless]
  exact ⟨made, strayless, serveAll_exactly_once made strayless⟩

end Ring

end WholeFile
