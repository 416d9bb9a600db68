import WholeFile.Proofs.Driver.Paired
import WholeFile.Proofs.Driver.Retry
import WholeFile.Proofs.Machine.Disturbed

/-!
# Files are read and written through more interruptions

Two drivers go through the same operations, one on a machine with more interruptions to come. An
attempt that one of these interruptions stops leaves everything as it was, so the next one starts
where the other driver has stayed. All others come to the same.
-/

namespace WholeFile

/-! ## What one attempt comes to -/

/-- What arrives of the kernel's answer, which a ring carries in another form. -/
def DriverKind.arrived : DriverKind → Except Errno Nat → Except IoError Nat
  | .ring, answer => delivered answer
  | _, answer => answer.mapError .os

theorem DriverKind.arrived_interrupted (k : DriverKind) :
    k.arrived (.error .interrupted) = .error (.os .interrupted) := by
  cases k with
  | auto | blocking => rfl
  | ring => exact delivered_error (by decide)

/-- Transfers can be relied on. Where there are no `rings`, they are made by blocking calls. -/
def Backend.Fit (rings : Prop) : Backend → Prop
  | .blocking => True
  | .ring r => rings ∧ r.Settled ∧ r.poisoned = false

/-- Two backends of one kind. Their rings may have been used differently. -/
structure Backend.Alike (rings : Prop) (b c : Backend) : Prop where
  kind : b.kind = c.kind
  first : b.Fit rings
  second : c.Fit rings

theorem EnterAnswer.Calm.not_fails {a : EnterAnswer} (calm : a.Calm) : ¬ a.Fails := by
  rintro ⟨e, he, ne⟩
  exact ne (calm.2 e he)

theorem Schedule.Calm.strayless {s : Schedule} (calm : s.Calm) : s.Strayless := fun a ha =>
  (calm a ha).1

namespace Host

/-- The attempt has come to what the kernel answered to the transfer `t`. -/
structure Completes (rings : Prop) (h : Host) (fd : Descriptor) (offset : Nat) (t : Transfer)
    (loan : Loan) (a : Attempt) : Prop where
  result : a.result = h.backend.kind.arrived (h.machine.perform fd offset t loan).answer
  lent : a.loan = (h.machine.perform fd offset t loan).loan
  plain : a.host.machine.plain = (h.machine.perform fd offset t loan).machine.plain
  before : h.machine.Before a.host.machine
  kind : a.host.backend.kind = h.backend.kind
  fit : a.host.backend.Fit rings

end Host

theorem Ring.attempt_completes {rings : Prop} {r : Ring} {m : Machine} {loan : Loan}
    (fit : (Backend.ring r).Fit rings) (calm : m.schedule.Calm) (since : loan.since ≤ r.issued)
    (fd : Descriptor) (offset : Nat) (t : Transfer) :
    Host.Completes rings ⟨m, .ring r⟩ fd offset t loan (r.attempt m fd offset t loan) := by
  obtain ⟨there, settled, sound⟩ := fit
  have serves := transfer_serves settled calm.strayless fd offset t loan
  have after := settled_transfer settled calm.strayless fd offset t loan
  have before := before_transfer r m fd offset t loan
  simp only [attempt]
  generalize (r.transfer m fd offset t loan).1 = result at serves ⊢
  generalize (r.transfer m fd offset t loan).2 = w at serves after before ⊢
  cases serves with
  | refused poisoned =>
    rw [sound] at poisoned
    cases poisoned
  | givenUp _ _ _ _ _ _ cause =>
    obtain ⟨a, ha, fails⟩ := cause
    exact absurd fails (calm a ha).not_fails
  | carriedOut _ poisoned quiet cause =>
    have still : poisoned = false := by
      apply Bool.eq_false_iff.2
      intro sealed
      obtain ⟨a, ha, fails⟩ := cause sealed
      exact (calm a ha).not_fails fails
    refine ⟨?_, ?_, ?_, before, rfl, there, after, ?_⟩
    · rw [Wait.answered_eq]
      rfl
    · rw [Wait.loan_of_quiet quiet]
      exact Wait.loan_execute (w := ⟨m, r.ticketed, loan⟩) since
    · rw [Machine.plain_eq_of_quiet_eq (Wait.machine_of_quiet quiet)]
      exact Wait.machine_execute ⟨m, r.ticketed, loan⟩ _
    · rw [Wait.ring_of_quiet quiet]
      exact still

namespace Host

variable {rings : Prop} {h k : Host} {fd : Descriptor} {offset : Nat} {l l' : Loan}

theorem tryRead_completes (fit : h.backend.Fit rings) (calm : rings → h.machine.schedule.Calm)
    (since : l.since ≤ h.issued) (fd : Descriptor) (offset : Nat) (target : Target) :
    h.Completes rings fd offset (h.reading offset target l) l (h.tryRead fd offset target l) := by
  obtain ⟨m, backend⟩ := h
  cases backend with
  | blocking => exact ⟨rfl, rfl, rfl, m.before_read .., rfl, trivial⟩
  | ring r => exact Ring.attempt_completes fit (calm fit.1) since fd offset _

/-- What was lent for the attempt can be lent for another one. -/
theorem tryRead_since (fit : h.backend.Fit rings) (calm : rings → h.machine.schedule.Calm)
    (since : l.since ≤ h.issued) (fd : Descriptor) (offset : Nat) (target : Target) :
    (h.tryRead fd offset target l).loan.since ≤ (h.tryRead fd offset target l).host.issued := by
  have same (answer : Except Errno Bytes) : (l.landed offset target answer).since = l.since := by
    unfold Loan.landed
    split
    · rfl
    · cases target <;> rfl
  rw [(tryRead_completes fit calm since fd offset target).lent]
  exact Nat.le_trans (Nat.le_of_eq (same _))
    (Nat.le_trans since (issued_lasting.tryRead h fd offset target l))

theorem tryWrite_completes (fit : h.backend.Fit rings) (calm : rings → h.machine.schedule.Calm)
    (fd : Descriptor) (offset : Nat) (bytes : Bytes) :
    h.Completes rings fd offset (h.writing bytes) (.nothing h.issued)
      (h.tryWrite fd offset bytes) := by
  obtain ⟨m, backend⟩ := h
  cases backend with
  | blocking =>
    rw [writing_of_blocking]
    exact ⟨rfl, rfl, rfl, m.before_write .., rfl, trivial⟩
  | ring r =>
    rw [writing_of_ring]
    exact Ring.attempt_completes fit (calm fit.1) (Nat.le_refl _) fd offset _

end Host

/-! ## One attempt on each side -/

/-- A transfer is interrupted once more, or goes the same way. -/
theorem Machine.Disturbed.perform {rings : Prop} {m n : Machine} {l l' : Loan}
    (h : m.Disturbed rings n) (alike : l.Alike l') (fd : Descriptor) (offset : Nat) (t : Transfer) :
    ((n.perform fd offset t l').answer = .error .interrupted ∧
        m.Disturbed rings (n.perform fd offset t l').machine) ∨
      ((m.perform fd offset t l).answer = (n.perform fd offset t l').answer ∧
        (m.perform fd offset t l).loan.Alike (n.perform fd offset t l').loan ∧
        (m.perform fd offset t l).machine.Disturbed rings (n.perform fd offset t l').machine) := by
  cases t with
  | read length target =>
    simp only [Machine.perform]
    rcases h.read fd length offset with ⟨signal, after⟩ | ⟨same, after⟩
    · rw [signal]
      exact .inl ⟨rfl, after⟩
    · rw [same]
      exact .inr ⟨rfl, alike.landed .., after⟩
  | write bytes =>
    rcases h.write fd bytes offset with more | ⟨same, after⟩
    · exact .inl more
    · exact .inr ⟨same, alike, after⟩

namespace Host

/-- `k` is `h` with more interruptions to come. -/
structure Disturbed (rings : Prop) (h k : Host) : Prop where
  machine : h.machine.Disturbed rings k.machine
  backend : h.backend.Alike rings k.backend

variable {rings : Prop} {h k : Host} {fd : Descriptor} {offset : Nat} {l l' : Loan}

namespace Disturbed

theorem calm (related : h.Disturbed rings k) :
    (rings → h.machine.schedule.Calm) ∧ (rings → k.machine.schedule.Calm) :=
  ⟨fun there => (related.machine.schedule.enter there).1,
    fun there => (related.machine.schedule.enter there).2⟩

/-- An attempt is interrupted once more, or goes the same way. -/
theorem tries {t : Transfer} {a b : Attempt} (related : h.Disturbed rings k) (alike : l.Alike l')
    (first : h.Completes rings fd offset t l a) (second : k.Completes rings fd offset t l' b) :
    (b.interrupted = true ∧ l.Alike b.loan ∧ h.Disturbed rings b.host) ∨
      a.Paired (Disturbed rings) b := by
  have result := second.result
  rw [← related.backend.kind] at result
  rcases related.machine.perform alike fd offset t with ⟨signal, after⟩ | ⟨same, lent, after⟩
  · left
    rw [signal, DriverKind.arrived_interrupted] at result
    refine ⟨?_, ?_, ?_, ?_⟩
    · unfold Attempt.interrupted
      rw [result]
      rfl
    · rw [second.lent, Machine.loan_perform_of_error signal]
      exact alike
    · exact after.of_plain rfl second.plain fun there =>
        ⟨related.calm.1 there, (related.calm.2 there).of_leftOf second.before.schedule⟩
    · exact ⟨related.backend.kind.trans second.kind.symm, related.backend.first, second.fit⟩
  · right
    refine ⟨?_, ?_, ?_, ?_⟩
    · rw [first.result, result, same]
    · rw [first.lent, second.lent]
      exact lent
    · exact after.of_plain first.plain second.plain fun there =>
        ⟨(related.calm.1 there).of_leftOf first.before.schedule,
          (related.calm.2 there).of_leftOf second.before.schedule⟩
    · exact ⟨first.kind.trans (related.backend.kind.trans second.kind.symm), first.fit, second.fit⟩

theorem tryRead (related : h.Disturbed rings k) (alike : l.Alike l') (since : l.since ≤ h.issued)
    (since' : l'.since ≤ k.issued) (target : Target) :
    ((k.tryRead fd offset target l').interrupted = true ∧
        l.Alike (k.tryRead fd offset target l').loan ∧
        h.Disturbed rings (k.tryRead fd offset target l').host) ∨
      (h.tryRead fd offset target l).Paired (Disturbed rings) (k.tryRead fd offset target l') := by
  have same : k.reading offset target l' = h.reading offset target l := by
    unfold reading
    rw [related.backend.kind, alike.room]
  have second := tryRead_completes related.backend.second
    related.calm.2 since' fd offset target
  rw [same] at second
  have first := tryRead_completes related.backend.first related.calm.1 since fd offset target
  exact related.tries alike first second

theorem tryWrite (related : h.Disturbed rings k) (bytes : Bytes) :
    ((k.tryWrite fd offset bytes).interrupted = true ∧
        h.Disturbed rings (k.tryWrite fd offset bytes).host) ∨
      (h.tryWrite fd offset bytes).Paired (Disturbed rings) (k.tryWrite fd offset bytes) := by
  have same : k.writing bytes = h.writing bytes := by
    unfold writing
    rw [related.backend.kind]
  have second := tryWrite_completes related.backend.second
    related.calm.2 fd offset bytes
  rw [same] at second
  have alike : (Loan.nothing h.issued).Alike (.nothing k.issued) := ⟨rfl, rfl⟩
  have tried := related.tries alike
    (tryWrite_completes related.backend.first related.calm.1 fd offset bytes) second
  exact tried.imp_left fun ⟨signal, _, after⟩ => ⟨signal, after⟩

/-! ## Transfers that outlast signals -/

theorem readAt (related : h.Disturbed rings k) (alike : l.Alike l') (since : l.since ≤ h.issued)
    (since' : l'.since ≤ k.issued) (target : Target) :
    (h.readAt fd offset target l).Paired (Disturbed rings) (k.readAt fd offset target l') := by
  revert h l
  fun_induction Host.readAt k fd offset target l' with
  | case1 k l' b hi ih =>
    intro h l related alike since
    have second := tryRead_since related.backend.second
      related.calm.2 since' fd offset target
    rcases related.tryRead alike since since' target with ⟨-, kept, after⟩ | paired
    -- The first host has not made this attempt.
    · exact ih second after kept since
    · rw [readAt_of_interrupted (paired.interrupted.trans hi)]
      exact ih second paired.host paired.loan
        (tryRead_since related.backend.first related.calm.1 since fd offset target)
  | case2 k l' b hi =>
    intro h l related alike since
    have quiet : b.interrupted = false := Bool.eq_false_iff.2 hi
    rcases related.tryRead alike since since' target with ⟨signal, -⟩ | paired
    · exact absurd signal hi
    · rw [readAt_of_not_interrupted (paired.interrupted.trans quiet)]
      exact paired

theorem writeAt (related : h.Disturbed rings k) (bytes : Bytes) :
    (h.writeAt fd offset bytes).Paired (Disturbed rings) (k.writeAt fd offset bytes) := by
  revert h
  fun_induction Host.writeAt k fd offset bytes
  case case1 k b hi ih =>
    intro h related
    rcases related.tryWrite bytes with ⟨-, after⟩ | paired
    · exact ih after
    · rw [writeAt_of_interrupted (paired.interrupted.trans hi)]
      exact ih paired.host
  case case2 k b hi =>
    intro h related
    have quiet : b.interrupted = false := Bool.eq_false_iff.2 hi
    rcases related.tryWrite bytes with ⟨signal, -⟩ | paired
    · exact absurd signal hi
    · rw [writeAt_of_not_interrupted (paired.interrupted.trans quiet)]
      exact paired

/-! ## Whole operations -/

theorem agrees {α : Type} {call : Machine → α × Machine} (steady : Machine.Steady rings call) :
    Agrees (Disturbed rings) call := by
  intro h k related
  obtain ⟨answer, after⟩ := steady related.machine
  exact ⟨answer, after, related.backend⟩

end Disturbed

theorem disturbed_paired : Paired (Disturbed rings) fun _ => True where
  split _ := ⟨trivial, trivial⟩
  readAt _ _ target related alike since since' _ := related.readAt alike since since' target
  writeAt _ _ bytes related _ := related.writeAt bytes
  openPath p access mode := Disturbed.agrees (Machine.steady_openPath p access mode)
  size fd := Disturbed.agrees (Machine.steady_size fd)
  close fd := Disturbed.agrees (Machine.steady_close fd)
  log level source message := Disturbed.agrees (Machine.steady_log level source message)

end Host

/-! ## Drivers -/

/-- Two drivers that were made in the same way. -/
structure Driver.Alike (rings : Prop) (d e : Driver) : Prop where
  backend : d.backend.Alike rings e.backend
  fileMode : d.fileMode = e.fileMode

/-- Two operations that came to the same, the second through more interruptions. -/
structure Run.Alike (rings : Prop) {ε α : Type} (x y : Run ε α) : Prop where
  result : x.result = y.result
  driver : x.driver.Alike rings y.driver
  machine : x.machine.Disturbed rings y.machine

namespace Driver

variable {rings : Prop} {d e : Driver} {m m' n : Machine}

theorem alike_blocking : blocking.Alike rings .blocking := ⟨⟨rfl, trivial, trivial⟩, rfl⟩

namespace Alike

theorem kind (alike : d.Alike rings e) : d.kind = e.kind := by
  have same := alike.backend.kind
  unfold Driver.kind
  cases hd : d.backend <;> cases he : e.backend <;> rw [hd, he] at same <;> first | rfl | cases same

theorem host (alike : d.Alike rings e) (h : m.Disturbed rings n) :
    (d.host m).Disturbed rings (e.host n) := ⟨h, alike.backend⟩

theorem readFile (alike : d.Alike rings e) (h : m.Disturbed rings n) (p : Path) :
    (d.readFile m p).Alike rings (e.readFile n p) := by
  obtain ⟨result, last⟩ := paired_readFile Host.disturbed_paired (alike.host h) p trivial
  refine ⟨result, ⟨last.backend, ?_⟩, last.machine⟩
  rw [fileMode_readFile, fileMode_readFile, alike.fileMode]

theorem writeFile (alike : d.Alike rings e) (h : m.Disturbed rings n) (p : Path) (bytes : Bytes) :
    (d.writeFile m p bytes).Alike rings (e.writeFile n p bytes) := by
  obtain ⟨result, last⟩ := paired_writeFile Host.disturbed_paired (alike.host h) alike.fileMode p
    bytes trivial
  refine ⟨result, ⟨last.backend, ?_⟩, last.machine⟩
  rw [fileMode_writeFile, fileMode_writeFile, alike.fileMode]

theorem drop (alike : d.Alike rings e) (h : m.Disturbed rings n) :
    (d.drop m).Disturbed rings (e.drop n) := by
  have same := alike.backend.kind
  unfold Driver.drop
  cases hd : d.backend <;> cases he : e.backend <;> rw [hd, he] at same
  · exact h
  · cases same
  · cases same
  · exact h.record ..

end Alike

end Driver

/-! ## Making drivers -/

theorem Ring.steady_create {rings : Prop} (entries : Nat) :
    Machine.Steady rings fun m => create m entries := by
  intro m n h
  obtain ⟨answer, m', n', hm, hn, after⟩ := (Machine.steady_setup entries).both h
  simp only [create, hm, hn]
  cases answer with
  | error e => exact ⟨rfl, after⟩
  | ok r =>
    obtain ⟨probed, m'', n'', hm, hn, after⟩ := Machine.steady_probe.both after
    simp only [hm, hn]
    cases probed with
    | error e => exact ⟨rfl, after.record ..⟩
    | ok operations =>
      dsimp only
      cases operations.all fun had => transferOperations.all had.contains
      · exact ⟨rfl, after.record ..⟩
      · exact ⟨rfl, after⟩

theorem Ring.steady_supported {rings : Prop} : Machine.Steady rings supported := by
  intro m n h
  unfold supported
  rw [h.ringSupport]
  cases n.ringSupport with
  | some known => exact ⟨rfl, h⟩
  | none =>
    obtain ⟨tried, m', n', hm, hn, after⟩ := (steady_create 2).both h
    simp only [hm, hn]
    cases tried with
    | error e => exact ⟨rfl, after.files, after.umask, after.descriptors, rfl, after.schedule⟩
    | ok r => exact ⟨rfl, after.files, after.umask, after.descriptors, rfl, after.schedule⟩

namespace Driver

variable {rings : Prop} {d : Driver} {m m' : Machine} {o : Options}

theorem steady_autoBackend (entries : Nat) :
    Machine.Steady rings fun m => autoBackend m entries := by
  intro m n h
  obtain ⟨supported, m', n', hm, hn, after⟩ := Ring.steady_supported.both h
  simp only [autoBackend, hm, hn]
  cases supported with
  | false => exact ⟨rfl, after⟩
  | true =>
    obtain ⟨made, m'', n'', hm, hn, after⟩ := (Ring.steady_create entries).both after
    simp only [hm, hn]
    cases made with
    | error e => exact ⟨rfl, after.log ..⟩
    | ok r => exact ⟨rfl, after⟩

theorem steady_create (o : Options) : Machine.Steady rings fun m => create m o := by
  have chosen : Machine.Steady rings fun m => chooseBackend m o := by
    intro m n h
    simp only [chooseBackend]
    cases o.driver with
    | blocking => exact ⟨rfl, h⟩
    | ring =>
      obtain ⟨made, m', n', hm, hn, after⟩ := (Ring.steady_create o.entries).both h
      rw [hm, hn]
      exact ⟨rfl, after⟩
    | auto =>
      obtain ⟨backend, m', n', hm, hn, after⟩ := (steady_autoBackend o.entries).both h
      rw [hm, hn]
      exact ⟨rfl, after⟩
  intro m n h
  obtain ⟨backend, m', n', hm, hn, after⟩ := chosen.both h
  simp only [create, hm, hn]
  cases backend with
  | error e => exact ⟨rfl, after⟩
  | ok b => exact ⟨rfl, after.log ..⟩

/-- A new driver can be relied on. -/
theorem alike_create (made : create m o = (.ok d, m')) (there : d.kind = .ring → rings) :
    d.Alike rings d := by
  have fit : d.backend.Fit rings := by
    cases hb : d.backend with
    | blocking => exact trivial
    | ring r =>
      obtain ⟨_, _, _, fresh⟩ := ring_of_create made hb
      refine ⟨there ?_, Ring.settled_of_create fresh, ?_⟩
      · unfold kind
        rw [hb]
      · rw [Ring.create_eq_ok fresh]
  exact ⟨⟨rfl, fit, fit⟩, rfl⟩

end Driver

end WholeFile
