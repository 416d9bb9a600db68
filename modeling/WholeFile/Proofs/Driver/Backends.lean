import WholeFile.Proofs.Driver.Paired
import WholeFile.Proofs.Driver.Writing

/-!
# The two backends do the same

As long as no wait on the ring fails and no request is too long for one entry, a driver with a ring
gives the results that a blocking driver gives, and does the same to the files. Each attempt over the
ring, however it is delayed, keeps up with one blocking call.
-/

namespace WholeFile

/-! ## Requests that fit -/

/-- How many bytes a transfer asks for. -/
def Call.requested : Call → Nat
  | read _ length _ _ => length
  | write _ bytes _ _ => bytes.length
  | _ => 0

/-- No request is too long for one entry of a ring. -/
def Journal.Unclamped (j : Journal) : Prop := ∀ c ∈ j.deeds, c.requested ≤ maxRequest

theorem Journal.Unclamped.split {i j : Journal} (unclamped : Unclamped (i ++ j)) :
    i.Unclamped ∧ j.Unclamped := by
  unfold Unclamped at unclamped ⊢
  rw [deeds_append] at unclamped
  exact ⟨fun c hc => unclamped c (List.mem_append_left _ hc),
    fun c hc => unclamped c (List.mem_append_right _ hc)⟩

theorem Machine.unclamped_split {m n o : Machine} (h : m.Before n) (h' : n.Before o)
    (unclamped : (m.since o).Unclamped) : (m.since n).Unclamped ∧ (n.since o).Unclamped :=
  Journal.Unclamped.split (Machine.since_trans h h' ▸ unclamped)

theorem Machine.unclamped_perform {m : Machine} {fd : Descriptor} {offset : Nat} {t : Transfer}
    {loan : Loan} (unclamped : (m.since (m.perform fd offset t loan).machine).Unclamped) :
    t.length ≤ maxRequest := by
  unfold Journal.Unclamped at unclamped
  rw [deeds_since_perform] at unclamped
  have fits := unclamped _ List.mem_cons_self
  cases t <;> exact fits

/-! ## Alike but for waiting -/

structure Performed.Alike (a b : Performed) : Prop where
  answer : a.answer = b.answer
  loan : a.loan.Alike b.loan
  plain : a.machine.plain = b.machine.plain

theorem Machine.perform_congr {m n : Machine} (h : m.plain = n.plain) {l l' : Loan}
    (alike : l.Alike l') (fd : Descriptor) (offset : Nat) (t : Transfer) :
    (m.perform fd offset t l).Alike (n.perform fd offset t l') := by
  cases t with
  | read length target =>
    obtain ⟨answer, plain⟩ := congr_of_plain (f := fun m => m.read fd length offset)
      (fun m => m.read_plain fd length offset) h
    simp only [perform]
    rw [answer]
    exact ⟨rfl, alike.landed .., plain⟩
  | write bytes =>
    obtain ⟨answer, plain⟩ := congr_of_plain (f := fun m => m.write fd bytes offset)
      (fun m => m.write_plain fd bytes offset) h
    exact ⟨answer, alike, plain⟩

namespace Host

/-- `b` makes blocking calls, and `u` has a ring, on machines that are plainly the same. -/
structure Mirrors (b u : Host) : Prop where
  blocking : b.backend = .blocking
  ring : u.backend.kind = .ring
  ready : u.Ready
  sound : u.backend.poisoned = false
  calm : ∀ a ∈ u.machine.schedule.enter, ¬ a.Fails
  plain : b.machine.plain = u.machine.plain

variable {b b' u u' : Host}

theorem Mirrors.ready_blocking (mirrors : b.Mirrors u) : b.Ready := by
  unfold Ready
  rw [mirrors.blocking]
  exact trivial

theorem Mirrors.next (mirrors : b.Mirrors u) (kind : b'.backend.kind = b.backend.kind)
    (onward : u.Onward u') (plain : b'.machine.plain = u'.machine.plain) : b'.Mirrors u' where
  blocking := by
    rw [mirrors.blocking] at kind
    cases hb : b'.backend with
    | blocking => rfl
    | ring r =>
      rw [hb] at kind
      cases kind
  ring := onward.kind.trans mirrors.ring
  ready := onward.ready
  sound := by
    apply Bool.eq_false_iff.2
    intro sealed
    rcases onward.cause sealed with now | ⟨a, ha, fails⟩
    · rw [mirrors.sound] at now
      cases now
    · exact mirrors.calm a ha fails
  calm a ha := mirrors.calm a (onward.before.schedule.enter.subset ha)
  plain := plain

end Host

/-! ## One attempt -/

/-- What a blocking attempt is. -/
def Performed.attempt (p : Performed) : Attempt :=
  ⟨p.answer.mapError .os, p.loan, p.machine, .blocking⟩

namespace Host

variable {b b' u : Host} {fd : Descriptor} {offset : Nat} {l l' : Loan}

theorem tryRead_of_blocking (hb : b.backend = .blocking) (fd : Descriptor) (offset : Nat)
    (target : Target) (l : Loan) :
    b.tryRead fd offset target l =
      (b.machine.perform fd offset (.read (l.room offset target) target) l).attempt := by
  obtain ⟨m, backend⟩ := b
  subst hb
  rfl

theorem tryWrite_of_blocking (hb : b.backend = .blocking) (fd : Descriptor) (offset : Nat)
    (bytes : Bytes) :
    b.tryWrite fd offset bytes =
      (b.machine.perform fd offset (.write bytes) (.nothing 0)).attempt := by
  obtain ⟨m, backend⟩ := b
  subst hb
  rfl

theorem Mirrors.tries {t : Transfer} {a : Attempt} (mirrors : b.Mirrors u) (alike : l.Alike l')
    (tries : u.Tries fd offset t l' a) (onward : u.Onward a.host) :
    (b.machine.perform fd offset t l).attempt.Paired Mirrors a := by
  have same := Machine.perform_congr mirrors.plain alike fd offset t
  cases tries with
  | refused e why =>
    cases why with
    | poisoned sealed =>
      rw [mirrors.sound] at sealed
      cases sealed
    | waitFailed sound errno ne failed cause =>
      obtain ⟨x, hx, fails⟩ := cause
      exact absurd fails (mirrors.calm x hx)
  | answered result lent plain =>
    refine ⟨?_, ?_, mirrors.next ?_ onward (same.plain.trans plain.symm)⟩
    · rw [result, ← same.answer]
      rfl
    · rw [lent]
      exact same.loan
    · rw [mirrors.blocking]
      rfl

theorem tryRead_mirrors (mirrors : b.Mirrors u) (alike : l.Alike l') (since : l'.since ≤ u.issued)
    (target : Target)
    (unclamped : (b.machine.since (b.tryRead fd offset target l).host.machine).Unclamped) :
    (b.tryRead fd offset target l).Paired Mirrors (u.tryRead fd offset target l') := by
  rw [tryRead_of_blocking mirrors.blocking] at unclamped ⊢
  have fits : l.room offset target ≤ maxRequest := Machine.unclamped_perform unclamped
  have room := alike.room offset target
  have tries := tryRead_tries mirrors.ready fd offset target since
  have same : u.reading offset target l' = .read (l.room offset target) target := by
    unfold reading
    rw [mirrors.ring, ← room]
    exact congrArg (Transfer.read · target) (Nat.min_eq_left fits)
  rw [same] at tries
  exact mirrors.tries alike tries (tryRead_onward mirrors.ready ..)

theorem tryWrite_mirrors (mirrors : b.Mirrors u) (bytes : Bytes)
    (unclamped : (b.machine.since (b.tryWrite fd offset bytes).host.machine).Unclamped) :
    (b.tryWrite fd offset bytes).Paired Mirrors (u.tryWrite fd offset bytes) := by
  rw [tryWrite_of_blocking mirrors.blocking] at unclamped ⊢
  have fits : bytes.length ≤ maxRequest := Machine.unclamped_perform unclamped
  have tries := tryWrite_tries mirrors.ready fd offset bytes
  have same : u.writing bytes = .write bytes := by
    unfold writing
    rw [mirrors.ring]
    exact congrArg Transfer.write (List.take_of_length_le (Nat.le_min.2 ⟨Nat.le_refl _, fits⟩))
  rw [same] at tries
  have alike : (Loan.nothing 0).Alike (.nothing u.issued) := ⟨rfl, rfl⟩
  exact mirrors.tries alike tries (tryWrite_onward mirrors.ready ..)

/-! ## Transfers that outlast signals -/

theorem readAt_mirrors (mirrors : b.Mirrors u) (alike : l.Alike l') (since : l'.since ≤ u.issued)
    (target : Target)
    (unclamped : (b.machine.since (b.readAt fd offset target l).host.machine).Unclamped) :
    (b.readAt fd offset target l).Paired Mirrors (u.readAt fd offset target l') := by
  revert u l'
  fun_induction readAt b fd offset target l with
  | case1 b l a hi ih =>
    intro u l' mirrors alike since
    have onward := tryRead_onward mirrors.ready_blocking fd offset target l
    obtain ⟨first, rest⟩ := Machine.unclamped_split onward.before
      (readAt_onward onward.ready ..).before unclamped
    have tried := tryRead_mirrors mirrors alike since target first
    have hu : (u.tryRead fd offset target l').interrupted = true := tried.interrupted ▸ hi
    obtain ⟨answer, lent, -⟩ := (tryRead_tries mirrors.ready fd offset target since).of_interrupted hu
    have kept : (u.tryRead fd offset target l').loan = l' := by
      rw [lent, Machine.loan_perform_of_error answer]
    rw [readAt_of_interrupted hu]
    refine ih rest tried.host tried.loan ?_
    rw [kept]
    exact Nat.le_trans since (tryRead_onward mirrors.ready ..).issued
  | case2 b l a hi =>
    intro u l' mirrors alike since
    have tried := tryRead_mirrors mirrors alike since target unclamped
    have hu : (u.tryRead fd offset target l').interrupted = false :=
      tried.interrupted ▸ Bool.eq_false_iff.2 hi
    rw [readAt_of_not_interrupted hu]
    exact tried

theorem writeAt_mirrors (mirrors : b.Mirrors u) (bytes : Bytes)
    (unclamped : (b.machine.since (b.writeAt fd offset bytes).host.machine).Unclamped) :
    (b.writeAt fd offset bytes).Paired Mirrors (u.writeAt fd offset bytes) := by
  revert u
  fun_induction writeAt b fd offset bytes with
  | case1 b a hi ih =>
    intro u mirrors
    have onward := tryWrite_onward mirrors.ready_blocking fd offset bytes
    obtain ⟨first, rest⟩ := Machine.unclamped_split onward.before
      (writeAt_onward onward.ready ..).before unclamped
    have tried := tryWrite_mirrors mirrors bytes first
    have hu : (u.tryWrite fd offset bytes).interrupted = true := tried.interrupted ▸ hi
    rw [writeAt_of_interrupted hu]
    exact ih rest tried.host
  | case2 b a hi =>
    intro u mirrors
    have tried := tryWrite_mirrors mirrors bytes unclamped
    have hu : (u.tryWrite fd offset bytes).interrupted = false :=
      tried.interrupted ▸ Bool.eq_false_iff.2 hi
    rw [writeAt_of_not_interrupted hu]
    exact tried

/-! ## Whole operations -/

theorem Mirrors.of_machine (mirrors : b.Mirrors u) {m n : Machine} (before : u.machine.Before n)
    (plain : m.plain = n.plain) : Mirrors { b with machine := m } { u with machine := n } :=
  mirrors.next rfl (.of_before mirrors.ready before) plain

theorem Mirrors.agrees {α : Type} {call : Machine → α × Machine}
    (commutes : ∀ m : Machine, call m.plain = ((call m).1, (call m).2.plain))
    (before : ∀ m : Machine, m.Before (call m).2) : Agrees Mirrors call := by
  intro b u mirrors
  obtain ⟨answers, plain⟩ := Machine.congr_of_plain commutes mirrors.plain
  exact ⟨answers, mirrors.of_machine (before u.machine) plain⟩

theorem mirrors_paired : Paired Mirrors Journal.Unclamped where
  split := Journal.Unclamped.split
  readAt fd offset target mirrors alike _ since unclamped :=
    readAt_mirrors mirrors alike since target unclamped
  writeAt fd offset bytes mirrors unclamped := writeAt_mirrors mirrors bytes unclamped
  openPath p access mode := by
    intro b u mirrors
    obtain ⟨answers, plain⟩ := Machine.openPath_congr mirrors.plain p access mode
    exact ⟨answers, mirrors.of_machine (Machine.before_openPath ..) plain⟩
  size fd := Mirrors.agrees (fun m => m.size_plain fd) fun m => m.before_size fd
  close fd := Mirrors.agrees (fun m => m.close_plain fd) fun m => m.before_close fd
  log level source message := by
    intro b u mirrors
    refine ⟨rfl, mirrors.of_machine (Machine.before_log ..) ?_⟩
    rw [Machine.plain_log, Machine.plain_log, mirrors.plain]

end Host

namespace Driver

variable {d : Driver} {m : Machine}

/-- Writing a payload that is short enough for one entry never asks for more than one can carry. -/
theorem unclamped_writeFile (ready : (d.host m).Ready) (p : Path) {bytes : Bytes}
    (short : bytes.length ≤ maxRequest) : (m.since (d.writeFile m p bytes).machine).Unclamped := by
  have opening (tries : Nat) (answer : Except Errno Descriptor) :
      ∀ c ∈ List.replicate tries (Machine.interruptedOpen p .replace d.fileMode) ++
        [.openFile p .replace d.fileMode answer], c.requested ≤ maxRequest := by
    intro c hc
    rcases List.mem_append.1 hc with hc | hc
    · rw [List.eq_of_mem_replicate hc]
      exact Nat.zero_le _
    · rw [List.mem_singleton.1 hc]
      exact Nat.zero_le _
  unfold Journal.Unclamped
  rcases writeFile_ends ready p bytes with ⟨e, opens, -⟩ | ⟨fd, cs, closed, replaced⟩
  · generalize (d.writeFile m p bytes).machine = n at opens ⊢
    cases opens with
    | unspeakable =>
      rw [Machine.since_self]
      intro c hc
      cases hc
    | failed _ tries e ne deeds =>
      rw [deeds]
      exact opening tries _
  · obtain ⟨tries, deeds⟩ := replaced.deeds
    rw [deeds, List.append_cons]
    intro c hc
    rcases List.mem_append.1 hc with hc | hc
    · exact opening tries _ c hc
    · rcases List.mem_append.1 hc with hc | hc
      · obtain ⟨before, after, split⟩ := List.append_of_mem hc
        obtain ⟨-, -, answer, rfl, -⟩ := replaced.request before c after split
        change (d.kind.asked bytes (taken before)).length ≤ maxRequest
        unfold DriverKind.asked
        rw [List.length_take, List.length_drop]
        omega
      · rw [List.mem_singleton.1 hc]
        exact Nat.zero_le _

/-- Over a ring whose waits do not fail, calls give the results that they give without a ring. They
leave the same files behind, and do the same one after another. -/
theorem session_as_blocking (reached : d.Reached) (ring : d.kind = .ring)
    (sound : d.backend.poisoned = false) (honest : m.schedule.Honest)
    (calm : ∀ a ∈ m.schedule.enter, ¬ a.Fails) (calls : List FileCall)
    (unclamped : (m.since (session ⟨.blocking, d.fileMode⟩ m calls).2.2).Unclamped) :
    (d.session m calls).1 = (session ⟨.blocking, d.fileMode⟩ m calls).1 ∧
      (d.session m calls).2.2.files = (session ⟨.blocking, d.fileMode⟩ m calls).2.2.files ∧
      (m.since (d.session m calls).2.2).deeds =
        (m.since (session ⟨.blocking, d.fileMode⟩ m calls).2.2).deeds := by
  have ready : (d.host m).Ready := ready_iff.2 ⟨reached.settled, fun _ => honest⟩
  have mirrors : (host ⟨.blocking, d.fileMode⟩ m).Mirrors (d.host m) :=
    ⟨rfl, ring, ready, sound, calm, rfl⟩
  obtain ⟨results, last⟩ := paired_session Host.mirrors_paired mirrors rfl calls unclamped
  have before : m.Before (d.session m calls).2.2 :=
    enduring_session Host.before_enduring d m calls
  have before' : m.Before (session ⟨.blocking, d.fileMode⟩ m calls).2.2 :=
    enduring_session Host.before_enduring ⟨.blocking, d.fileMode⟩ m calls
  exact ⟨results.symm, (Machine.files_of_plain last.plain).symm,
    (Machine.deeds_since before' before last.plain).symm⟩

/-- One write in two parts. The waits are interrupted, and the completions are late. -/
theorem session_as_blocking_late :
    let d : Driver := ⟨.ring { capacity := Nat.nextPowerOfTwo 8 }, 0o666⟩
    let m : Machine :=
      { schedule.write := [{ short := some 1 }, { errno := some .interrupted }]
        schedule.enter := [{ take := false }, { errno := some .interrupted, post := false },
          { post := false }] }
    let calls : List FileCall := [.write [0x61] [1, 2, 3]]
    d.Reached ∧ m.schedule.Honest ∧ (∀ a ∈ m.schedule.enter, ¬ a.Fails) ∧
      (m.since (session ⟨.blocking, 0o666⟩ m calls).2.2).Unclamped ∧
      (d.session m calls).1 = (session ⟨.blocking, 0o666⟩ m calls).1 ∧
      (d.session m calls).2.2.files = (session ⟨.blocking, 0o666⟩ m calls).2.2.files ∧
      (m.since (d.session m calls).2.2).deeds =
        (m.since (session ⟨.blocking, 0o666⟩ m calls).2.2).deeds := by
  intro d m calls
  have made : create {} { driver := .ring } = (.ok d, (create {} { driver := .ring }).2) := rfl
  have reached : d.Reached := .created made
  have honest : m.schedule.Honest := by
    refine ⟨?_, ?_, ?_⟩
    · simp [m, Schedule.Strayless]
    · simp [m]
    · simp [m]
      decide
  have calm : ∀ a ∈ m.schedule.enter, ¬ a.Fails := by
    simp [m, EnterAnswer.Fails]
  have unclamped : (m.since (session ⟨.blocking, 0o666⟩ m calls).2.2).Unclamped :=
    unclamped_writeFile (d := ⟨.blocking, 0o666⟩) trivial [0x61] (by decide)
  exact ⟨reached, honest, calm, unclamped,
    session_as_blocking reached rfl rfl honest calm calls unclamped⟩

end Driver

end WholeFile
