import WholeFile.Driver.WriteFile
import WholeFile.Proofs.Driver.Attempt

/-!
# Drivers between operations

A driver that has been made and used, in whatever way and with whatever outcome, has a ring with
nothing under way. So each operation can be looked at on its own.
-/

namespace WholeFile

/-! ## Steps of a reading and of a writing -/

/-- What a step makes of its read. -/
def Attempt.step (a : Attempt) (took : Nat → FillStep) : FillStep × Host :=
  (match a.result with
    | .error e => .failed (.error (.io e))
    | .ok n => took n, a.host)

theorem Attempt.step_more {a : Attempt} {took : Nat → FillStep} {f : Fill} {h : Host}
    (hs : a.step took = (.more f, h)) : a.host = h ∧ ∃ n, a.result = .ok n ∧ took n = .more f := by
  unfold step at hs
  obtain ⟨step, host⟩ := Prod.mk.inj hs
  refine ⟨host, ?_⟩
  split at step
  · cases step
  · next n hn => exact ⟨n, hn, step⟩

namespace Host

variable {h : Host} {f : Fill}

theorem readStep_full (fd : Descriptor) (full : f.filled = f.buffer.size) :
    h.readStep fd f =
      let a := h.readAt fd f.filled .probe f.loan
      a.step fun n =>
        if n = 0 then .done (f.returned a.loan)
        else (f.returned a.loan).grow n a.loan.probe a.host.issued := by
  unfold readStep Attempt.step
  rw [if_pos full]
  simp only
  generalize h.readAt fd f.filled .probe f.loan = a
  cases a.result <;> rfl

theorem readStep_room (fd : Descriptor) (room : f.filled < f.buffer.size) :
    h.readStep fd f =
      let a := h.readAt fd f.filled .buffer f.loan
      a.step fun n =>
        if n = 0 then .done (f.returned a.loan) else .more ((f.returned a.loan).advance n) := by
  unfold readStep Attempt.step
  rw [if_neg (Nat.ne_of_lt room), if_pos room]
  simp only
  generalize h.readAt fd f.filled .buffer f.loan = a
  cases a.result <;> rfl

theorem readStep_outside (fd : Descriptor) (past : f.buffer.size < f.filled) :
    h.readStep fd f = (.failed (.abort .outOfBounds), h) := by
  unfold readStep
  rw [if_neg (Nat.ne_of_gt past), if_neg (Nat.not_lt_of_gt past)]

/-- Whatever a step comes to, all that it does is one read. -/
theorem readStep_host (h : Host) (fd : Descriptor) (f : Fill) :
    (h.readStep fd f).2 = h ∨
      ∃ target, (h.readStep fd f).2 = (h.readAt fd f.filled target f.loan).host := by
  rcases Nat.lt_trichotomy f.filled f.buffer.size with room | full | past
  · rw [readStep_room fd room]
    exact .inr ⟨.buffer, rfl⟩
  · rw [readStep_full fd full]
    exact .inr ⟨.probe, rfl⟩
  · rw [readStep_outside fd past]
    exact .inl rfl

/-- A step after which there is more to read has got further. If the buffer has moved, it has done
so once the step was waited for. -/
theorem readStep_eq_more {fd : Descriptor} {f' : Fill} {h' : Host}
    (hs : h.readStep fd f = (.more f', h')) :
    f.filled < f'.filled ∧ (f'.since = f.since ∨ f'.since = h'.issued) := by
  rcases Nat.lt_trichotomy f.filled f.buffer.size with room | full | past
  · rw [readStep_room fd room] at hs
    obtain ⟨-, n, -, took⟩ := Attempt.step_more hs
    split at took
    · cases took
    · next some =>
      cases took
      exact ⟨Nat.lt_add_of_pos_right (Nat.pos_of_ne_zero some), .inl rfl⟩
  · rw [readStep_full fd full] at hs
    obtain ⟨rfl, n, -, took⟩ := Attempt.step_more hs
    split at took
    · cases took
    · next some =>
      unfold Fill.grow at took
      repeat' split at took
      all_goals cases took
      exact ⟨Nat.lt_add_of_pos_right (Nat.pos_of_ne_zero some), .inr rfl⟩
  · rw [readStep_outside fd past] at hs
    cases hs

theorem readAll_eq (h : Host) (fd : Descriptor) (f : Fill) :
    h.readAll fd f =
      match h.readStep fd f with
      | (.more f', h') => h'.readAll fd f'
      | (.done f', h') => (.ok f', h')
      | (.failed cause, h') => (.error cause, h') := by
  rw [readAll]
  split
  all_goals
    next ho => simp only [ho]

variable {fd : Descriptor} {offset w n : Nat} {target : Target} {l : Loan} {bytes : Bytes}
  {e : IoError}

theorem readAt_of_interrupted
    (hi : (h.tryRead fd offset target l).interrupted = true) :
    h.readAt fd offset target l =
      (h.tryRead fd offset target l).host.readAt fd offset target
        (h.tryRead fd offset target l).loan := by
  rw [readAt, if_pos hi]

theorem readAt_of_not_interrupted
    (hi : (h.tryRead fd offset target l).interrupted = false) :
    h.readAt fd offset target l = h.tryRead fd offset target l := by
  rw [readAt, if_neg (ne_true_of_eq_false hi)]

theorem writeAt_of_interrupted
    (hi : (h.tryWrite fd offset bytes).interrupted = true) :
    h.writeAt fd offset bytes = (h.tryWrite fd offset bytes).host.writeAt fd offset bytes := by
  rw [writeAt, if_pos hi]

theorem writeAt_of_not_interrupted
    (hi : (h.tryWrite fd offset bytes).interrupted = false) :
    h.writeAt fd offset bytes = h.tryWrite fd offset bytes := by
  rw [writeAt, if_neg (ne_true_of_eq_false hi)]

theorem writeAll_of_error (lt : w < bytes.length)
    (ha : (h.writeAt fd w (bytes.drop w)).result = .error e) :
    h.writeAll fd bytes w = (.error (.io e), (h.writeAt fd w (bytes.drop w)).host) := by
  rw [writeAll, if_pos lt]
  simp only [ha]

theorem writeAll_of_zero (lt : w < bytes.length)
    (ha : (h.writeAt fd w (bytes.drop w)).result = .ok 0) :
    h.writeAll fd bytes w =
      (.error (.shortWrite bytes.length w), (h.writeAt fd w (bytes.drop w)).host) := by
  rw [writeAll, if_pos lt]
  simp only [ha]

theorem writeAll_of_count (lt : w < bytes.length)
    (ha : (h.writeAt fd w (bytes.drop w)).result = .ok (n + 1)) :
    h.writeAll fd bytes w =
      (h.writeAt fd w (bytes.drop w)).host.writeAll fd bytes (w + (n + 1)) := by
  rw [writeAll, if_pos lt]
  simp only [ha]

/-! ## What attempts keep, readings and writings keep -/

/-- A relation to the hosts that can come of a host by attempts. -/
structure Lasting (R : Host → Host → Prop) : Prop where
  refl (h : Host) : R h h
  trans {h h' h'' : Host} : R h h' → R h' h'' → R h h''
  tryRead (h : Host) (fd : Descriptor) (offset : Nat) (target : Target) (loan : Loan) :
    R h (h.tryRead fd offset target loan).host
  tryWrite (h : Host) (fd : Descriptor) (offset : Nat) (bytes : Bytes) :
    R h (h.tryWrite fd offset bytes).host

namespace Lasting

variable {R : Host → Host → Prop}

theorem readAt (lasting : Lasting R) (h : Host) (fd : Descriptor) (offset : Nat) (target : Target)
    (loan : Loan) : R h (h.readAt fd offset target loan).host := by
  fun_induction Host.readAt h fd offset target loan with
  | case1 h loan a hi ih => exact lasting.trans (lasting.tryRead ..) ih
  | case2 h loan a hi => exact lasting.tryRead ..

theorem writeAt (lasting : Lasting R) (h : Host) (fd : Descriptor) (offset : Nat) (bytes : Bytes) :
    R h (h.writeAt fd offset bytes).host := by
  fun_induction Host.writeAt h fd offset bytes with
  | case1 h a hi ih => exact lasting.trans (lasting.tryWrite ..) ih
  | case2 h a hi => exact lasting.tryWrite ..

theorem readStep (lasting : Lasting R) (h : Host) (fd : Descriptor) (f : Fill) :
    R h (h.readStep fd f).2 := by
  rcases readStep_host h fd f with same | ⟨target, same⟩
  · rw [same]
    exact lasting.refl h
  · rw [same]
    exact lasting.readAt ..

theorem readAll (lasting : Lasting R) (h : Host) (fd : Descriptor) (f : Fill) :
    R h (h.readAll fd f).2 := by
  have stepped {h h' : Host} {f : Fill} {step : FillStep} (hs : h.readStep fd f = (step, h')) :
      R h h' := by
    have := lasting.readStep h fd f
    rwa [hs] at this
  fun_induction Host.readAll h fd f with
  | case1 h f f' h' hs _ ih => exact lasting.trans (stepped hs) ih
  | case2 h f f' h' hs | case3 h f cause h' hs => exact stepped hs

theorem writeAll (lasting : Lasting R) (h : Host) (fd : Descriptor) (bytes : Bytes)
    (written : Nat) : R h (h.writeAll fd bytes written).2 := by
  fun_induction Host.writeAll h fd bytes written with
  | case1 h written lt a e ha | case2 h written lt a ha => exact lasting.writeAt ..
  | case3 h written lt a n ha ih => exact lasting.trans (lasting.writeAt ..) ih
  | case4 h written done => exact lasting.refl h

end Lasting

theorem issued_lasting : Lasting fun h h' => h.issued ≤ h'.issued where
  refl h := Nat.le_refl _
  trans := Nat.le_trans
  tryRead h fd offset target loan := by
    obtain ⟨m, backend⟩ := h
    cases backend with
    | blocking => exact Nat.le_refl _
    | ring r => exact r.issued_transfer ..
  tryWrite h fd offset bytes := by
    obtain ⟨m, backend⟩ := h
    cases backend with
    | blocking => exact Nat.le_refl _
    | ring r => exact r.issued_transfer ..

/-- A buffer that moves does so once the step has been waited for. -/
theorem readStep_since {fd : Descriptor} {f f' : Fill} {h' : Host} (since : f.since ≤ h.issued)
    (hs : h.readStep fd f = (.more f', h')) : f'.since ≤ h'.issued := by
  have onward := issued_lasting.readStep h fd f
  rw [hs] at onward
  rcases (readStep_eq_more hs).2 with same | moved
  · rw [same]
    exact Nat.le_trans since onward
  · exact Nat.le_of_eq moved

/-! ## Reading and writing keep a host ready -/

theorem onward_lasting : Lasting fun h h' => h.Ready → h.Onward h' where
  refl _ ready := .refl ready
  trans first rest ready := (first ready).trans (rest (first ready).ready)
  tryRead _ _ _ _ _ ready := tryRead_onward ready ..
  tryWrite _ _ _ _ ready := tryWrite_onward ready ..

theorem readAt_onward (ready : h.Ready) (fd : Descriptor) (offset : Nat) (target : Target)
    (loan : Loan) : h.Onward (h.readAt fd offset target loan).host :=
  onward_lasting.readAt h fd offset target loan ready

theorem writeAt_onward (ready : h.Ready) (fd : Descriptor) (offset : Nat) (bytes : Bytes) :
    h.Onward (h.writeAt fd offset bytes).host :=
  onward_lasting.writeAt h fd offset bytes ready

theorem readStep_onward (ready : h.Ready) (fd : Descriptor) (f : Fill) :
    h.Onward (h.readStep fd f).2 :=
  onward_lasting.readStep h fd f ready

theorem readAll_onward (ready : h.Ready) (fd : Descriptor) (f : Fill) :
    h.Onward (h.readAll fd f).2 :=
  onward_lasting.readAll h fd f ready

theorem writeAll_onward (ready : h.Ready) (fd : Descriptor) (bytes : Bytes) (written : Nat) :
    h.Onward (h.writeAll fd bytes written).2 :=
  onward_lasting.writeAll h fd bytes written ready

/-! ## Open files -/

/-- The end of a reading: the buffer gets the size of what was read. -/
def finish (p : Path) : Except Failure Fill × Host → Except Failure Buffer × Host
  | (.error cause, h) => (.error cause, h)
  | (.ok f, h) =>
    match f.buffer.resize f.filled with
    | .error e => (.error (.error (.alloc e)), h)
    | .ok b =>
      let message := s!"read file path={Text.lossy p} len={f.filled}"
      (.ok b, { h with machine := h.machine.log .debug .driver message })

/-- The host once the size of an open file has been asked for. -/
def sized (h : Host) (fd : Descriptor) : Host := { h with machine := (h.machine.size fd).2 }

theorem readOpen_of_size_error {fd : Descriptor} {e : Errno}
    (answer : (h.machine.size fd).1 = .error e) (p : Path) :
    h.readOpen fd p = (.error (.error (.io (.os e))), h.sized fd) := by
  unfold readOpen sized
  simp only [answer]

theorem readOpen_of_refused {fd : Descriptor} {hint : Nat} {e : AllocError}
    (answer : (h.machine.size fd).1 = .ok hint) (hb : Buffer.withSize hint = .error e) (p : Path) :
    h.readOpen fd p = (.error (.error (.alloc e)), h.sized fd) := by
  unfold readOpen sized
  simp only [answer, hb]

theorem readOpen_of_ok {fd : Descriptor} {hint : Nat} {b : Buffer}
    (answer : (h.machine.size fd).1 = .ok hint) (hb : Buffer.withSize hint = .ok b) (p : Path) :
    h.readOpen fd p = finish p ((h.sized fd).readAll fd ⟨b, 0, h.issued⟩) := by
  unfold readOpen finish sized
  simp only [answer, hb]
  rfl

/-- The three ways in which reading an open file can go on. -/
theorem readOpen_cases (h : Host) (fd : Descriptor) (p : Path)
    {P : Except Failure Buffer × Host → Prop}
    (unsized : ∀ e, (h.machine.size fd).1 = .error e →
      P (.error (.error (.io (.os e))), h.sized fd))
    (refused : ∀ hint e, (h.machine.size fd).1 = .ok hint → Buffer.withSize hint = .error e →
      P (.error (.error (.alloc e)), h.sized fd))
    (read : ∀ hint b, (h.machine.size fd).1 = .ok hint → Buffer.withSize hint = .ok b →
      P (finish p ((h.sized fd).readAll fd ⟨b, 0, h.issued⟩))) : P (h.readOpen fd p) := by
  cases answer : (h.machine.size fd).1 with
  | error e =>
    rw [readOpen_of_size_error answer]
    exact unsized e answer
  | ok hint =>
    cases hb : Buffer.withSize hint with
    | error e =>
      rw [readOpen_of_refused answer hb]
      exact refused hint e answer hb
    | ok b =>
      rw [readOpen_of_ok answer hb]
      exact read hint b answer hb

theorem finish_plain (p : Path) (run : Except Failure Fill × Host) :
    (finish p run).2.machine.plain = run.2.machine.plain := by
  unfold finish
  split
  · rfl
  · split
    · rfl
    · exact Machine.plain_log ..

/-- The end of a writing: the file is closed, and the first failure counts. -/
def settle (fd : Descriptor) (p : Path) : Except Error Nat × Host → Except Error Unit × Host
  | (.error cause, h) => (.error cause, { h with machine := (h.machine.close fd).2 })
  | (.ok written, h) =>
    match h.machine.close fd with
    | (.error e, machine) => (.error (.io (.os e)), { h with machine })
    | (.ok (), machine) =>
      let message := s!"wrote file path={Text.lossy p} len={written}"
      (.ok (), { h with machine := machine.log .debug .driver message })

theorem writeOpen_eq (h : Host) (fd : Descriptor) (p : Path) (bytes : Bytes) :
    h.writeOpen fd p bytes = settle fd p (h.writeAll fd bytes 0) := rfl

theorem settle_result (fd : Descriptor) (p : Path) (run : Except Error Nat × Host) :
    (settle fd p run).1 =
      run.1.bind fun _ => (run.2.machine.close fd).1.mapError fun e => .io (.os e) := by
  obtain ⟨result, h⟩ := run
  cases result with
  | error cause => rfl
  | ok written =>
    unfold settle
    cases hc : h.machine.close fd with
    | mk answer m =>
      simp only [hc]
      cases answer <;> rfl

theorem settle_plain (fd : Descriptor) (p : Path) (run : Except Error Nat × Host) :
    (settle fd p run).2.machine.plain = (run.2.machine.close fd).2.plain := by
  obtain ⟨result, h⟩ := run
  cases result with
  | error cause => rfl
  | ok written =>
    unfold settle
    cases hc : h.machine.close fd with
    | mk answer m =>
      simp only [hc]
      cases answer with
      | error e => rfl
      | ok _ => exact Machine.plain_log ..

/-! ## What attempts and other calls keep, whole operations keep -/

/-- A relation to the hosts that can come of a host by attempts, and by calls aside from them. -/
structure Enduring (R : Host → Host → Prop) : Prop extends Lasting R where
  aside {h : Host} {m : Machine} : h.machine.Aside m → R h { h with machine := m }

namespace Enduring

variable {R : Host → Host → Prop}

theorem finish (enduring : Enduring R) (p : Path) (run : Except Failure Fill × Host) :
    R run.2 (finish p run).2 := by
  unfold Host.finish
  split
  · exact enduring.refl _
  · split
    · exact enduring.refl _
    · exact enduring.aside (Machine.aside_log ..)

theorem readOpen (enduring : Enduring R) (h : Host) (fd : Descriptor) (p : Path) :
    R h (h.readOpen fd p).2 := by
  have asked : R h (h.sized fd) := enduring.aside (Machine.aside_size ..)
  apply readOpen_cases (P := fun run => R h run.2)
  · intro e _
    exact asked
  · intro hint e _ _
    exact asked
  · intro hint b _ _
    exact enduring.trans (enduring.trans asked (enduring.readAll ..)) (enduring.finish ..)

theorem settle (enduring : Enduring R) (fd : Descriptor) (p : Path)
    (run : Except Error Nat × Host) : R run.2 (settle fd p run).2 := by
  obtain ⟨result, h⟩ := run
  have closed : R h { h with machine := (h.machine.close fd).2 } :=
    enduring.aside (Machine.aside_close ..)
  cases result with
  | error cause => exact closed
  | ok written =>
    unfold Host.settle
    cases hc : h.machine.close fd with
    | mk answer m =>
      rw [hc] at closed
      simp only [hc]
      cases answer with
      | error e => exact closed
      | ok _ => exact enduring.trans closed (enduring.aside (Machine.aside_log ..))

theorem writeOpen (enduring : Enduring R) (h : Host) (fd : Descriptor) (p : Path) (bytes : Bytes) :
    R h (h.writeOpen fd p bytes).2 :=
  enduring.trans (enduring.writeAll h fd bytes 0) (enduring.settle fd p _)

end Enduring

theorem before_enduring : Enduring fun h h' => h.machine.Before h'.machine where
  refl h := .refl h.machine
  trans := .trans
  tryRead h fd offset target loan := by
    obtain ⟨m, backend⟩ := h
    cases backend with
    | blocking => exact m.before_read ..
    | ring r => exact r.before_transfer ..
  tryWrite h fd offset bytes := by
    obtain ⟨m, backend⟩ := h
    cases backend with
    | blocking => exact m.before_write ..
    | ring r => exact r.before_transfer ..
  aside apart := apart.before

theorem onward_enduring : Enduring fun h h' => h.Ready → h.Onward h' where
  toLasting := onward_lasting
  aside apart ready := .of_before ready apart.before

theorem sized_onward (ready : h.Ready) (fd : Descriptor) : h.Onward (h.sized fd) :=
  .of_before ready (Machine.before_size ..)

theorem finish_onward {run : Except Failure Fill × Host} (onward : h.Onward run.2) (p : Path) :
    h.Onward (finish p run).2 :=
  onward.trans (onward_enduring.finish p run onward.ready)

theorem settle_onward {run : Except Error Nat × Host} (onward : h.Onward run.2) (fd : Descriptor)
    (p : Path) : h.Onward (settle fd p run).2 :=
  onward.trans (onward_enduring.settle fd p run onward.ready)

theorem readOpen_onward (ready : h.Ready) (fd : Descriptor) (p : Path) :
    h.Onward (h.readOpen fd p).2 :=
  onward_enduring.readOpen h fd p ready

end Host

/-! ## Whole operations -/

/-- The driver's backend on a machine. -/
def Driver.host (d : Driver) (m : Machine) : Host := ⟨m, d.backend⟩

def Run.host {ε α : Type} (r : Run ε α) : Host := ⟨r.machine, r.driver.backend⟩

namespace Driver

variable {d : Driver} {m : Machine}

theorem enduring_readFile {R : Host → Host → Prop} (enduring : Host.Enduring R) (d : Driver)
    (m : Machine) (p : Path) : R (d.host m) (d.readFile m p).host := by
  have opened : R (d.host m) (d.host (m.openPath p .read 0).2) :=
    enduring.aside (Machine.aside_openPath ..)
  unfold readFile
  split
  · next ho =>
    rw [ho] at opened
    exact opened
  · next fd m' ho =>
    rw [ho] at opened
    exact enduring.trans (enduring.trans opened (enduring.readOpen _ fd p))
      (enduring.aside (Machine.aside_close ..))

theorem enduring_writeFile {R : Host → Host → Prop} (enduring : Host.Enduring R) (d : Driver)
    (m : Machine) (p : Path) (bytes : Bytes) : R (d.host m) (d.writeFile m p bytes).host := by
  have opened : R (d.host m) (d.host (m.openPath p .replace d.fileMode).2) :=
    enduring.aside (Machine.aside_openPath ..)
  unfold writeFile
  split
  · next ho =>
    rw [ho] at opened
    exact opened
  · next fd m' ho =>
    rw [ho] at opened
    exact enduring.trans opened (enduring.writeOpen _ fd p bytes)

theorem readFile_onward (ready : (d.host m).Ready) (p : Path) :
    (d.host m).Onward (d.readFile m p).host :=
  enduring_readFile Host.onward_enduring d m p ready

theorem writeFile_onward (ready : (d.host m).Ready) (p : Path) (bytes : Bytes) :
    (d.host m).Onward (d.writeFile m p bytes).host :=
  enduring_writeFile Host.onward_enduring d m p bytes ready

theorem fileMode_readFile (d : Driver) (m : Machine) (p : Path) :
    (d.readFile m p).driver.fileMode = d.fileMode := by
  unfold readFile
  split <;> rfl

theorem fileMode_writeFile (d : Driver) (m : Machine) (p : Path) (bytes : Bytes) :
    (d.writeFile m p bytes).driver.fileMode = d.fileMode := by
  unfold writeFile
  split <;> rfl

/-! ## Drivers that can be had -/

/-- The driver's ring, if it has one, has nothing under way. -/
def Settled (d : Driver) : Prop :=
  match d.backend with
  | .blocking => True
  | .ring r => r.Settled

/-- Drivers that have been made, and used on machines whose kernels keep to what they promise to
rings. -/
inductive Reached : Driver → Prop
  | blocking : Reached .blocking
  | created {m m' : Machine} {o : Options} {d : Driver} (made : create m o = (.ok d, m')) :
      Reached d
  | read {d : Driver} (reached : Reached d) (m : Machine)
      (honest : d.kind = .ring → m.schedule.Honest) (p : Path) : Reached (d.readFile m p).driver
  | wrote {d : Driver} (reached : Reached d) (m : Machine)
      (honest : d.kind = .ring → m.schedule.Honest) (p : Path) (bytes : Bytes) :
      Reached (d.writeFile m p bytes).driver

theorem ready_iff : (d.host m).Ready ↔ d.Settled ∧ (d.kind = .ring → m.schedule.Honest) := by
  obtain ⟨backend, mode⟩ := d
  cases backend <;> simp [host, Host.Ready, Settled, kind]

/-- A ring that a new driver has is a new one. -/
theorem ring_of_create {m' : Machine} {o : Options} (made : create m o = (.ok d, m')) {r : Ring}
    (ring : d.backend = .ring r) :
    ∃ n entries n', Ring.create n entries = (.ok r, n') := by
  have auto {entries : Nat} (h : (autoBackend m entries).1 = .ring r) :
      ∃ n entries n', Ring.create n entries = (.ok r, n') := by
    unfold autoBackend at h
    split at h
    · cases h
    · split at h
      · next hc =>
        cases h
        exact ⟨_, _, _, hc⟩
      · cases h
  have chosen {n : Machine} (h : chooseBackend m o = (.ok (.ring r), n)) :
      ∃ n entries n', Ring.create n entries = (.ok r, n') := by
    unfold chooseBackend at h
    split at h
    · cases h
    · cases hc : Ring.create m o.entries with
      | mk answer n' =>
        rw [hc] at h
        cases answer with
        | error e => cases h
        | ok r =>
          cases h
          exact ⟨_, _, _, hc⟩
    · obtain ⟨backend, -⟩ := Prod.mk.inj h
      exact auto (Except.ok.inj backend)
  unfold create at made
  split at made
  · cases made
  · next b n h =>
    cases made
    subst ring
    exact chosen h

theorem settled_create {m' : Machine} {o : Options} (made : create m o = (.ok d, m')) :
    d.Settled := by
  unfold Settled
  split
  · exact trivial
  · next r ring =>
    obtain ⟨_, _, _, fresh⟩ := ring_of_create made ring
    exact Ring.settled_of_create fresh

theorem Reached.settled (reached : d.Reached) : d.Settled := by
  induction reached with
  | blocking => exact trivial
  | created made => exact settled_create made
  | read _ m honest p ih =>
    exact (ready_iff (d := (readFile _ m p).driver) (m := (readFile _ m p).machine)).1
      (readFile_onward (ready_iff.2 ⟨ih, honest⟩) p).ready |>.1
  | wrote _ m honest p bytes ih =>
    exact (ready_iff (d := (writeFile _ m p bytes).driver)
      (m := (writeFile _ m p bytes).machine)).1
      (writeFile_onward (ready_iff.2 ⟨ih, honest⟩) p bytes).ready |>.1

end Driver

end WholeFile
