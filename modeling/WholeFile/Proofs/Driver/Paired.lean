import WholeFile.Driver.Scope
import WholeFile.Proofs.Driver.Reached

/-!
# Two runs side by side

Where the transfers of two runs come to the same, and all other calls are answered alike, whole
operations come to the same. Nothing else is asked of the two, which may differ in their backends,
in how often they make a transfer again, and in what they wait for.
-/

namespace WholeFile

/-! ## Alike but for where things are -/

/-- The same memory. -/
structure Loan.Alike (l l' : Loan) : Prop where
  buffer : l.buffer = l'.buffer
  probe : l.probe = l'.probe

theorem Loan.Alike.landed {l l' : Loan} (alike : l.Alike l') (offset : Nat) (target : Target)
    (answer : Except Errno Bytes) :
    (l.landed offset target answer).Alike (l'.landed offset target answer) := by
  unfold Loan.landed
  cases answer with
  | error e => exact alike
  | ok bytes =>
    cases target with
    | buffer => exact ⟨congrArg (Bytes.spliced · offset bytes) alike.buffer, alike.probe⟩
    | probe => exact ⟨alike.buffer, congrArg (Bytes.spliced · 0 bytes) alike.probe⟩

theorem Loan.Alike.room {l l' : Loan} (alike : l.Alike l') (offset : Nat) (target : Target) :
    l.room offset target = l'.room offset target := by
  cases target with
  | buffer => exact congrArg (·.length - offset) alike.buffer
  | probe => exact congrArg List.length alike.probe

/-- The same bytes, read as far. -/
structure Fill.Alike (f g : Fill) : Prop where
  buffer : f.buffer = g.buffer
  filled : f.filled = g.filled

/-- The bytes that were read, without where they are. -/
def Fill.shown (f : Fill) : Buffer × Nat := (f.buffer, f.filled)

inductive FillStep.Alike : FillStep → FillStep → Prop
  | more {f g : Fill} (alike : f.Alike g) : FillStep.Alike (.more f) (.more g)
  | done {f g : Fill} (alike : f.Alike g) : FillStep.Alike (.done f) (.done g)
  | failed (cause : Failure) : FillStep.Alike (.failed cause) (.failed cause)

namespace Fill.Alike

variable {f g : Fill} {l l' : Loan}

theorem loan (alike : f.Alike g) : f.loan.Alike g.loan := by
  unfold Fill.loan
  rw [alike.buffer]
  exact ⟨rfl, rfl⟩

theorem returned (alike : f.Alike g) (same : l.Alike l') :
    (f.returned l).Alike (g.returned l') := by
  unfold Fill.returned
  rw [alike.buffer, same.buffer]
  exact ⟨rfl, alike.filled⟩

theorem advance (alike : f.Alike g) (n : Nat) : (f.advance n).Alike (g.advance n) :=
  ⟨alike.buffer, congrArg (· + n) alike.filled⟩

theorem grow (alike : f.Alike g) (n : Nat) (probe : Bytes) (since since' : Nat) :
    FillStep.Alike (f.grow n probe since) (g.grow n probe since') := by
  unfold Fill.grow Fill.grownSize
  rw [alike.buffer, alike.filled]
  split
  · exact .failed _
  · split
    · exact .more ⟨rfl, rfl⟩
    · exact .failed _

end Fill.Alike

/-! ## Runs that go the same way -/

/-- Two attempts that come to the same, and leave hosts that are related. -/
structure Attempt.Paired (T : Host → Host → Prop) (a b : Attempt) : Prop where
  result : a.result = b.result
  loan : a.loan.Alike b.loan
  host : T a.host b.host

theorem Attempt.Paired.interrupted {T : Host → Host → Prop} {a b : Attempt} (paired : a.Paired T b) :
    a.interrupted = b.interrupted := by
  unfold Attempt.interrupted
  rw [paired.result]

theorem Attempt.Paired.step {T : Host → Host → Prop} {a b : Attempt} {took took' : Nat → FillStep}
    (paired : a.Paired T b) (same : ∀ n, FillStep.Alike (took n) (took' n)) :
    FillStep.Alike (a.step took).1 (b.step took').1 ∧ T (a.step took).2 (b.step took').2 := by
  refine ⟨?_, paired.host⟩
  unfold Attempt.step
  rw [paired.result]
  simp only
  split
  · exact .failed _
  · exact same _

namespace Host

/-- The call is answered alike on related hosts, and leaves them related. -/
def Agrees {α : Type} (T : Host → Host → Prop) (call : Machine → α × Machine) : Prop :=
  ∀ {h k : Host}, T h k → (call h.machine).1 = (call k.machine).1 ∧
    T { h with machine := (call h.machine).2 } { k with machine := (call k.machine).2 }

/-- A relation between hosts that go the same way, as long as the first one does no more than `P`
allows. -/
structure Paired (T : Host → Host → Prop) (P : Journal → Prop) : Prop where
  split {i j : Journal} : P (i ++ j) → P i ∧ P j
  readAt {h k : Host} {l l' : Loan} (fd : Descriptor) (offset : Nat) (target : Target) :
    T h k → l.Alike l' → l.since ≤ h.issued → l'.since ≤ k.issued →
      P (h.machine.since (h.readAt fd offset target l).host.machine) →
        (h.readAt fd offset target l).Paired T (k.readAt fd offset target l')
  writeAt {h k : Host} (fd : Descriptor) (offset : Nat) (bytes : Bytes) :
    T h k → P (h.machine.since (h.writeAt fd offset bytes).host.machine) →
      (h.writeAt fd offset bytes).Paired T (k.writeAt fd offset bytes)
  openPath (p : Path) (access : Access) (mode : Nat) : Agrees T fun m => m.openPath p access mode
  size (fd : Descriptor) : Agrees T fun m => m.size fd
  close (fd : Descriptor) : Agrees T fun m => m.close fd
  log (level : LogLevel) (source : LogSource) (message : String) :
    Agrees T fun m => ((), m.log level source message)

namespace Paired

variable {T : Host → Host → Prop} {P : Journal → Prop} {h h' k : Host} {fd : Descriptor}

theorem parts (paired : Paired T P) {m n o : Machine} (before : m.Before n) (after : n.Before o)
    (allowed : P (m.since o)) : P (m.since n) ∧ P (n.since o) :=
  paired.split (Machine.since_trans before after ▸ allowed)

/-! ## Reading -/

theorem readStep {f g : Fill} (paired : Paired T P) (related : T h k) (alike : f.Alike g)
    (since : f.since ≤ h.issued) (since' : g.since ≤ k.issued)
    (allowed : P (h.machine.since (h.readStep fd f).2.machine)) :
    FillStep.Alike (h.readStep fd f).1 (k.readStep fd g).1 ∧
      T (h.readStep fd f).2 (k.readStep fd g).2 := by
  have read (target : Target)
      (allowed : P (h.machine.since (h.readAt fd f.filled target f.loan).host.machine)) :
      (h.readAt fd f.filled target f.loan).Paired T (k.readAt fd g.filled target g.loan) := by
    rw [← alike.filled]
    exact paired.readAt fd f.filled target related alike.loan since since' allowed
  have size : f.buffer.size = g.buffer.size := congrArg Buffer.size alike.buffer
  rcases Nat.lt_trichotomy f.filled f.buffer.size with room | full | past
  · rw [readStep_room fd room] at allowed ⊢
    rw [size, alike.filled] at room
    rw [readStep_room fd room]
    have came := read .buffer allowed
    refine came.step fun n => ?_
    split
    · exact .done (alike.returned came.loan)
    · exact .more ((alike.returned came.loan).advance n)
  · rw [readStep_full fd full] at allowed ⊢
    rw [size, alike.filled] at full
    rw [readStep_full fd full]
    have came := read .probe allowed
    refine came.step fun n => ?_
    split
    · exact .done (alike.returned came.loan)
    · rw [came.loan.probe]
      exact (alike.returned came.loan).grow ..
  · rw [readStep_outside fd past]
    rw [size, alike.filled] at past
    rw [readStep_outside fd past]
    exact ⟨.failed _, related⟩

theorem stepped {f g : Fill} {step : FillStep} (paired : Paired T P) (related : T h k)
    (alike : f.Alike g) (since : f.since ≤ h.issued) (since' : g.since ≤ k.issued)
    (hs : h.readStep fd f = (step, h')) (allowed : P (h.machine.since h'.machine)) :
    ∃ step' k', k.readStep fd g = (step', k') ∧ step.Alike step' ∧ T h' k' := by
  have end' : (h.readStep fd f).2 = h' := by rw [hs]
  rw [← end'] at allowed
  have stepped := paired.readStep related alike since since' allowed
  rw [hs] at stepped
  exact ⟨_, _, rfl, stepped⟩

theorem readAll {f g : Fill} (paired : Paired T P) (related : T h k) (alike : f.Alike g)
    (since : f.since ≤ h.issued) (since' : g.since ≤ k.issued)
    (allowed : P (h.machine.since (h.readAll fd f).2.machine)) :
    (h.readAll fd f).1.map Fill.shown = (k.readAll fd g).1.map Fill.shown ∧
      T (h.readAll fd f).2 (k.readAll fd g).2 := by
  revert k g
  fun_induction Host.readAll h fd f with
  | case1 h f f' h' hs lt ih =>
    intro k g related alike since'
    have before := before_enduring.readStep h fd f
    rw [hs] at before
    obtain ⟨first, rest⟩ := paired.parts before (before_enduring.readAll h' fd f') allowed
    obtain ⟨step, k', hk, alike', related'⟩ :=
      paired.stepped related alike since since' hs first
    cases alike' with
    | more alike' =>
      rw [readAll_eq k, hk]
      exact ih (readStep_since since hs) rest related' alike' (readStep_since since' hk)
  | case2 h f f' h' hs =>
    intro k g related alike since'
    obtain ⟨step, k', hk, alike', related'⟩ :=
      paired.stepped related alike since since' hs allowed
    cases alike' with
    | done alike' =>
      rw [readAll_eq k, hk]
      exact ⟨congrArg Except.ok (Prod.ext alike'.buffer alike'.filled), related'⟩
  | case3 h f cause h' hs =>
    intro k g related alike since'
    obtain ⟨step, k', hk, alike', related'⟩ :=
      paired.stepped related alike since since' hs allowed
    cases alike' with
    | failed cause =>
      rw [readAll_eq k, hk]
      exact ⟨rfl, related'⟩

theorem finish {r r' : Except Failure Fill} (paired : Paired T P) (related : T h k)
    (same : r.map Fill.shown = r'.map Fill.shown) (p : Path) :
    (Host.finish p (r, h)).1 = (Host.finish p (r', k)).1 ∧
      T (Host.finish p (r, h)).2 (Host.finish p (r', k)).2 := by
  cases r with
  | error cause =>
    cases r' with
    | error cause' =>
      cases same
      exact ⟨rfl, related⟩
    | ok g => cases same
  | ok f =>
    cases r' with
    | error cause' => cases same
    | ok g =>
      obtain ⟨buffer, filled⟩ := Prod.mk.inj (Except.ok.inj same)
      unfold Host.finish
      simp only
      rw [buffer, filled]
      cases g.buffer.resize g.filled with
      | error e => exact ⟨rfl, related⟩
      | ok c => exact ⟨rfl, (paired.log _ _ _ related).2⟩

theorem readOpen (paired : Paired T P) (related : T h k) (p : Path)
    (allowed : P (h.machine.since (h.readOpen fd p).2.machine)) :
    (h.readOpen fd p).1 = (k.readOpen fd p).1 ∧ T (h.readOpen fd p).2 (k.readOpen fd p).2 := by
  obtain ⟨answers, sized⟩ := paired.size fd related
  have sized : T (h.sized fd) (k.sized fd) := sized
  cases answer : (h.machine.size fd).1 with
  | error e =>
    rw [readOpen_of_size_error answer, readOpen_of_size_error (answers ▸ answer)]
    exact ⟨rfl, sized⟩
  | ok hint =>
    cases hb : Buffer.withSize hint with
    | error e =>
      rw [readOpen_of_refused answer hb, readOpen_of_refused (answers ▸ answer) hb]
      exact ⟨rfl, sized⟩
    | ok buffer =>
      rw [readOpen_of_ok answer hb] at allowed ⊢
      rw [readOpen_of_ok (answers ▸ answer) hb]
      have alike : Fill.Alike ⟨buffer, 0, h.issued⟩ ⟨buffer, 0, k.issued⟩ := ⟨rfl, rfl⟩
      have read := before_enduring.readAll (h.sized fd) fd ⟨buffer, 0, h.issued⟩
      have finished :=
        before_enduring.finish p ((h.sized fd).readAll fd ⟨buffer, 0, h.issued⟩)
      have rest := (paired.parts (h.machine.before_size fd) (read.trans finished) allowed).2
      have allowed' := (paired.parts read finished rest).1
      obtain ⟨same, last⟩ :=
        paired.readAll sized alike (Nat.le_refl _) (Nat.le_refl _) allowed'
      exact paired.finish last same p

/-! ## Writing -/

theorem writeAll (paired : Paired T P) (related : T h k) (bytes : Bytes) (written : Nat)
    (allowed : P (h.machine.since (h.writeAll fd bytes written).2.machine)) :
    (h.writeAll fd bytes written).1 = (k.writeAll fd bytes written).1 ∧
      T (h.writeAll fd bytes written).2 (k.writeAll fd bytes written).2 := by
  revert k
  fun_induction Host.writeAll h fd bytes written with
  | case1 h written lt a e ha =>
    intro k related
    have wrote : a.Paired T _ := paired.writeAt fd written (bytes.drop written) related allowed
    rw [writeAll_of_error lt (wrote.result.symm.trans ha)]
    exact ⟨rfl, wrote.host⟩
  | case2 h written lt a ha =>
    intro k related
    have wrote : a.Paired T _ := paired.writeAt fd written (bytes.drop written) related allowed
    rw [writeAll_of_zero lt (wrote.result.symm.trans ha)]
    exact ⟨rfl, wrote.host⟩
  | case3 h written lt a n ha ih =>
    intro k related
    obtain ⟨first, rest⟩ := paired.parts (before_enduring.writeAt h fd written _)
      (before_enduring.writeAll a.host fd bytes _) allowed
    have wrote : a.Paired T _ := paired.writeAt fd written (bytes.drop written) related first
    rw [writeAll_of_count lt (wrote.result.symm.trans ha)]
    exact ih rest wrote.host
  | case4 h written done =>
    intro k related
    rw [Host.writeAll, if_neg done]
    exact ⟨rfl, related⟩

theorem settle (paired : Paired T P) (related : T h k) (fd : Descriptor) (p : Path)
    (r : Except Error Nat) :
    (Host.settle fd p (r, h)).1 = (Host.settle fd p (r, k)).1 ∧
      T (Host.settle fd p (r, h)).2 (Host.settle fd p (r, k)).2 := by
  obtain ⟨answers, closed⟩ := paired.close fd related
  refine ⟨?_, ?_⟩
  · rw [settle_result, settle_result, answers]
  · cases r with
    | error cause => exact closed
    | ok written =>
      unfold Host.settle
      cases hc : h.machine.close fd with
      | mk answer m =>
        cases hk : k.machine.close fd with
        | mk answer' n =>
          simp only [hc, hk] at answers closed ⊢
          cases answers
          cases answer with
          | error e => exact closed
          | ok _ => exact (paired.log _ _ _ closed).2

theorem writeOpen (paired : Paired T P) (related : T h k) (p : Path) (bytes : Bytes)
    (allowed : P (h.machine.since (h.writeOpen fd p bytes).2.machine)) :
    (h.writeOpen fd p bytes).1 = (k.writeOpen fd p bytes).1 ∧
      T (h.writeOpen fd p bytes).2 (k.writeOpen fd p bytes).2 := by
  rw [writeOpen_eq] at allowed ⊢
  rw [writeOpen_eq]
  obtain ⟨same, related'⟩ := paired.writeAll related bytes 0
    (paired.parts (before_enduring.writeAll h fd bytes 0)
      (before_enduring.settle fd p (h.writeAll fd bytes 0)) allowed).1
  have settled := paired.settle related' fd p (h.writeAll fd bytes 0).1
  have result : ((h.writeAll fd bytes 0).1, (k.writeAll fd bytes 0).2) = k.writeAll fd bytes 0 :=
    Prod.ext same rfl
  rw [result] at settled
  exact settled

end Paired

end Host

/-! ## Whole files -/

namespace Driver

variable {T : Host → Host → Prop} {P : Journal → Prop} {d e : Driver} {m n : Machine}

theorem paired_readFile (paired : Host.Paired T P) (related : T (d.host m) (e.host n)) (p : Path)
    (allowed : P (m.since (d.readFile m p).machine)) :
    (d.readFile m p).result = (e.readFile n p).result ∧
      T (d.readFile m p).host (e.readFile n p).host := by
  obtain ⟨answers, opened⟩ := paired.openPath p .read 0 related
  have before := m.before_openPath p .read 0
  unfold readFile at allowed ⊢
  cases hm : m.openPath p .read 0 with
  | mk answer m' =>
    cases hn : n.openPath p .read 0 with
    | mk answer' n' =>
      simp only [host, hm, hn] at answers opened
      rw [hm] at allowed before
      cases answers
      cases answer with
      | error cause => exact ⟨rfl, opened⟩
      | ok fd =>
        simp only at allowed ⊢
        have read := Host.before_enduring.readOpen (d.host m') fd p
        have closes := Machine.before_close ((d.host m').readOpen fd p).2.machine fd
        have rest := (paired.parts before (read.trans closes) allowed).2
        obtain ⟨same, last⟩ := paired.readOpen opened p (paired.parts read closes rest).1
        exact ⟨same, (paired.close fd last).2⟩

theorem paired_writeFile (paired : Host.Paired T P) (related : T (d.host m) (e.host n))
    (modes : d.fileMode = e.fileMode) (p : Path) (bytes : Bytes)
    (allowed : P (m.since (d.writeFile m p bytes).machine)) :
    (d.writeFile m p bytes).result = (e.writeFile n p bytes).result ∧
      T (d.writeFile m p bytes).host (e.writeFile n p bytes).host := by
  obtain ⟨answers, opened⟩ := paired.openPath p .replace d.fileMode related
  have before := m.before_openPath p .replace d.fileMode
  unfold writeFile at allowed ⊢
  rw [← modes]
  cases hm : m.openPath p .replace d.fileMode with
  | mk answer m' =>
    cases hn : n.openPath p .replace d.fileMode with
    | mk answer' n' =>
      simp only [host, hm, hn] at answers opened
      rw [hm] at allowed before
      cases answers
      cases answer with
      | error cause => exact ⟨rfl, opened⟩
      | ok fd =>
        exact paired.writeOpen opened p bytes
          (paired.parts before (Host.before_enduring.writeOpen (d.host m') fd p bytes) allowed).2

end Driver

/-! ## Calls one after another -/

/-- A call on a driver. -/
inductive FileCall where
  | read (p : Path)
  | write (p : Path) (bytes : Bytes)

namespace Driver

/-- Makes one call. -/
def carryOut (d : Driver) (m : Machine) : FileCall → FileResult × Driver × Machine
  | .read p =>
    let run := d.readFile m p
    (.read run.result, run.driver, run.machine)
  | .write p bytes =>
    let run := d.writeFile m p bytes
    (.written (run.result.mapError .error), run.driver, run.machine)

/-- Makes one call after another. -/
def session (d : Driver) (m : Machine) : List FileCall → List FileResult × Driver × Machine
  | [] => ([], d, m)
  | c :: calls =>
    let (result, d, m) := d.carryOut m c
    let (results, d, m) := d.session m calls
    (result :: results, d, m)

variable {T : Host → Host → Prop} {P : Journal → Prop} {d e : Driver} {m n : Machine}

theorem enduring_carryOut {R : Host → Host → Prop} (enduring : Host.Enduring R) (d : Driver)
    (m : Machine) (c : FileCall) :
    R (d.host m) ((d.carryOut m c).2.1.host (d.carryOut m c).2.2) := by
  cases c with
  | read p => exact enduring_readFile enduring d m p
  | write p bytes => exact enduring_writeFile enduring d m p bytes

theorem fileMode_carryOut (d : Driver) (m : Machine) (c : FileCall) :
    (d.carryOut m c).2.1.fileMode = d.fileMode := by
  cases c with
  | read p => exact fileMode_readFile d m p
  | write p bytes => exact fileMode_writeFile d m p bytes

theorem paired_carryOut (paired : Host.Paired T P) (related : T (d.host m) (e.host n))
    (modes : d.fileMode = e.fileMode) (c : FileCall) (allowed : P (m.since (d.carryOut m c).2.2)) :
    (d.carryOut m c).1 = (e.carryOut n c).1 ∧
      T ((d.carryOut m c).2.1.host (d.carryOut m c).2.2)
        ((e.carryOut n c).2.1.host (e.carryOut n c).2.2) := by
  cases c with
  | read p =>
    obtain ⟨same, last⟩ := paired_readFile paired related p allowed
    exact ⟨congrArg FileResult.read same, last⟩
  | write p bytes =>
    obtain ⟨same, last⟩ := paired_writeFile paired related modes p bytes allowed
    exact ⟨congrArg (FileResult.written <| Except.mapError .error ·) same, last⟩

theorem session_cons (d : Driver) (m : Machine) (c : FileCall) (calls : List FileCall) :
    d.session m (c :: calls) =
      let next := (d.carryOut m c).2
      ((d.carryOut m c).1 :: (next.1.session next.2 calls).1, (next.1.session next.2 calls).2) :=
  rfl

theorem enduring_session {R : Host → Host → Prop} (enduring : Host.Enduring R) (d : Driver)
    (m : Machine) (calls : List FileCall) :
    R (d.host m) ((d.session m calls).2.1.host (d.session m calls).2.2) := by
  induction calls generalizing d m with
  | nil => exact enduring.refl _
  | cons c calls ih => exact enduring.trans (enduring_carryOut enduring d m c) (ih _ _)

theorem paired_session (paired : Host.Paired T P) (related : T (d.host m) (e.host n))
    (modes : d.fileMode = e.fileMode) (calls : List FileCall)
    (allowed : P (m.since (d.session m calls).2.2)) :
    (d.session m calls).1 = (e.session n calls).1 ∧
      T ((d.session m calls).2.1.host (d.session m calls).2.2)
        ((e.session n calls).2.1.host (e.session n calls).2.2) := by
  induction calls generalizing d e m n with
  | nil => exact ⟨rfl, related⟩
  | cons c calls ih =>
    rw [session_cons] at allowed ⊢
    rw [session_cons]
    obtain ⟨first, rest⟩ := paired.parts (enduring_carryOut Host.before_enduring d m c)
      (enduring_session Host.before_enduring _ _ calls) allowed
    obtain ⟨result, related'⟩ := paired_carryOut paired related modes c first
    have modes' : (d.carryOut m c).2.1.fileMode = (e.carryOut n c).2.1.fileMode := by
      rw [fileMode_carryOut, fileMode_carryOut, modes]
    obtain ⟨results, last⟩ := ih related' modes' rest
    refine ⟨?_, last⟩
    simp only [result, results]

end Driver

end WholeFile
