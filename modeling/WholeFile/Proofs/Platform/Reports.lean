import WholeFile.Proofs.Driver.Reports
import WholeFile.Proofs.Platform.Operations

/-!
# What platforms report

The callers of a platform are not told why an operation has failed. That is reported instead, with
one line for each failure, which ends with the error. What succeeds is not reported, nor is what
fails in a way that callers can see for themselves.
-/

namespace WholeFile

/-! ## Failures -/

namespace Operation

/-- The error of the call that an operation makes for its caller. A handle that names nothing is an
error, too. -/
inductive Fails (p : Platform) (m : Machine) : Operation → Error → Prop
  | construct {size : Nat} {e : AllocError} (refused : Buffer.withSize size = .error e) :
      Fails p m (.construct size) (.alloc e)
  | constructFrom {data : Bytes} {size : Nat} {e : AllocError} (fits : size ≤ data.length)
      (refused : Buffer.copyOf (data.take size) = .error e) :
      Fails p m (.constructFrom data size) (.alloc e)
  | readFile {path : Path} {e : Error}
      (failed : (p.driver.readFile m path).result = .error (.error e)) :
      Fails p m (.readFile path) e
  | resize {h : Handle} {b : Buffer} {size : Nat} {e : AllocError}
      (there : p.arena.get? h = some b) (refused : b.resize size = .error e) :
      Fails p m (.resize h size) (.alloc e)
  | resizeInvalid {h : Handle} {size : Nat} (invalid : p.isValid h = false) :
      Fails p m (.resize h size) .invalidHandle
  | writeFile {path : Path} {h : Handle} {b : Buffer} {e : Error}
      (there : p.arena.get? h = some b)
      (failed : (p.driver.writeFile m path b.bytes).result = .error e) :
      Fails p m (.writeFile path h) e
  | writeInvalid {path : Path} {h : Handle} (invalid : p.isValid h = false) :
      Fails p m (.writeFile path h) .invalidHandle

/-- The operation fails and does not tell its caller why, or it is to release what is not there. -/
def Swallows (p : Platform) (m : Machine) (op : Operation) : Prop :=
  match op with
  | construct _ | constructFrom _ _ | readFile _ | resize _ _ | writeFile _ _ =>
    (p.step m op).1.sentinel = true
  | destruct h => p.isValid h = false
  | insert _ | take _ | overwrite _ _ _ | fill _ _ => False

/-- There is no call whose error could be told: there are fewer bytes than asked for, or there is
only a buffer to release. -/
def Callless : Operation → Prop
  | constructFrom data size => data.length < size
  | destruct _ => True
  | _ => False

end Operation

/-! ## Reports -/

namespace Platform

/-- What an operation swallows is reported once, with the error of its call if it makes one. -/
structure Reports (p : Platform) (m : Machine) (op : Operation) : Prop where
  silent : ¬ op.Swallows p m →
    (p.step m op).2.2.journal.reports .platform = m.journal.reports .platform
  told : op.Swallows p m → ∃ message,
    (p.step m op).2.2.journal.reports .platform =
      m.journal.reports .platform ++ [⟨.debug, .platform, message⟩] ∧
    (¬ op.Callless → ∃ start e, message = start ++ e.message ∧ op.Fails p m e)

variable {p : Platform} {m n : Machine} {op : Operation} {message : String}

theorem reports_note (m : Machine) (message : String) :
    (note m message).journal.reports .platform =
      m.journal.reports .platform ++ [⟨.debug, .platform, message⟩] := by
  unfold note Machine.log
  rw [Journal.reports_append]
  rfl

theorem Reports.of_same (machine : (p.step m op).2.2 = n)
    (same : n.journal.reports .platform = m.journal.reports .platform)
    (fine : ¬ op.Swallows p m) : p.Reports m op :=
  ⟨fun _ => machine ▸ same, fun swallows => absurd swallows fine⟩

theorem Reports.of_note (machine : (p.step m op).2.2 = note n message)
    (same : n.journal.reports .platform = m.journal.reports .platform)
    (swallows : op.Swallows p m)
    (cause : ¬ op.Callless → ∃ start e, message = start ++ e.message ∧ op.Fails p m e) :
    p.Reports m op := by
  refine ⟨absurd swallows, fun _ => ⟨message, ?_, cause⟩⟩
  rw [machine, reports_note, same]

/-! ## Operations -/

/-- An operation that makes a buffer, or else gives the invalid handle. -/
theorem reports_insertResult {q : Platform} {result : Except Error Buffer}
    (given : p.step m op = (.handle (q.insertResult n result).1, (q.insertResult n result).2))
    (same : n.journal.reports .platform = m.journal.reports .platform)
    (bounded : q.arena.Bounded) (room : (p.step m op).2.1.count ≤ Arena.limit)
    (swallows : op.Swallows p m ↔ (p.step m op).1.sentinel = true)
    (fails : ∀ e, result = .error e → op.Fails p m e) : p.Reports m op := by
  rw [given] at swallows room
  cases result with
  | error e =>
    exact .of_note (congrArg (·.2.2) given) same (swallows.2 rfl)
      fun _ => ⟨"returning invalid handle: ", e, rfl, fails e rfl⟩
  | ok b =>
    -- In a full arena the handle would be the invalid one, though nothing has failed.
    have present : (q.arena.insert b).1.isNull = false := (bounded.insert b room).2
    refine .of_same (congrArg (·.2.2) given) same fun swallowed => ?_
    exact Bool.false_ne_true (present.symm.trans (swallows.1 swallowed))

/-- An operation that tells its caller whether it has succeeded. -/
theorem reports_succeeded {q : Platform} {name : String} {result : Except Error Unit}
    (given : p.step m op = (.flag (succeeded n name result).1, q, (succeeded n name result).2))
    (same : n.journal.reports .platform = m.journal.reports .platform)
    (swallows : op.Swallows p m ↔ (p.step m op).1.sentinel = true)
    (fails : ∀ e, result = .error e → op.Fails p m e) : p.Reports m op := by
  rw [given] at swallows
  cases result with
  | error e =>
    refine .of_note (congrArg (·.2.2) given) same (swallows.2 rfl)
      fun _ => ⟨name ++ " failed: ", e, rfl, fails e rfl⟩
  | ok u =>
    refine .of_same (congrArg (·.2.2) given) same fun swallowed => ?_
    exact Bool.false_ne_true (swallows.1 swallowed)

theorem error_of_mapError {ε ε' α : Type} {result : Except ε α} {f : ε → ε'} {e : ε'}
    (h : result.mapError f = .error e) : ∃ cause, result = .error cause ∧ e = f cause := by
  cases result with
  | ok a => cases h
  | error cause =>
    cases h
    exact ⟨cause, rfl, rfl⟩

variable {h : Handle} {path : Path}

theorem resize_reports (h : Handle) (size : Nat) : p.Reports m (.resize h size) := by
  refine reports_succeeded rfl rfl Iff.rfl fun e failed => ?_
  cases there : p.arena.get? h with
  | none =>
    rw [resizeBuffer_of_none there] at failed
    cases failed
    exact .resizeInvalid (isValid_eq_false_iff.2 there)
  | some b =>
    rw [resizeBuffer_of_some there] at failed
    cases resized : b.resize size with
    | ok c =>
      rw [resized] at failed
      cases failed
    | error cause =>
      rw [resized] at failed
      cases failed
      exact .resize there resized

theorem writeFile_reports (path : Path) (h : Handle) : p.Reports m (.writeFile path h) := by
  cases there : p.arena.get? h with
  | none =>
    have given : p.step m (.writeFile path h) =
        (.flag (succeeded m "write_file" (.error .invalidHandle)).1, p,
          (succeeded m "write_file" (.error .invalidHandle)).2) := by
      simp only [step, writeFile, get_of_none there]
    refine reports_succeeded given rfl Iff.rfl fun e failed => ?_
    cases failed
    exact .writeInvalid (isValid_eq_false_iff.2 there)
  | some b =>
    have given : p.step m (.writeFile path h) =
        let run := p.driver.writeFile m path b.bytes
        (.flag (succeeded run.machine "write_file" run.result).1, { p with driver := run.driver },
          (succeeded run.machine "write_file" run.result).2) := by
      simp only [step, writeFile, get_of_some there]
    have same : (p.driver.writeFile m path b.bytes).machine.journal.reports .platform = _ :=
      p.driver.reports_writeFile_of_ne m path b.bytes (by decide)
    exact reports_succeeded given same Iff.rfl fun e failed => .writeFile there failed

theorem readFile_reports (bounded : p.arena.Bounded)
    (room : (p.step m (.readFile path)).2.1.count ≤ Arena.limit) :
    p.Reports m (.readFile path) := by
  let run := p.driver.readFile m path
  let q : Platform := { p with driver := run.driver }
  have same : run.machine.journal.reports .platform = m.journal.reports .platform :=
    p.driver.reports_readFile_of_ne m path (by decide)
  cases read : (p.driver.readFile m path).result with
  | ok b =>
    have given : p.step m (.readFile path) =
        (.handle (q.insertResult run.machine (.ok b)).1,
          (q.insertResult run.machine (.ok b)).2) := by
      simp only [step, readFile, read, q, run]
    refine reports_insertResult given same bounded room Iff.rfl fun e failed => ?_
    cases failed
  | error cause =>
    cases cause with
    | error e =>
      have given : p.step m (.readFile path) =
          (.handle (q.insertResult run.machine (.error e)).1,
            (q.insertResult run.machine (.error e)).2) := by
        simp only [step, readFile, read, q, run]
      refine reports_insertResult given same bounded room Iff.rfl fun e' failed => ?_
      cases failed
      exact .readFile read
    | abort cause =>
      have given : p.step m (.readFile path) = (.aborted cause, q, run.machine) := by
        simp only [step, readFile, read, q, run]
      refine .of_same (congrArg (·.2.2) given) same ?_
      rw [Operation.Swallows, given]
      exact Bool.false_ne_true

/-- What a platform does is reported if it fails without a word to the caller, and only then. -/
theorem reports (bounded : p.arena.Bounded) (op : Operation)
    (room : (p.step m op).2.1.count ≤ Arena.limit) : p.Reports m op := by
  have quiet {op : Operation} (machine : (p.step m op).2.2 = m) (fine : ¬ op.Swallows p m) :
      p.Reports m op := .of_same machine rfl fine
  cases op with
  | construct size =>
    refine reports_insertResult rfl rfl bounded room Iff.rfl fun e failed => ?_
    obtain ⟨cause, refused, rfl⟩ := error_of_mapError failed
    exact .construct refused
  | constructFrom data size =>
    by_cases fits : size ≤ data.length
    · have given : p.step m (.constructFrom data size) =
          let result := (Buffer.copyOf (data.take size)).mapError .alloc
          (.handle (p.insertResult m result).1, (p.insertResult m result).2) := by
        simp only [step, constructFrom, if_pos fits]
      refine reports_insertResult given rfl bounded room Iff.rfl fun e failed => ?_
      obtain ⟨cause, refused, rfl⟩ := error_of_mapError failed
      exact .constructFrom fits refused
    · let message :=
        s!"construct_with_buffer: asked for {size} bytes from a {data.length} byte source"
      have given : p.step m (.constructFrom data size) = (.handle .invalid, p, note m message) := by
        simp only [step, constructFrom, if_neg fits, message]
      refine .of_note (congrArg (·.2.2) given) rfl ?_ fun called => absurd ?_ called
      · rw [Operation.Swallows, given]
        rfl
      · exact Nat.lt_of_not_le fits
  | insert b => exact quiet rfl id
  | readFile path => exact readFile_reports bounded room
  | take h =>
    refine quiet ?_ id
    simp only [step]
    split <;> rfl
  | destruct h =>
    cases there : p.arena.get? h with
    | none =>
      have invalid := isValid_eq_false_iff.2 there
      have given : p.step m (.destruct h) =
          (.released, p, note m s!"destruct: ignoring invalid handle {h.describe}") := by
        simp only [step, destruct, Arena.remove_eq_none_iff.2 invalid]
      exact .of_note (congrArg (·.2.2) given) rfl invalid fun called => absurd trivial called
    | some b =>
      obtain ⟨arena, taken⟩ := Arena.exists_remove there
      refine quiet ?_ fun invalid => ?_
      · simp only [step, destruct, taken]
      · cases there.symm.trans (isValid_eq_false_iff.1 invalid)
  | resize h size => exact resize_reports h size
  | writeFile path h => exact writeFile_reports path h
  | overwrite h pos bytes =>
    refine quiet ?_ id
    simp only [step]
    split <;> rfl
  | fill h byte =>
    refine quiet ?_ id
    simp only [step]
    split <;> rfl

end Platform

end WholeFile
