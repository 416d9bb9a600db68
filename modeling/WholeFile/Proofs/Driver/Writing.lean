import WholeFile.Proofs.Driver.Retry
import WholeFile.Proofs.Machine.Files

/-!
# What writing a file does

Each request carries the bytes that have not been written yet, at the place where they belong. So
the file always holds the first of the bytes, as many as the kernel has taken, however the writing
ends.
-/

namespace WholeFile

/-! ## Requests -/

/-- What a request from `written` on carries. -/
def DriverKind.asked (k : DriverKind) (bytes : Bytes) (written : Nat) : Bytes :=
  (bytes.drop written).take (k.limited (bytes.length - written))

theorem DriverKind.asked_ne_nil (k : DriverKind) {bytes : Bytes} {written : Nat}
    (lt : written < bytes.length) : k.asked bytes written ≠ [] := by
  have pos := k.limited_pos (Nat.sub_pos_of_lt lt)
  intro none
  have := congrArg List.length none
  simp only [asked, List.length_take, List.length_drop, List.length_nil] at this
  omega

/-- The request from `written` on, and its answer. -/
def DriverKind.writeCall (k : DriverKind) (fd : Descriptor) (bytes : Bytes) (written : Nat)
    (answer : Except Errno Nat) : Call := .write fd (k.asked bytes written) written answer

/-- How a run of requests ends. -/
inductive WriteEnd where
  | complete
  /-- The last request was answered with zero. -/
  | short
  | failed (e : IoError)

/-- The requests that are made from `written` on, how far they get, and how they end. A request that
the backend does not serve fails for one of the `causes`, and the kernel does not see it. -/
inductive Writes (k : DriverKind) (fd : Descriptor) (bytes : Bytes) (causes : IoError → Prop) :
    Nat → List Call → Nat → WriteEnd → Prop
  | complete : Writes k fd bytes causes bytes.length [] bytes.length .complete
  | interrupted {written reached : Nat} {cs : List Call} {ending : WriteEnd}
      (lt : written < bytes.length) (rest : Writes k fd bytes causes written cs reached ending) :
      Writes k fd bytes causes written
        (k.writeCall fd bytes written (.error .interrupted) :: cs) reached ending
  | wrote {written reached : Nat} {cs : List Call} {ending : WriteEnd} {count : Nat}
      (lt : written < bytes.length) (pos : 0 < count)
      (le : count ≤ k.limited (bytes.length - written))
      (rest : Writes k fd bytes causes (written + count) cs reached ending) :
      Writes k fd bytes causes written (k.writeCall fd bytes written (.ok count) :: cs) reached
        ending
  | short {written : Nat} (lt : written < bytes.length) :
      Writes k fd bytes causes written [k.writeCall fd bytes written (.ok 0)] written .short
  | failed {written : Nat} (lt : written < bytes.length) (e : Errno) (ne : e ≠ .interrupted) :
      Writes k fd bytes causes written [k.writeCall fd bytes written (.error e)] written
        (.failed (.os e))
  | unserved {written : Nat} (lt : written < bytes.length) {e : IoError} (cause : causes e) :
      Writes k fd bytes causes written [] written (.failed e)

def Call.written? : Call → Option (Except Errno Nat)
  | write _ _ _ answer => some answer
  | _ => none

/-- More requests may come after an interruption and after a count that is not zero. -/
def GoesOn (answer : Except Errno Nat) : Prop :=
  answer = .error .interrupted ∨ ∃ n, answer = .ok (n + 1)

/-- How many bytes the kernel took. -/
def Call.taken (c : Call) : Nat :=
  match c.written? with
  | some (.ok count) => count
  | _ => 0

def taken (cs : List Call) : Nat := sumOver Call.taken cs

namespace Writes

variable {k : DriverKind} {fd : Descriptor} {bytes : Bytes} {causes : IoError → Prop}
  {written reached : Nat} {cs : List Call} {ending : WriteEnd}

theorem imp {causes' : IoError → Prop} (h : ∀ e, causes e → causes' e)
    (writes : Writes k fd bytes causes written cs reached ending) :
    Writes k fd bytes causes' written cs reached ending := by
  induction writes with
  | complete => exact .complete
  | interrupted lt rest ih => exact .interrupted lt ih
  | wrote lt pos le rest ih => exact .wrote lt pos le ih
  | short lt => exact .short lt
  | failed lt e ne => exact .failed lt e ne
  | unserved lt cause => exact .unserved lt (h _ cause)

theorem again (lt : written < bytes.length) (tries : Nat)
    (writes : Writes k fd bytes causes written cs reached ending) :
    Writes k fd bytes causes written
      (List.replicate tries (k.writeCall fd bytes written (.error .interrupted)) ++ cs) reached
      ending := by
  induction tries with
  | zero => exact writes
  | succ n ih => exact .interrupted lt ih

theorem reached_eq (writes : Writes k fd bytes causes written cs reached ending) :
    reached = written + taken cs := by
  induction writes with
  | complete => rfl
  | interrupted lt rest ih =>
    rw [ih]
    simp [taken, sumOver, DriverKind.writeCall, Call.taken, Call.written?]
  | wrote lt pos le rest ih =>
    rw [ih]
    simp only [taken, sumOver, DriverKind.writeCall, Call.taken, Call.written?]
    omega
  | short lt | failed lt | unserved lt => rfl

theorem reached_le (writes : Writes k fd bytes causes written cs reached ending) :
    reached ≤ bytes.length := by
  induction writes with
  | complete => exact Nat.le_refl _
  | interrupted lt rest ih | wrote lt pos le rest ih => exact ih
  | short lt | failed lt | unserved lt => exact Nat.le_of_lt lt

theorem complete_iff (writes : Writes k fd bytes causes written cs reached ending) :
    ending = .complete ↔ reached = bytes.length := by
  induction writes with
  | complete => simp
  | interrupted lt rest ih | wrote lt pos le rest ih => exact ih
  | short lt | failed lt | unserved lt =>
    constructor
    · intro h
      cases h
    · intro h
      omega

theorem short_iff (writes : Writes k fd bytes causes written cs reached ending) :
    ending = .short ↔ ∃ c ∈ cs, c.written? = some (.ok 0) := by
  induction writes with
  | complete => simp
  | interrupted lt rest ih =>
    rw [ih]
    simp [DriverKind.writeCall, Call.written?]
  | wrote lt pos le rest ih =>
    rw [ih]
    simp [DriverKind.writeCall, Call.written?]
    omega
  | short lt => simp [DriverKind.writeCall, Call.written?]
  | failed lt e ne => simp [DriverKind.writeCall, Call.written?]
  | unserved lt => simp

/-- The error with which the writing fails is that of the one request that failed. -/
theorem failed_of_mem (writes : Writes k fd bytes causes written cs reached ending) {c : Call}
    {e : Errno} (mem : c ∈ cs) (answer : c.written? = some (.error e)) (ne : e ≠ .interrupted) :
    ending = .failed (.os e) := by
  induction writes with
  | complete | unserved lt => cases mem
  | interrupted lt rest ih =>
    rcases List.mem_cons.1 mem with rfl | mem
    · cases answer
      exact absurd rfl ne
    · exact ih mem
  | wrote lt pos le rest ih =>
    rcases List.mem_cons.1 mem with rfl | mem
    · cases answer
    · exact ih mem
  | short lt =>
    cases List.mem_singleton.1 mem
    cases answer
  | failed lt e' ne' =>
    cases List.mem_singleton.1 mem
    cases answer
    rfl

theorem of_failed (writes : Writes k fd bytes causes written cs reached ending) {e : IoError}
    (h : ending = .failed e) :
    (∃ c ∈ cs, ∃ errno, errno ≠ .interrupted ∧ c.written? = some (.error errno) ∧ e = .os errno) ∨
      reached < bytes.length ∧ causes e := by
  induction writes with
  | complete => cases h
  | interrupted lt rest ih | wrote lt pos le rest ih =>
    rcases ih h with ⟨c, mem, failed⟩ | unserved
    · exact .inl ⟨c, List.mem_cons_of_mem _ mem, failed⟩
    · exact .inr unserved
  | short lt => cases h
  | failed lt errno ne =>
    cases h
    exact .inl ⟨_, List.mem_cons_self, errno, ne, rfl, rfl⟩
  | unserved lt cause =>
    cases h
    exact .inr ⟨lt, cause⟩

/-- Every request carries what is left of the bytes, at its place, and only if something is left. -/
theorem request (writes : Writes k fd bytes causes written cs reached ending)
    {before after : List Call} {c : Call} (h : cs = before ++ c :: after) :
    written + taken before < bytes.length ∧
      ∃ answer, c = k.writeCall fd bytes (written + taken before) answer ∧
        (after ≠ [] → GoesOn answer) := by
  induction writes generalizing before with
  | complete =>
    cases before <;> cases h
  | interrupted lt rest ih =>
    cases before with
    | nil =>
      cases h
      exact ⟨lt, _, rfl, fun _ => .inl rfl⟩
    | cons d before =>
      obtain ⟨rfl, rest⟩ := List.cons.inj h
      have := ih rest
      simpa [taken, sumOver, DriverKind.writeCall, Call.taken, Call.written?] using this
  | @wrote written reached cs ending count lt pos le rest ih =>
    cases before with
    | nil =>
      cases h
      refine ⟨lt, _, rfl, fun _ => .inr ⟨count - 1, ?_⟩⟩
      rw [Nat.sub_add_cancel pos]
    | cons d before =>
      obtain ⟨rfl, rest⟩ := List.cons.inj h
      have := ih rest
      simpa [taken, sumOver, DriverKind.writeCall, Call.taken, Call.written?, Nat.add_assoc] using
        this
  | short lt | failed lt =>
    cases before with
    | nil =>
      cases h
      exact ⟨lt, _, rfl, fun more => absurd rfl more⟩
    | cons d before =>
      obtain ⟨-, rest⟩ := List.cons.inj h
      cases before <;> cases rest
  | unserved lt =>
    cases before <;> cases h

end Writes

/-! ## One write -/

namespace Host

variable {h h' : Host} {fd : Descriptor} {p : Path} {bytes asked : Bytes} {w : Nat} {a : Attempt}

theorem Retries.unwritten (retries : Retries fd w (.write asked) h h')
    (path : h.machine.path? fd = some p) :
    h'.machine.files = h.machine.files ∧ h'.machine.path? fd = some p := by
  induction retries with
  | none => exact ⟨rfl, path⟩
  | @again h h' h'' loan answer plain onward rest ih =>
    have failed : (h.machine.write fd asked w).1 = .error .interrupted := answer
    have files : h'.machine.files = h.machine.files := by
      rw [Machine.files_of_plain plain]
      change (h.machine.write fd asked w).2.files = _
      rw [Machine.files_write path, failed]
      rfl
    have path' : h'.machine.path? fd = some p := by
      rw [Machine.path?_of_plain plain]
      change (h.machine.write fd asked w).2.path? fd = _
      rw [Machine.path?_write, path]
    obtain ⟨files', path''⟩ := ih path'
    exact ⟨files'.trans files, path''⟩

/-- How one write from `w` on goes, interruptions included. -/
inductive WritesAt (h : Host) (fd : Descriptor) (p : Path) (bytes : Bytes) (w : Nat) (a : Attempt) :
    Prop
  | answered (tries : Nat) (answer : Except Errno Nat) (ne : answer ≠ .error .interrupted)
      (deeds : (h.machine.since a.host.machine).deeds =
        List.replicate tries (h.backend.kind.writeCall fd bytes w (.error .interrupted)) ++
          [h.backend.kind.writeCall fd bytes w answer])
      (result : a.result = answer.mapError .os)
      (le : ∀ count, answer = .ok count → count ≤ h.backend.kind.limited (bytes.length - w))
      (files : a.host.machine.files = h.machine.files.written p w (bytes.drop w) answer)
  | lost (tries : Nat) (e : IoError) (lost : Lost h a.host e)
      (deeds : (h.machine.since a.host.machine).deeds =
        List.replicate tries (h.backend.kind.writeCall fd bytes w (.error .interrupted)))
      (result : a.result = .error e) (files : a.host.machine.files = h.machine.files)

theorem writeAt_writesAt (ready : h.Ready) (path : h.machine.path? fd = some p) (bytes : Bytes)
    (w : Nat) :
    h.WritesAt fd p bytes w (h.writeAt fd w (bytes.drop w)) ∧
      (h.writeAt fd w (bytes.drop w)).host.machine.path? fd = some p := by
  obtain ⟨issued, outlasts⟩ := writeAt_outlasts ready fd w (bytes.drop w)
  have asks : h.writing (bytes.drop w) = .write (h.backend.kind.asked bytes w) := by
    unfold writing DriverKind.asked
    rw [List.length_drop]
  rw [asks] at outlasts
  generalize h.writeAt fd w (bytes.drop w) = a at outlasts ⊢
  cases outlasts with
  | lost retries k deeds why result lent plain =>
    obtain ⟨files, path'⟩ := retries.unwritten path
    refine ⟨.lost k _ why deeds result ?_, ?_⟩
    · rw [Machine.files_of_plain plain, files]
    · rw [Machine.path?_of_plain plain, path']
  | @answered h' retries k deeds ne result lent plain =>
    obtain ⟨files, path'⟩ := retries.unwritten path
    have le : ∀ count, (h'.machine.write fd (h.backend.kind.asked bytes w) w).1 = .ok count →
        count ≤ h.backend.kind.limited (bytes.length - w) := fun count hc =>
      Nat.le_trans (Machine.count_write_le hc) (List.length_take_le ..)
    refine ⟨.answered k _ ne deeds result le ?_, ?_⟩
    · rw [Machine.files_of_plain plain]
      refine (Machine.files_write path' _ _).trans ?_
      rw [files]
      exact FileTable.written_take _ _ _ _ _ le
    · rw [Machine.path?_of_plain plain]
      exact (Machine.path?_write ..).trans path'

end Host

/-! ## All writes -/

theorem Bytes.spliced_take_drop {bytes : Bytes} {w : Nat} (le : w ≤ bytes.length) (n : Nat) :
    Bytes.spliced (bytes.take w) w ((bytes.drop w).take n) = bytes.take (w + n) := by
  have length : (bytes.take w).length = w := by
    rw [List.length_take]
    omega
  have joined := Bytes.spliced_length (bytes.take w) ((bytes.drop w).take n)
  rw [length] at joined
  rw [joined, List.take_add]

/-- How the writing of an open file and its closing come out together. -/
def WriteEnd.result (ending : WriteEnd) (length reached : Nat)
    (closed : Except Errno Unit) : Except Error Unit :=
  match ending with
  | .complete => closed.mapError fun e => .io (.os e)
  | .short => .error (.shortWrite length reached)
  | .failed e => .error (.io e)

section

variable {length reached : Nat} {closed : Except Errno Unit}

@[simp] theorem WriteEnd.result_complete_ok {done : Unit} :
    complete.result length reached (.ok done) = .ok () := rfl

@[simp] theorem WriteEnd.result_complete_error {e : Errno} :
    complete.result length reached (.error e) = .error (.io (.os e)) := rfl

@[simp] theorem WriteEnd.result_short :
    short.result length reached closed = .error (.shortWrite length reached) := rfl

@[simp] theorem WriteEnd.result_failed {e : IoError} :
    (failed e).result length reached closed = .error (.io e) := rfl

end

/-- What a run of requests comes to. -/
def WriteEnd.outcome (length reached : Nat) : WriteEnd → Except Error Nat
  | complete => .ok reached
  | short => .error (.shortWrite length reached)
  | failed e => .error (.io e)

namespace Host

/-- The requests `cs` have been made, from `w` on, and have written the file `p` as far as
`reached`. -/
structure Wrote (h : Host) (fd : Descriptor) (p : Path) (bytes : Bytes) (w : Nat) (h' : Host)
    (cs : List Call) (reached : Nat) (ending : WriteEnd) : Prop where
  deeds : (h.machine.since h'.machine).deeds = cs
  writes : Writes h.backend.kind fd bytes (Lost h h') w cs reached ending
  content : h'.machine.files.content p = bytes.take reached
  others : ∀ q, q ≠ p → h'.machine.files.find? q = h.machine.files.find? q

variable {h h' : Host} {fd : Descriptor} {p : Path} {bytes : Bytes} {w : Nat} {a : Attempt}

/-- A write that ends the writing. -/
theorem WritesAt.stop (writesAt : h.WritesAt fd p bytes w a) (lt : w < bytes.length)
    (holds : h.machine.files.Holds p (bytes.take w))
    (stops : ∀ n, a.result ≠ .ok (n + 1)) :
    ∃ cs ending, h.Wrote fd p bytes w a.host cs w ending ∧
      ending.outcome bytes.length w =
        match a.result with
        | .error e => .error (.io e)
        | .ok _ => .error (.shortWrite bytes.length w) := by
  have held := holds.content
  cases writesAt with
  | lost tries e lost deeds result files =>
    refine ⟨_, .failed e, ⟨deeds, ?_, ?_, ?_⟩, ?_⟩
    · have last : Writes h.backend.kind fd bytes (Lost h a.host) w [] w (.failed e) :=
        .unserved lt lost
      have all := last.again lt tries
      rwa [List.append_nil] at all
    · rw [files, held]
    · intro q _
      rw [files]
    · rw [result]
      rfl
  | answered tries answer ne deeds result le files =>
    have ends {ending : WriteEnd} (kept : a.host.machine.files = h.machine.files)
        (last : Writes h.backend.kind fd bytes (Lost h a.host) w
          [h.backend.kind.writeCall fd bytes w answer] w ending) :
        h.Wrote fd p bytes w a.host (h.machine.since a.host.machine).deeds w ending := by
      refine ⟨rfl, ?_, ?_, ?_⟩
      · rw [deeds]
        exact last.again lt tries
      · rw [kept, held]
      · intro q _
        rw [kept]
    rw [result] at stops ⊢
    cases answer with
    | error e =>
      have other : e ≠ .interrupted := fun he => ne (congrArg Except.error he)
      exact ⟨_, _, ends files (.failed lt e other), rfl⟩
    | ok count =>
      cases count with
      | zero => exact ⟨_, _, ends files (.short lt), rfl⟩
      | succ n => exact absurd rfl (stops n)

/-- A write after which there may be more to write. -/
theorem WritesAt.go {n : Nat} (writesAt : h.WritesAt fd p bytes w a) (le : w ≤ bytes.length)
    (holds : h.machine.files.Holds p (bytes.take w)) (result : a.result = .ok (n + 1)) :
    (∃ tries, (h.machine.since a.host.machine).deeds =
      List.replicate tries (h.backend.kind.writeCall fd bytes w (.error .interrupted)) ++
        [h.backend.kind.writeCall fd bytes w (.ok (n + 1))]) ∧
      n + 1 ≤ h.backend.kind.limited (bytes.length - w) ∧
      a.host.machine.files.Holds p (bytes.take (w + (n + 1))) ∧
      ∀ q, q ≠ p → a.host.machine.files.find? q = h.machine.files.find? q := by
  cases writesAt with
  | lost tries e lost deeds failed files =>
    rw [result] at failed
    cases failed
  | answered tries answer ne deeds result' count files =>
    rw [result] at result'
    cases answer with
    | error e => cases result'
    | ok count' =>
      cases result'
      refine ⟨⟨tries, deeds⟩, count _ rfl, ?_, ?_⟩
      · rw [files, ← Bytes.spliced_take_drop le]
        exact holds.editContent _
      · intro q other
        rw [files, FileTable.find?_written_of_ne _ other]

theorem writeAll_wrote (ready : h.Ready) (path : h.machine.path? fd = some p)
    (holds : h.machine.files.Holds p (bytes.take w)) (le : w ≤ bytes.length) :
    ∃ cs reached ending, h.Wrote fd p bytes w (h.writeAll fd bytes w).2 cs reached ending ∧
      (h.writeAll fd bytes w).1 = ending.outcome bytes.length reached := by
  fun_induction writeAll h fd bytes w with
  | case1 h w lt a e ha =>
    obtain ⟨writesAt, -⟩ := writeAt_writesAt ready path bytes w
    have ha' : (h.writeAt fd w (bytes.drop w)).result = .error e := ha
    obtain ⟨cs, ending, wrote, outcome⟩ := writesAt.stop lt holds (by rw [ha']; simp)
    rw [ha'] at outcome
    exact ⟨cs, w, ending, wrote, outcome.symm⟩
  | case2 h w lt a ha =>
    obtain ⟨writesAt, -⟩ := writeAt_writesAt ready path bytes w
    have ha' : (h.writeAt fd w (bytes.drop w)).result = .ok 0 := ha
    obtain ⟨cs, ending, wrote, outcome⟩ := writesAt.stop lt holds (by rw [ha']; simp)
    rw [ha'] at outcome
    exact ⟨cs, w, ending, wrote, outcome.symm⟩
  | case3 h w lt a n ha ih =>
    obtain ⟨writesAt, path'⟩ := writeAt_writesAt ready path bytes w
    have first : h.Onward a.host := writeAt_onward ready ..
    obtain ⟨⟨tries, deeds⟩, count, holds', others⟩ :=
      writesAt.go (Nat.le_of_lt lt) holds ha
    have fits := h.backend.kind.limited_le (bytes.length - w)
    obtain ⟨cs, reached, ending, wrote, outcome⟩ :=
      ih first.ready path' holds' (by omega)
    have rest := writeAll_onward first.ready fd bytes (w + (n + 1))
    refine ⟨List.replicate tries (h.backend.kind.writeCall fd bytes w (.error .interrupted)) ++
      h.backend.kind.writeCall fd bytes w (.ok (n + 1)) :: cs, reached, ending,
      ⟨?_, ?_, wrote.content, ?_⟩, outcome⟩
    · rw [Machine.since_trans first.before rest.before, Journal.deeds_append, deeds, wrote.deeds,
        List.append_assoc]
      rfl
    · have later := wrote.writes
      rw [first.kind] at later
      exact (Writes.wrote lt (Nat.succ_pos n) count (later.imp fun e lost =>
        lost.within first rest (.refl rest.ready))).again lt tries
    · intro q other
      rw [wrote.others q other, others q other]
  | case4 h w done =>
    have all : w = bytes.length := by omega
    subst all
    refine ⟨[], bytes.length, .complete, ⟨?_, .complete, holds.content, fun _ _ => rfl⟩, rfl⟩
    rw [Machine.since_self]
    rfl

theorem settle_outcome (fd : Descriptor) (p : Path) (length reached : Nat) (ending : WriteEnd) :
    (settle fd p (ending.outcome length reached, h)).1 =
      ending.result length reached (h.machine.close fd).1 := by
  rw [settle_result]
  cases ending <;> rfl

theorem writeOpen_wrote (ready : h.Ready) (path : h.machine.path? fd = some p)
    (holds : h.machine.files.Holds p []) (bytes : Bytes) :
    ∃ h' cs reached ending, h.Wrote fd p bytes 0 h' cs reached ending ∧ h.Onward h' ∧
      h'.Onward (h.writeOpen fd p bytes).2 ∧
      (h'.machine.since (h.writeOpen fd p bytes).2.machine).deeds =
        [.close fd (h'.machine.close fd).1] ∧
      (h.writeOpen fd p bytes).2.machine.files = h'.machine.files ∧
      (h.writeOpen fd p bytes).1 =
        ending.result bytes.length reached (h'.machine.close fd).1 := by
  obtain ⟨cs, reached, ending, wrote, outcome⟩ :=
    writeAll_wrote ready path (w := 0) holds (Nat.zero_le _)
  have onward := writeAll_onward ready fd bytes 0
  rw [writeOpen_eq]
  generalize h.writeAll fd bytes 0 = run at wrote outcome onward ⊢
  obtain ⟨result, h'⟩ := run
  have closes : h'.Onward (settle fd p (result, h')).2 := settle_onward (.refl onward.ready) fd p
  have plain := settle_plain fd p (result, h')
  refine ⟨h', cs, reached, ending, wrote, onward, closes, ?_, ?_, ?_⟩
  · rw [← h'.machine.deeds_since_close fd]
    exact Machine.deeds_since closes.before (Machine.before_close ..) plain
  · exact (Machine.files_of_plain plain).trans (Machine.files_close ..)
  · rw [show result = _ from outcome]
    exact settle_outcome ..

end Host

/-! ## Whole files -/

namespace Driver

/-- What a whole-file write of `bytes` has done once the file is open as `fd`: the requests `cs`,
and the closing with its answer. -/
structure Replaced (d : Driver) (m : Machine) (p : Path) (bytes : Bytes) (run : Run Error Unit)
    (fd : Descriptor) (cs : List Call) (closed : Except Errno Unit) : Prop where
  deeds : ∃ tries, (m.since run.machine).deeds =
    List.replicate tries (Machine.interruptedOpen p .replace d.fileMode) ++
      .openFile p .replace d.fileMode (.ok fd) :: (cs ++ [.close fd closed])
  /-- Each request carries what has not been written yet, at its place, and never nothing. -/
  request : ∀ before c after, cs = before ++ c :: after →
    taken before < bytes.length ∧ d.kind.asked bytes (taken before) ≠ [] ∧
      ∃ answer, c = d.kind.writeCall fd bytes (taken before) answer ∧ (after ≠ [] → GoesOn answer)
  /-- The file holds what has been written, whatever the result is. -/
  content : run.machine.files.content p = bytes.take (taken cs)
  others : ∀ q, q ≠ p → run.machine.files.find? q = m.files.find? q
  reached : taken cs ≤ bytes.length
  ok : run.result = .ok () ↔ taken cs = bytes.length ∧ closed = .ok ()
  short : ∀ expected written, run.result = .error (.shortWrite expected written) ↔
    (∃ c ∈ cs, c.written? = some (.ok 0)) ∧ expected = bytes.length ∧ written = taken cs
  incomplete : (∃ c ∈ cs, c.written? = some (.ok 0)) → taken cs < bytes.length
  failed : ∀ c ∈ cs, ∀ e, c.written? = some (.error e) → e ≠ .interrupted →
    run.result = .error (.io (.os e))
  unclosed : ∀ e, taken cs = bytes.length → closed = .error e → run.result = .error (.io (.os e))
  /-- A request that no call was made for: the ring is poisoned. -/
  unserved : taken cs < bytes.length → (∀ c ∈ cs, ∃ answer, c.written? = some answer ∧ GoesOn answer) →
    ∃ e, (d.host m).Lost run.host e ∧ run.result = .error (.io e)

theorem replaced_of_writes {d : Driver} {m : Machine} {p : Path} {bytes : Bytes}
    {run : Run Error Unit} {fd : Descriptor} {cs : List Call} {reached : Nat} {ending : WriteEnd}
    {closed : Except Errno Unit}
    (deeds : ∃ tries, (m.since run.machine).deeds =
      List.replicate tries (Machine.interruptedOpen p .replace d.fileMode) ++
        .openFile p .replace d.fileMode (.ok fd) :: (cs ++ [.close fd closed]))
    (writes : Writes d.kind fd bytes ((d.host m).Lost run.host) 0 cs reached ending)
    (content : run.machine.files.content p = bytes.take reached)
    (others : ∀ q, q ≠ p → run.machine.files.find? q = m.files.find? q)
    (result : run.result = ending.result bytes.length reached closed) :
    d.Replaced m p bytes run fd cs closed := by
  have far : reached = taken cs := by
    rw [writes.reached_eq, Nat.zero_add]
  have complete := writes.complete_iff
  have short := writes.short_iff
  rw [far] at content result complete
  refine ⟨deeds, ?_, content, others, far ▸ writes.reached_le, ?_, ?_, ?_, ?_, ?_, ?_⟩
  · intro before c after h
    have := writes.request h
    rw [Nat.zero_add] at this
    exact ⟨this.1, d.kind.asked_ne_nil this.1, this.2⟩
  · rw [result, ← complete]
    cases ending <;> cases closed <;> simp
  · intro expected written
    rw [result, ← short]
    cases ending <;> cases closed <;> simp [eq_comm]
  · intro zero
    have : ending ≠ .complete := by
      rw [short.2 zero]
      intro h
      cases h
    have le := writes.reached_le
    rw [far] at le
    exact Nat.lt_of_le_of_ne le (mt complete.2 this)
  · intro c mem e answer ne
    rw [result, writes.failed_of_mem mem answer ne]
    rfl
  · intro e all failed
    rw [result, complete.2 all, failed]
    rfl
  · intro lt on
    cases ending with
    | complete => exact absurd (complete.1 rfl) (Nat.ne_of_lt lt)
    | short =>
      obtain ⟨c, mem, zero⟩ := short.1 rfl
      obtain ⟨answer, written, interrupted | ⟨n, more⟩⟩ := on c mem
      all_goals simp_all
    | failed e =>
      rcases writes.of_failed rfl with ⟨c, mem, errno, ne, failed, -⟩ | ⟨-, lost⟩
      · obtain ⟨answer, written, interrupted | ⟨n, more⟩⟩ := on c mem
        all_goals simp_all
      · exact ⟨e, lost, result⟩

theorem writeFile_ends {d : Driver} {m : Machine} (ready : (d.host m).Ready) (p : Path)
    (bytes : Bytes) :
    (∃ e, Machine.Opens m p .replace d.fileMode (.error e) (d.writeFile m p bytes).machine ∧
      (d.writeFile m p bytes).machine.files = m.files ∧
      (d.writeFile m p bytes).result = .error (.io e)) ∨
    ∃ fd cs closed, d.Replaced m p bytes (d.writeFile m p bytes) fd cs closed := by
  have opens := m.openPath_opens p .replace d.fileMode
  have before := m.before_openPath p .replace d.fileMode
  unfold writeFile
  cases ho : m.openPath p .replace d.fileMode with
  | mk answer n =>
    rw [ho] at opens before
    cases answer with
    | error e =>
      refine .inl ⟨e, opens, ?_, rfl⟩
      cases opens with
      | unspeakable => rfl
      | failed _ _ _ _ _ files => exact files
    | ok fd =>
      right
      cases opens with
      | opened _ tries _ opening files path =>
        obtain ⟨node, empty, table⟩ := Machine.filesOpened_replace files
        have emptied : n.files.Holds p [] := by
          rw [table, ← empty]
          exact FileTable.holds_insert ..
        have first : (d.host m).Onward (d.host n) := .of_before ready before
        obtain ⟨h', cs, far, ending, wrote, second, third, closing, kept, result⟩ :=
          Host.writeOpen_wrote first.ready path emptied bytes
        have did : (m.since ((d.host n).writeOpen fd p bytes).2.machine).deeds =
            List.replicate tries (Machine.interruptedOpen p .replace d.fileMode) ++
              .openFile p .replace d.fileMode (.ok fd) ::
                (cs ++ [.close fd (h'.machine.close fd).1]) := by
          have start : m.Before n := before
          have rest : n.Before ((d.host n).writeOpen fd p bytes).2.machine :=
            (second.trans third).before
          have written : (n.since h'.machine).deeds = cs := wrote.deeds
          have middle : n.Before h'.machine := second.before
          rw [Machine.since_trans start rest, Machine.since_trans middle third.before,
            Journal.deeds_append, Journal.deeds_append, opening, written, closing, List.append_assoc]
          rfl
        refine ⟨fd, cs, _, replaced_of_writes ⟨tries, did⟩ ?_ ?_ ?_ result⟩
        · exact wrote.writes.imp fun e lost => lost.within first second third
        · exact (congrArg (FileTable.content · p) kept).trans wrote.content
        · intro q other
          refine (congrArg (Table.find? · q) kept).trans ((wrote.others q other).trans ?_)
          change n.files.find? q = _
          rw [table]
          exact Table.find?_insert_of_ne _ _ other

/-- Whatever the kernel answers, a whole-file write either does not get the file open and leaves all
files as they were, or leaves the first of the bytes in it, as many as were taken. -/
theorem writeFile_replaces {d : Driver} (reached : d.Reached) {m : Machine}
    (honest : d.kind = .ring → m.schedule.Honest) (p : Path) (bytes : Bytes) :
    (∃ e, Machine.Opens m p .replace d.fileMode (.error e) (d.writeFile m p bytes).machine ∧
      (d.writeFile m p bytes).machine.files = m.files ∧
      (d.writeFile m p bytes).result = .error (.io e)) ∨
    ∃ fd cs closed, d.Replaced m p bytes (d.writeFile m p bytes) fd cs closed :=
  writeFile_ends (ready_iff.2 ⟨reached.settled, honest⟩) p bytes

/-- Over a ring: the open is interrupted, the first request comes short and late, and the second one
fails. -/
theorem writeFile_replaces_late_and_short :
    let d : Driver := ⟨.ring { capacity := Nat.nextPowerOfTwo 8 }, 0o666⟩
    let m : Machine :=
      { schedule.openFile := [some .interrupted]
        schedule.write := [{ short := some 1 }, { errno := some ⟨28⟩ }]
        schedule.enter := [{ take := false }, { errno := some .interrupted, post := false }] }
    d.Reached ∧ m.schedule.Honest ∧
      ((∃ e, Machine.Opens m [0x61] .replace 0o666 (.error e)
          (d.writeFile m [0x61] [1, 2, 3]).machine ∧
        (d.writeFile m [0x61] [1, 2, 3]).machine.files = m.files ∧
        (d.writeFile m [0x61] [1, 2, 3]).result = .error (.io e)) ∨
      ∃ fd cs closed,
        d.Replaced m [0x61] [1, 2, 3] (d.writeFile m [0x61] [1, 2, 3]) fd cs closed) := by
  intro d m
  have made : create {} { driver := .ring } = (.ok d, (create {} { driver := .ring }).2) := rfl
  have reached : d.Reached := .created made
  have honest : m.schedule.Honest := by
    refine ⟨?_, ?_, ?_⟩
    · simp [m, Schedule.Strayless]
    · simp [m]
    · simp [m]
  exact ⟨reached, honest, writeFile_replaces reached (fun _ => honest) [0x61] [1, 2, 3]⟩

end Driver

end WholeFile
