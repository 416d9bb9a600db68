import WholeFile.Driver.Basic
import WholeFile.Proofs.Machine.Before

/-!
# Which backend a driver gets

A ring is had where one can be set up and can both read and write. Whoever asks for a ring gets one
or an error, and finds that out alone. Whoever asks for whatever works gets a driver in any case,
and does not try for a ring of its own once it is on record that rings are not to be had.
-/

namespace WholeFile

/-! ## Rings that are to be had -/

/-- A ring of `entries` entries can be set up, and it can be asked what it can do, and it can both
read and write. -/
def Machine.Grants (m : Machine) (entries : Nat) : Prop :=
  ∃ ring n operations n', m.setup entries = (.ok ring, n) ∧ n.probe = (.ok operations, n') ∧
    ∀ had, operations = some had → 22 ∈ had ∧ 23 ∈ had

/-- How many entries were asked for, if the call sets up a ring. -/
def Call.setup? : Call → Option Nat
  | setup entries _ => some entries
  | _ => none

namespace Journal

/-- The sizes of all rings that were to be set up, in order. -/
def setups (j : Journal) : List Nat := j.calls.filterMap Call.setup?

theorem setups_append (i j : Journal) : setups (i ++ j) = setups i ++ setups j := by
  rw [setups, calls_append, List.filterMap_append]
  rfl

end Journal

namespace Machine

variable {m n : Machine}

theorem setups_record (m : Machine) {c : Call} (other : c.setup? = none) :
    (m.record c).journal.setups = m.journal.setups := by
  have none : Journal.setups [.call c] = [] := by
    simp [Journal.setups, Journal.calls, Event.call?, other]
  rw [record, Journal.setups_append, none, List.append_nil]

theorem setups_log (m : Machine) (level : LogLevel) (source : LogSource) (message : String) :
    (m.log level source message).journal.setups = m.journal.setups := by
  rw [log, Journal.setups_append]
  exact List.append_nil _

theorem calls_log (m : Machine) (level : LogLevel) (source : LogSource) (message : String) :
    (m.log level source message).journal.calls = m.journal.calls := by
  rw [log, Journal.calls_append]
  exact List.append_nil _

theorem setups_setup (m : Machine) (entries : Nat) :
    (m.setup entries).2.journal.setups = m.journal.setups ++ [entries] := by
  simp only [setup, record, Journal.setups_append]
  rfl

theorem setups_probe (m : Machine) : m.probe.2.journal.setups = m.journal.setups :=
  setups_record _ rfl

end Machine

namespace Ring

theorem transferOperations_iff {operations : Option (List Nat)} :
    (operations.all fun had => transferOperations.all had.contains) = true ↔
      ∀ had, operations = some had → 22 ∈ had ∧ 23 ∈ had := by
  cases operations <;> simp [transferOperations]

theorem create_isOk_iff (m : Machine) (entries : Nat) :
    (∃ ring n, create m entries = (.ok ring, n)) ↔ m.Grants entries := by
  unfold create
  constructor
  · rintro ⟨ring, n, made⟩
    split at made
    · cases made
    · next r n' hs =>
      split at made
      · cases made
      · next operations n'' hp =>
        split at made
        · next able => exact ⟨r, n', operations, n'', hs, hp, transferOperations_iff.1 able⟩
        · cases made
  · rintro ⟨ring, n, operations, n', hs, hp, able⟩
    simp only [hs, hp, transferOperations_iff.2 able, if_true]
    exact ⟨ring, n', rfl⟩

/-- Trying for a ring takes one setup, and what is on record about rings is not looked at. -/
theorem create_keeps (m : Machine) (entries : Nat) :
    (create m entries).2.ringSupport = m.ringSupport ∧
      (create m entries).2.journal.setups = m.journal.setups ++ [entries] := by
  have support : (m.setup entries).2.ringSupport = m.ringSupport := rfl
  have setups := m.setups_setup entries
  unfold create
  split
  · next h =>
    rw [h] at support setups
    exact ⟨support, setups⟩
  · next n h =>
    rw [h] at support setups
    have support' : n.probe.2.ringSupport = m.ringSupport := support
    have setups' := n.setups_probe.trans setups
    split
    · next h' =>
      rw [h'] at support' setups'
      exact ⟨support', (Machine.setups_record _ rfl).trans setups'⟩
    · next h' =>
      rw [h'] at support' setups'
      split
      · exact ⟨support', setups'⟩
      · exact ⟨support', (Machine.setups_record _ rfl).trans setups'⟩

theorem supported_of_known {m : Machine} {known : Bool} (h : m.ringSupport = some known) :
    supported m = (known, m) := by
  unfold supported
  rw [h]

/-- What is found out about rings is found out with a small one, and goes on record. -/
theorem supported_of_unknown {m : Machine} (h : m.ringSupport = none) :
    ((supported m).1 = true ↔ m.Grants 2) ∧
      (supported m).2.ringSupport = some (supported m).1 ∧
      (supported m).2.journal.setups = m.journal.setups ++ [2] := by
  obtain ⟨-, setups⟩ := create_keeps m 2
  have granted := create_isOk_iff m 2
  unfold supported
  rw [h]
  cases hc : create m 2 with
  | mk answer n =>
    rw [hc] at granted setups
    cases answer with
    | error e => exact ⟨by simpa using granted, rfl, (n.setups_log ..).trans setups⟩
    | ok ring => exact ⟨by simpa using granted, rfl, (n.setups_record rfl).trans setups⟩

end Ring

/-! ## One request -/

namespace Driver

variable {m : Machine} {o : Options}

theorem create_of_blocking (h : o.driver = .blocking) :
    ∃ n, create m o = (.ok ⟨.blocking, o.fileMode⟩, n) ∧ n.journal.calls = m.journal.calls ∧
      n.ringSupport = m.ringSupport := by
  unfold create chooseBackend
  rw [h]
  exact ⟨_, rfl, m.calls_log .., rfl⟩

theorem create_of_ring (h : o.driver = .ring) :
    ((∃ d n, create m o = (.ok d, n)) ↔ m.Grants o.entries) ∧
      (∀ d n, create m o = (.ok d, n) → d.kind = .ring) ∧
      (create m o).2.ringSupport = m.ringSupport ∧
      (create m o).2.journal.setups = m.journal.setups ++ [o.entries] := by
  obtain ⟨support, setups⟩ := Ring.create_keeps m o.entries
  have granted := Ring.create_isOk_iff m o.entries
  unfold create chooseBackend
  rw [h]
  cases hc : Ring.create m o.entries with
  | mk answer n =>
    rw [hc] at granted support setups
    cases answer with
    | error e =>
      refine ⟨?_, fun d n made => ?_, support, setups⟩
      · simpa [Except.map] using granted
      · cases made
    | ok ring =>
      refine ⟨?_, fun d n made => ?_, support, (n.setups_log ..).trans setups⟩
      · simpa [Except.map] using granted
      · cases made
        rfl

theorem autoBackend_spec (m : Machine) (entries : Nat) :
    ((∃ r, (autoBackend m entries).1 = .ring r) ↔
        (Ring.supported m).1 = true ∧ (Ring.supported m).2.Grants entries) ∧
      (autoBackend m entries).2.ringSupport = (Ring.supported m).2.ringSupport ∧
      (autoBackend m entries).2.journal.setups =
        (Ring.supported m).2.journal.setups ++ (if (Ring.supported m).1 then [entries] else []) ∧
      ((Ring.supported m).1 = false → (autoBackend m entries).2 = (Ring.supported m).2) := by
  unfold autoBackend
  cases hs : Ring.supported m with
  | mk support n =>
    cases support with
    | false => exact ⟨by simp, rfl, (List.append_nil _).symm, fun _ => rfl⟩
    | true =>
      obtain ⟨kept, setups⟩ := Ring.create_keeps n entries
      have granted := Ring.create_isOk_iff n entries
      dsimp only
      cases hc : Ring.create n entries with
      | mk answer n' =>
        rw [hc] at granted kept setups
        cases answer with
        | error e =>
          refine ⟨?_, kept, (n'.setups_log ..).trans setups, nofun⟩
          simpa using granted
        | ok ring =>
          refine ⟨?_, kept, setups, nofun⟩
          simpa using granted

theorem kind_eq_ring_iff {d : Driver} : d.kind = .ring ↔ ∃ r, d.backend = .ring r := by
  obtain ⟨backend, mode⟩ := d
  cases backend <;> simp [kind]

theorem create_of_auto (h : o.driver = .auto) :
    ∃ d n, create m o = (.ok d, n) ∧
      (d.kind = .ring ↔ (Ring.supported m).1 = true ∧ (Ring.supported m).2.Grants o.entries) ∧
      n.ringSupport = (Ring.supported m).2.ringSupport ∧
      n.journal.setups =
        (Ring.supported m).2.journal.setups ++ (if (Ring.supported m).1 then [o.entries] else []) ∧
      ((Ring.supported m).1 = false → n.journal.calls = (Ring.supported m).2.journal.calls) := by
  obtain ⟨ring, support, setups, alone⟩ := autoBackend_spec m o.entries
  unfold create chooseBackend
  rw [h]
  refine ⟨_, _, rfl, kind_eq_ring_iff.trans ring, support, (Machine.setups_log ..).trans setups, ?_⟩
  intro unsupported
  rw [Machine.calls_log]
  exact congrArg (fun n => n.journal.calls) (alone unsupported)

/-! ## Every request -/

/-- What comes of a request for a driver on `m`. Whether rings are to be had is on record already,
or it is not, and `recorded` is what goes on record once that is found out. -/
structure Answered (m : Machine) (o : Options) (known recorded : Bool) : Prop where
  kind : ∀ d n, create m o = (.ok d, n) → d.kind = .blocking ∨ d.kind = .ring
  unfailing : o.driver ≠ .ring → ∃ d n, create m o = (.ok d, n)
  blocking : o.driver = .blocking → ∀ d n, create m o = (.ok d, n) →
    d.kind = .blocking ∧ n.journal.calls = m.journal.calls
  /-- The record does not matter. -/
  ring : o.driver = .ring →
    ((∃ d n, create m o = (.ok d, n)) ↔ m.Grants o.entries) ∧
      (∀ d n, create m o = (.ok d, n) → d.kind = .ring) ∧
      (create m o).2.journal.setups = m.journal.setups ++ [o.entries]
  /-- The first one to ask for whatever works finds out with a ring of two entries. -/
  first : o.driver = .auto → known = false → ∀ d n, create m o = (.ok d, n) →
    (recorded = true ↔ m.Grants 2) ∧
      (d.kind = .ring ↔ recorded = true ∧ (Ring.supported m).2.Grants o.entries) ∧
      n.journal.setups = m.journal.setups ++ 2 :: (if recorded then [o.entries] else [])
  /-- All others go by the record. -/
  later : o.driver = .auto → known = true → ∀ d n, create m o = (.ok d, n) →
    (d.kind = .ring ↔ recorded = true ∧ m.Grants o.entries) ∧
      n.journal.setups = m.journal.setups ++ (if recorded then [o.entries] else []) ∧
      (recorded = false → n.journal.calls = m.journal.calls)

/-- What is on record about rings after a request. -/
theorem ringSupport_create (m : Machine) (o : Options) :
    (create m o).2.ringSupport =
      if o.driver = .auto then some (Ring.supported m).1 else m.ringSupport := by
  cases h : o.driver with
  | blocking =>
    obtain ⟨n, made, -, support⟩ := create_of_blocking (m := m) h
    rw [made]
    exact support
  | ring => exact (create_of_ring h).2.2.1
  | auto =>
    obtain ⟨d, n, made, -, support, -⟩ := create_of_auto (m := m) h
    rw [made]
    refine support.trans ?_
    cases known : m.ringSupport with
    | some b =>
      rw [Ring.supported_of_known known]
      exact known
    | none => exact (Ring.supported_of_unknown known).2.1

theorem answered (m : Machine) (o : Options) {recorded : Bool}
    (record : o.driver = .auto → (Ring.supported m).1 = recorded) :
    Answered m o m.ringSupport.isSome recorded where
  kind d n _ := by
    have := d.kind_ne_auto
    cases h : d.kind <;> simp_all
  unfailing other := by
    cases h : o.driver with
    | blocking =>
      obtain ⟨n, made, -⟩ := create_of_blocking (m := m) h
      exact ⟨_, n, made⟩
    | ring => exact absurd h other
    | auto =>
      obtain ⟨d, n, made, -⟩ := create_of_auto (m := m) h
      exact ⟨d, n, made⟩
  blocking h d n made := by
    obtain ⟨n', made', calls, -⟩ := create_of_blocking (m := m) h
    rw [made'] at made
    cases made
    exact ⟨rfl, calls⟩
  ring h := by
    obtain ⟨granted, kind, -, setups⟩ := create_of_ring (m := m) h
    exact ⟨granted, kind, setups⟩
  first h known d n made := by
    obtain ⟨d', n', made', ring, -, setups, -⟩ := create_of_auto (m := m) h
    rw [made'] at made
    cases made
    have unknown : m.ringSupport = none := Option.not_isSome_iff_eq_none.1 (ne_true_of_eq_false known)
    obtain ⟨granted, -, small⟩ := Ring.supported_of_unknown unknown
    rw [record h] at granted ring setups
    rw [small, List.append_assoc] at setups
    exact ⟨granted, ring, setups⟩
  later h known d n made := by
    obtain ⟨d', n', made', ring, -, setups, calls⟩ := create_of_auto (m := m) h
    rw [made'] at made
    cases made
    obtain ⟨b, known⟩ := Option.isSome_iff_exists.1 known
    rw [record h] at ring setups calls
    rw [Ring.supported_of_known known] at ring setups calls
    exact ⟨ring, setups, calls⟩

end Driver

end WholeFile
