import Mathlib
import WholeFile.Proofs.Driver.Paired
import WholeFile.Proofs.Machine.Files
import WholeFile.Proofs.Ring.Poison

/-!
# Poisoned drivers

A driver whose ring is poisoned moves no more bytes. Whatever is still queued stays there, whoever
gets the descriptor that it names. Files are opened all the same, and a write has emptied its file,
or made one, by the time it is refused.
-/

namespace WholeFile

/-! ## What becomes of a ring -/

namespace Host

/-- `h'` is what `h` has become by calls. A poisoned ring is as it was. -/
structure Seals (h h' : Host) : Prop where
  before : h.machine.Before h'.machine
  poisons : Journal.Poisons h.backend.poisoned (h.machine.since h'.machine) h'.backend.poisoned
  kept : h.backend.poisoned = true → h'.backend = h.backend

theorem Seals.trans {h h' h'' : Host} (s : h.Seals h') (s' : h'.Seals h'') : h.Seals h'' where
  before := s.before.trans s'.before
  poisons := by
    rw [Machine.since_trans s.before s'.before]
    exact s.poisons.trans s'.poisons
  kept sealed := by
    have same := s.kept sealed
    rw [s'.kept (same ▸ sealed), same]

theorem Seals.of_aside {h : Host} {m : Machine} (aside : h.machine.Aside m) :
    h.Seals { h with machine := m } :=
  ⟨aside.before, aside.poisons _, fun _ => rfl⟩

theorem seals_attempt (r : Ring) (m : Machine) (fd : Descriptor) (offset : Nat) (t : Transfer)
    (loan : Loan) : Seals ⟨m, .ring r⟩ (r.attempt m fd offset t loan).host where
  before := r.before_transfer m fd offset t loan
  poisons := r.transfer_tells m fd offset t loan
  kept sealed := by
    unfold Ring.attempt
    rw [Ring.transfer_of_poisoned sealed]

theorem seals_enduring : Enduring Seals where
  refl h := .of_aside (.refl h.machine)
  trans := .trans
  tryRead h fd offset target loan := by
    obtain ⟨m, backend⟩ := h
    cases backend with
    | blocking => exact .of_aside (m.aside_read ..)
    | ring r => exact seals_attempt r m fd offset _ loan
  tryWrite h fd offset bytes := by
    obtain ⟨m, backend⟩ := h
    cases backend with
    | blocking => exact .of_aside (m.aside_write ..)
    | ring r => exact seals_attempt r m fd offset _ _
  aside := .of_aside

/-! ## Transfers are refused -/

variable {h : Host} {fd : Descriptor} {offset : Nat} {target : Target} {loan : Loan} {bytes : Bytes}

theorem tryRead_of_poisoned (sealed : h.backend.poisoned = true) (fd : Descriptor) (offset : Nat)
    (target : Target) (loan : Loan) :
    h.tryRead fd offset target loan = ⟨.error .ringPoisoned, loan, h⟩ := by
  obtain ⟨m, backend⟩ := h
  cases backend with
  | blocking => cases sealed
  | ring r => simp only [tryRead, r.transfer_of_poisoned sealed]

theorem tryWrite_of_poisoned (sealed : h.backend.poisoned = true) (fd : Descriptor) (offset : Nat)
    (bytes : Bytes) :
    h.tryWrite fd offset bytes = ⟨.error .ringPoisoned, .nothing h.issued, h⟩ := by
  obtain ⟨m, backend⟩ := h
  cases backend with
  | blocking => cases sealed
  | ring r =>
    simp only [tryWrite, r.transfer_of_poisoned sealed]
    rfl

theorem readAt_of_poisoned (sealed : h.backend.poisoned = true) (fd : Descriptor) (offset : Nat)
    (target : Target) (loan : Loan) :
    h.readAt fd offset target loan = ⟨.error .ringPoisoned, loan, h⟩ := by
  have tried := tryRead_of_poisoned sealed fd offset target loan
  rw [readAt_of_not_interrupted (by rw [tried]; rfl), tried]

theorem writeAt_of_poisoned (sealed : h.backend.poisoned = true) (fd : Descriptor) (offset : Nat)
    (bytes : Bytes) :
    h.writeAt fd offset bytes = ⟨.error .ringPoisoned, .nothing h.issued, h⟩ := by
  have tried := tryWrite_of_poisoned sealed fd offset bytes
  rw [writeAt_of_not_interrupted (by rw [tried]; rfl), tried]

/-- An interrupted transfer whose ring has been poisoned meanwhile is not made again. -/
theorem readAt_of_poisoning (hi : (h.tryRead fd offset target loan).interrupted = true)
    (sealed : (h.tryRead fd offset target loan).host.backend.poisoned = true) :
    h.readAt fd offset target loan =
      { h.tryRead fd offset target loan with result := .error .ringPoisoned } := by
  rw [readAt_of_interrupted hi, readAt_of_poisoned sealed]

theorem writeAt_of_poisoning (hi : (h.tryWrite fd offset bytes).interrupted = true)
    (sealed : (h.tryWrite fd offset bytes).host.backend.poisoned = true) :
    (h.writeAt fd offset bytes).result = .error .ringPoisoned ∧
      (h.writeAt fd offset bytes).host = (h.tryWrite fd offset bytes).host := by
  rw [writeAt_of_interrupted hi, writeAt_of_poisoned sealed]
  exact ⟨rfl, rfl⟩

theorem readAll_of_poisoned (sealed : h.backend.poisoned = true) (fd : Descriptor) {f : Fill}
    (within : f.filled ≤ f.buffer.size) :
    h.readAll fd f = (.error (.error (.io .ringPoisoned)), h) := by
  have step : h.readStep fd f = (.failed (.error (.io .ringPoisoned)), h) := by
    rcases Nat.lt_or_eq_of_le within with room | full
    · rw [readStep_room fd room, readAt_of_poisoned sealed]
      rfl
    · rw [readStep_full fd full, readAt_of_poisoned sealed]
      rfl
  rw [readAll_eq, step]

theorem readOpen_of_poisoned (sealed : h.backend.poisoned = true) (fd : Descriptor) (p : Path) :
    ∃ cause, (h.readOpen fd p).1 = .error (.error cause) := by
  apply readOpen_cases (P := fun run => ∃ cause, run.1 = .error (.error cause))
  · intro e _
    exact ⟨_, rfl⟩
  · intro hint e _ _
    exact ⟨_, rfl⟩
  · intro hint b _ _
    rw [readAll_of_poisoned (h := h.sized fd) sealed fd (Nat.zero_le _)]
    exact ⟨_, rfl⟩

theorem writeAll_nil (h : Host) (fd : Descriptor) : h.writeAll fd [] 0 = (.ok 0, h) := by
  rw [writeAll]
  exact if_neg (Nat.lt_irrefl 0)

theorem writeAll_of_poisoned (sealed : h.backend.poisoned = true) (fd : Descriptor)
    (some : bytes ≠ []) : h.writeAll fd bytes 0 = (.error (.io .ringPoisoned), h) := by
  have refused := writeAt_of_poisoned sealed fd 0 (bytes.drop 0)
  rw [writeAll_of_error (List.length_pos_iff.2 some) (congrArg Attempt.result refused), refused]

end Host

namespace Driver

variable {d : Driver}

theorem readFile_of_poisoned (sealed : d.backend.poisoned = true) (m : Machine) (p : Path) :
    ∃ cause, (d.readFile m p).result = .error (.error cause) := by
  unfold readFile
  split
  · exact ⟨_, rfl⟩
  · next fd n _ => exact Host.readOpen_of_poisoned (h := ⟨n, d.backend⟩) sealed fd p

/-- A write through a poisoned ring fails, unless there is nothing to write. By then the file has
been opened. -/
theorem writeFile_of_poisoned (sealed : d.backend.poisoned = true) {m n : Machine} {p : Path}
    {fd : Descriptor} (ho : m.openPath p .replace d.fileMode = (.ok fd, n)) (bytes : Bytes) :
    (d.writeFile m p bytes).result =
        (if bytes = [] then (n.close fd).1.mapError fun e => .io (.os e)
          else .error (.io .ringPoisoned)) ∧
      (d.writeFile m p bytes).machine.files = n.files := by
  have run : (d.writeFile m p bytes).result = ((d.host n).writeOpen fd p bytes).1 ∧
      (d.writeFile m p bytes).machine = ((d.host n).writeOpen fd p bytes).2.machine := by
    unfold writeFile
    rw [ho]
    exact ⟨rfl, rfl⟩
  have files (run : Except Error Nat × Host) :
      (Host.settle fd p run).2.machine.files = run.2.machine.files :=
    (Machine.files_of_plain (Host.settle_plain fd p run)).trans (Machine.files_close ..)
  rw [run.1, run.2, Host.writeOpen_eq, Host.settle_result, files]
  split
  · next none =>
    subst none
    rw [Host.writeAll_nil]
    exact ⟨rfl, rfl⟩
  · next some =>
    rw [Host.writeAll_of_poisoned (h := d.host n) sealed fd some]
    exact ⟨rfl, rfl⟩

theorem writeFile_fails_of_poisoned (sealed : d.backend.poisoned = true) (m : Machine) (p : Path)
    {bytes : Bytes} (some : bytes ≠ []) : ∃ cause, (d.writeFile m p bytes).result = .error cause := by
  cases ho : m.openPath p .replace d.fileMode with
  | mk answer n =>
    cases answer with
    | error e =>
      refine ⟨.io e, ?_⟩
      unfold writeFile
      rw [ho]
    | ok fd =>
      rw [(writeFile_of_poisoned sealed ho bytes).1, if_neg some]
      exact ⟨_, rfl⟩

end Driver

/-! ## Turns -/

/-- A call on a driver, and the machine as the driver finds it. In between, the machine is in other
hands. -/
structure Turn where
  machine : Machine
  call : FileCall

namespace Driver

variable {d : Driver}

/-- All that a driver does in its turns, and the driver after them. -/
def turns (d : Driver) : List Turn → Journal × Driver
  | [] => ([], d)
  | t :: ts =>
    let (_, d', n) := d.carryOut t.machine t.call
    let (rest, last) := d'.turns ts
    (t.machine.since n ++ rest, last)

theorem poisons_turns (d : Driver) (ts : List Turn) :
    Journal.Poisons d.backend.poisoned (d.turns ts).1 (d.turns ts).2.backend.poisoned := by
  induction ts generalizing d with
  | nil => exact .unchanged rfl nofun
  | cons t ts ih => exact (enduring_carryOut Host.seals_enduring d t.machine t.call).poisons.trans (ih _)

theorem turns_of_poisoned (sealed : d.backend.poisoned = true) (ts : List Turn) :
    (d.turns ts).2 = d := by
  induction ts with
  | nil => rfl
  | cons t ts ih =>
    have backend := (enduring_carryOut Host.seals_enduring d t.machine t.call).kept sealed
    have same : (d.carryOut t.machine t.call).2.1 = d := by
      cases hd : (d.carryOut t.machine t.call).2.1 with
      | mk backend' mode =>
        have modes := fileMode_carryOut d t.machine t.call
        rw [hd] at backend modes
        cases d
        cases backend
        cases modes
        rfl
    change ((d.carryOut t.machine t.call).2.1.turns ts).2 = d
    rw [same, ih]

/-- What a driver can no longer do. -/
structure Sealed (d : Driver) : Prop where
  /-- It stays as it is, with all that is queued. -/
  kept : ∀ future, (d.turns future).2 = d
  /-- It is not waited for, and no ring carries anything out in its turns. -/
  alone : ∀ future, ∀ c ∈ (d.turns future).1.calls, c.viaRing = false
  readFile : ∀ m p, ∃ cause, (d.readFile m p).result = .error cause
  writeFile : ∀ m p bytes, bytes ≠ [] → ∃ cause, (d.writeFile m p bytes).result = .error cause

theorem sealed_of_poisoned (sealed : d.backend.poisoned = true) : d.Sealed where
  kept := turns_of_poisoned sealed
  alone future := by
    have poisons := poisons_turns d future
    rw [sealed] at poisons
    exact poisons.sealed.2
  readFile m p := by
    obtain ⟨cause, failed⟩ := readFile_of_poisoned sealed m p
    exact ⟨_, failed⟩
  writeFile m p bytes some := writeFile_fails_of_poisoned sealed m p some

end Driver

/-- What a poisoned ring answers to a transfer: nothing has happened. -/
structure Host.Refused (h : Host) : Prop where
  readAt : ∀ fd offset target loan,
    h.readAt fd offset target loan = ⟨.error .ringPoisoned, loan, h⟩
  writeAt : ∀ fd offset bytes,
    h.writeAt fd offset bytes = ⟨.error .ringPoisoned, .nothing h.issued, h⟩

namespace Driver

variable {d : Driver}

/-- Whatever the kernel does, a driver is poisoned at most once, by a wait that fails, which is
logged there and then. After that it refuses all transfers, also one that was interrupted. -/
theorem turns_poisoned_for_good (d : Driver) (past : List Turn) :
    let (told, d') := d.turns past
    told.poisonings ≤ 1 ∧
      (d.backend.poisoned = false → d'.backend.poisoned = true →
        ∃ earlier queued e later, e ≠ .interrupted ∧
          told = earlier ++ .call (.enter queued (.error e)) :: .log (poisonLine e) :: later) ∧
      (d.backend.poisoned = true → d' = d) ∧ (d'.backend.poisoned = true → d'.Sealed) ∧
      ∀ h : Host, (h.backend.poisoned = true → h.Refused) ∧
        ∀ fd offset,
          (∀ target loan,
            let a := h.tryRead fd offset target loan
            a.interrupted = true → a.host.backend.poisoned = true →
              h.readAt fd offset target loan = { a with result := .error .ringPoisoned }) ∧
          ∀ bytes,
            let a := h.tryWrite fd offset bytes
            a.interrupted = true → a.host.backend.poisoned = true →
              (h.writeAt fd offset bytes).result = .error .ringPoisoned ∧
                (h.writeAt fd offset bytes).host = a.host := by
  have poisons := poisons_turns d past
  refine ⟨?_, ?_, ?_, ?_, ?_⟩
  · have count := poisons.count
    have le : (d.turns past).2.backend.poisoned.toNat ≤ 1 := Bool.toNat_le _
    omega
  · intro sound sealed
    rw [sound, sealed] at poisons
    generalize (d.turns past).1 = told at poisons ⊢
    cases poisons with
    | poisoned queued e ne before after => exact ⟨_, queued, e, _, ne, rfl⟩
  · intro sealed
    exact turns_of_poisoned sealed past
  · exact sealed_of_poisoned
  · intro h
    refine ⟨fun sealed => ⟨Host.readAt_of_poisoned sealed, Host.writeAt_of_poisoned sealed⟩, ?_⟩
    intro fd offset
    exact ⟨fun target loan => Host.readAt_of_poisoning, fun bytes => Host.writeAt_of_poisoning⟩

/-- A wait fails before the kernel has taken the entry. It stays queued under a descriptor that is
free by then. -/
theorem turns_poisoned_for_good_queued :
    let d : Driver := ⟨.ring { capacity := 8 }, 0o666⟩
    let m : Machine :=
      { files := ⟨[([0x61], { content := [1, 2, 3] })]⟩
        schedule.enter := [{ errno := some ⟨5⟩, take := false, post := false }] }
    let (told, d') := d.turns [⟨m, .write [0x61] [4]⟩]
    told.poisonings = 1 ∧
      d'.backend = .ring
        { capacity := 8, issued := 1, queued := [⟨0, 0, 0, .write [4]⟩], poisoned := true } ∧
      (d.writeFile m [0x61] [4]).machine.path? 0 = none ∧ d'.Sealed := by
  intro d m
  have told : (d.turns [⟨m, .write [0x61] [4]⟩]).1.poisonings = 1 := by cbv
  have left : (d.turns [⟨m, .write [0x61] [4]⟩]).2.backend = .ring
      { capacity := 8, issued := 1, queued := [⟨0, 0, 0, .write [4]⟩], poisoned := true } := by
    cbv
  have free : (d.writeFile m [0x61] [4]).machine.path? 0 = none := by cbv
  obtain ⟨-, -, -, sealed, -⟩ := turns_poisoned_for_good d [⟨m, .write [0x61] [4]⟩]
  exact ⟨told, left, free, sealed (congrArg Backend.poisoned left)⟩

/-! ## What a refused write has done -/

/-- A write through a poisoned ring fails and changes no file only if the file cannot be opened, or
is empty already. Even then there must be something to write, or the file must fail to close. -/
theorem writeFile_harmless_iff (sealed : d.backend.poisoned = true) (m : Machine) (p : Path)
    (bytes : Bytes) :
    ((∃ cause, (d.writeFile m p bytes).result = .error cause) ∧
        (d.writeFile m p bytes).machine.files = m.files) ↔
      (∃ e, (m.openPath p .replace d.fileMode).1 = .error e) ∨
        ((∃ node, m.files.find? p = some node ∧ node.content = [] ∧ node.reported = none) ∧
          (bytes ≠ [] ∨ ∃ e, m.schedule.close.head? = some (some e))) := by
  have opens := m.openPath_opens p .replace d.fileMode
  cases ho : m.openPath p .replace d.fileMode with
  | mk answer n =>
    rw [ho] at opens
    cases answer with
    | error e =>
      have run : d.writeFile m p bytes = ⟨.error (.io e), d, n⟩ := by
        unfold writeFile
        rw [ho]
      rw [run]
      exact iff_of_true ⟨⟨_, rfl⟩, opens.files_of_error⟩ (.inl ⟨e, rfl⟩)
    | ok fd =>
      obtain ⟨result, files⟩ := writeFile_of_poisoned sealed ho bytes
      have closes : n.schedule.close = m.schedule.close := by
        rw [← m.closeQueue_openPath p .replace d.fileMode, ho]
      cases opens with
      | opened _ _ _ _ made _ =>
        rw [result, files, Machine.filesOpened_eq_self_iff made, ← closes,
          ← n.close_eq_error_iff fd, and_comm]
        split
        · next none =>
          subst none
          cases (n.close fd).1 <;> simp [Except.mapError]
        · next some => simp [some]

/-- A file that is empty already. -/
theorem writeFile_harmless_iff_empty :
    let d : Driver := ⟨.ring { capacity := 8, poisoned := true }, 0o666⟩
    let m : Machine := { files := ⟨[([0x61], {})]⟩ }
    d.backend.poisoned = true ∧ (∃ cause, (d.writeFile m [0x61] [5]).result = .error cause) ∧
      (d.writeFile m [0x61] [5]).machine.files = m.files := by
  intro d m
  have empty : m.files.find? [0x61] = some {} := rfl
  refine ⟨rfl, (writeFile_harmless_iff (d := d) rfl m [0x61] [5]).2 (.inr ⟨?_, .inl ?_⟩)⟩
  · exact ⟨{}, empty, rfl, rfl⟩
  · exact List.cons_ne_nil 5 []

/-- A poisoned driver refuses to write to a file, which has lost its content by then. It writes
nothing to a file that was not there, which is made, and no failure is reported. -/
theorem writeFile_harms :
    let d : Driver := ⟨.ring { capacity := 8 }, 0o666⟩
    let m : Machine :=
      { files := ⟨[([0x61], { content := [1, 2, 3] })]⟩
        schedule.enter := [{ errno := some ⟨5⟩, take := false, post := false }] }
    let before := d.writeFile m [0x62] [4]
    let refused := before.driver.writeFile before.machine [0x61] [5]
    let empty := before.driver.writeFile before.machine [0x63] []
    before.driver.backend.poisoned = true ∧
      before.machine.files.content [0x61] = [1, 2, 3] ∧
      refused.result = .error (.io .ringPoisoned) ∧ refused.machine.files.content [0x61] = [] ∧
      before.machine.files.find? [0x63] = none ∧
      empty.result = .ok () ∧ empty.machine.files.find? [0x63] = some {} := by
  refine ⟨?_, ?_, ?_, ?_, ?_, ?_, ?_⟩
  all_goals cbv

end Driver

end WholeFile
