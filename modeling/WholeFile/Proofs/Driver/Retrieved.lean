import WholeFile.Proofs.Driver.Reading
import WholeFile.Proofs.Driver.Revised

/-!
# What reading a file comes to

The kernel may answer each read with whatever it likes, and the file may grow and shrink meanwhile.
The requests still tell the result: it is all that was delivered if the last one delivered nothing,
the error of the one that failed, or that of the storage that was not granted.
-/

namespace WholeFile

/-! ## Results as told by requests -/

/-- The result of reading a file that reported the size `hint` is what the requests `rs` make it. -/
structure Told (hint : Nat) (rs : List ReadRequest) (result : Except Failure Buffer) : Prop where
  inOrder : InOrder 0 rs
  ok : ∀ bytes, (∃ b, result = .ok b ∧ b.bytes = bytes) ↔
    (∃ r ∈ rs, r.outcome = .answered (.ok [])) ∧ bytes = gathered rs
  failed : ∀ e, result = .error (.error (.io e)) ↔ ∃ r ∈ rs, r.failure? = some e
  refused : ∀ e, result = .error (.error (.alloc e)) ↔
    ∃ total ∈ hint :: sizesAsked hint 0 rs, refusal? total = some e
  /-- There is no other way to end. -/
  ends : (∃ b, result = .ok b) ∨ (∃ e, result = .error (.error (.io e))) ∨
    ∃ e, result = .error (.error (.alloc e))

namespace Reads

variable {k : DriverKind} {causes : IoError → Prop} {hint size offset : Nat} {rs : List ReadRequest}
  {ending : ReadEnd}

theorem failed_cases (reads : Reads k causes size offset rs ending) {e : Error}
    (h : ending = .failed e) : (∃ c, e = .io c) ∨ ∃ c, e = .alloc c := by
  induction reads with
  | complete => cases h
  | interrupted rest ih | delivered nonempty le granted rest ih => exact ih h
  | refused =>
    cases h
    exact .inr ⟨_, rfl⟩
  | failed | unserved =>
    cases h
    exact .inl ⟨_, rfl⟩

theorem told_complete (granted : refusal? hint = none) (reads : Reads k causes hint 0 rs .complete)
    {b : Buffer} (whole : b.bytes = gathered rs) : Told hint rs (.ok b) where
  inOrder := reads.inOrder (Nat.zero_le _)
  ok bytes := by
    have zero := reads.complete_iff.1 rfl
    constructor
    · rintro ⟨c, same, rfl⟩
      cases same
      exact ⟨zero, whole⟩
    · rintro ⟨-, rfl⟩
      exact ⟨b, rfl, whole⟩
  failed e := by
    rw [← reads.failed_iff]
    simp
  refused e := by
    have none := reads.refused_iff (e := e)
    simp only [List.mem_cons, exists_eq_or_imp, granted, ← none]
    simp
  ends := .inl ⟨b, rfl⟩

theorem told_failed (granted : refusal? hint = none) {e : Error}
    (reads : Reads k causes hint 0 rs (.failed e)) : Told hint rs (.error (.error e)) where
  inOrder := reads.inOrder (Nat.zero_le _)
  ok bytes := by
    rw [← reads.complete_iff]
    simp
  failed c := by
    rw [← reads.failed_iff]
    simp
  refused c := by
    have asked := reads.refused_iff (e := c)
    simp only [List.mem_cons, exists_eq_or_imp, granted, ← asked]
    simp
  ends := by
    rcases reads.failed_cases rfl with ⟨c, rfl⟩ | ⟨c, rfl⟩
    · exact .inr (.inl ⟨c, rfl⟩)
    · exact .inr (.inr ⟨c, rfl⟩)

end Reads

theorem told_refused {hint : Nat} {e : AllocError} (refusal : refusal? hint = some e) :
    Told hint [] (.error (.error (.alloc e))) where
  inOrder := .nil
  ok := by simp
  failed := by simp
  refused c := by simp [sizesAsked, refusal, eq_comm]
  ends := .inr (.inr ⟨e, rfl⟩)

/-! ## Open files -/

namespace Host

/-- The size of an open file is not to be had, or the requests tell how its reading ends. -/
theorem ReadsOpen.told {h h' : Host} {fd : Descriptor} {result : Except Failure Buffer}
    (reads : h.ReadsOpen fd h' result) :
    (∃ e, (h.machine.since h'.machine).deeds = [.size fd (.error e)] ∧
      result = .error (.error (.io (.os e)))) ∨
    ∃ hint rs, (h.machine.since h'.machine).deeds = .size fd (.ok hint) :: readCalls fd rs ∧
      Told hint rs result ∧ ∀ r ∈ rs, ∀ e, r.outcome = .unserved e → Lost h h' e := by
  cases reads with
  | @unsized e deeds => exact .inl ⟨e, deeds, rfl⟩
  | @refused hint e refusal deeds =>
    exact .inr ⟨hint, [], deeds, told_refused refusal, by simp⟩
  | @failed hint rs e granted reads deeds =>
    exact .inr ⟨hint, rs, deeds, reads.told_failed granted,
      fun r mem e => reads.cause_of_unserved mem⟩
  | @complete hint rs b granted reads whole deeds =>
    exact .inr ⟨hint, rs, deeds, reads.told_complete granted whole,
      fun r mem e => reads.cause_of_unserved mem⟩

end Host

/-! ## Whole files -/

namespace Driver

/-- What a whole-file read has done once the file is open as `fd` and has reported the size `hint`:
the requests `rs`, and the closing with its answer. -/
structure Retrieved (d : Driver) (m : Machine) (p : Path) (run : Run Failure Buffer)
    (fd : Descriptor) (hint : Nat) (rs : List ReadRequest) (closed : Except Errno Unit) :
    Prop where
  deeds : ∃ tries, (m.since run.machine).deeds =
    List.replicate tries (Machine.interruptedOpen p .read 0) ++
      .openFile p .read 0 (.ok fd) :: .size fd (.ok hint) :: (readCalls fd rs ++ [.close fd closed])
  told : Told hint rs run.result
  /-- A request that no call was made for: the ring is poisoned. -/
  unserved : ∀ r ∈ rs, ∀ e, r.outcome = .unserved e → (d.host m).Lost run.host e

/-- How a whole-file read ends, and what it has done by then. -/
inductive Retrieves (d : Driver) (m : Machine) (p : Path) (run : Run Failure Buffer) : Prop
  | unopened {e : IoError} (opens : Machine.Opens m p .read 0 (.error e) run.machine)
      (result : run.result = .error (.error (.io e)))
  | unsized {fd : Descriptor} {e : Errno} {closed : Except Errno Unit}
      (deeds : ∃ tries, (m.since run.machine).deeds =
        List.replicate tries (Machine.interruptedOpen p .read 0) ++
          [.openFile p .read 0 (.ok fd), .size fd (.error e), .close fd closed])
      (result : run.result = .error (.error (.io (.os e))))
  | sized {fd : Descriptor} {hint : Nat} {rs : List ReadRequest} {closed : Except Errno Unit}
      (retrieved : d.Retrieved m p run fd hint rs closed)

theorem Retrieves.sound {d : Driver} {m : Machine} {p : Path} {run : Run Failure Buffer}
    (retrieves : d.Retrieves m p run) (cause : Abort) : run.result ≠ .error (.abort cause) := by
  intro aborted
  cases retrieves with
  | unopened opens result | unsized deeds result =>
    rw [result] at aborted
    cases aborted
  | sized retrieved =>
    rcases retrieved.told.ends with ⟨b, result⟩ | ⟨e, result⟩ | ⟨e, result⟩
    all_goals
      rw [result] at aborted
      cases aborted

theorem retrieves {d : Driver} {m : Machine} (ready : (d.host m).Ready) (p : Path) :
    d.Retrieves m p (d.readFile m p) := by
  rcases readFile_reads ready p with
    ⟨e, opens, result⟩ | ⟨fd, h, h', tries, closed, first, onward, last, reads, deeds⟩
  · exact .unopened opens result
  · rcases reads.told with ⟨e, did, failed⟩ | ⟨hint, rs, did, told, unserved⟩
    · rw [did] at deeds
      exact .unsized ⟨tries, deeds⟩ failed
    · rw [did] at deeds
      refine .sized ⟨⟨tries, deeds⟩, told, fun r mem e lost => ?_⟩
      exact (unserved r mem e lost).within first onward last

/-- Whatever the kernel answers, a whole-file read either does not get the file open, or does not
get its size, or ends as its requests tell. It never aborts, and what closing is answered with has
no part in it. -/
theorem readFile_retrieves {d : Driver} (reached : d.Reached) {m : Machine}
    (honest : d.kind = .ring → m.schedule.Honest) (p : Path) :
    d.Retrieves m p (d.readFile m p) ∧
      (∀ cause, (d.readFile m p).result ≠ .error (.abort cause)) ∧
      ∀ answers, (d.readFile { m with schedule.close := answers } p).result =
        (d.readFile m p).result := by
  have done : d.Retrieves m p (d.readFile m p) :=
    retrieves (ready_iff.2 ⟨reached.settled, honest⟩) p
  refine ⟨done, done.sound, fun answers => ?_⟩
  exact result_readFile_revised d m [] p fun _ => answers

/-- Over a ring: the file reports less than it has, an interrupted read comes short and late, the
buffer is grown for what a probe finds, and the closing fails. -/
theorem readFile_retrieves_late_and_short :
    let d : Driver := ⟨.ring { capacity := Nat.nextPowerOfTwo 8 }, 0o666⟩
    let m : Machine :=
      { files := ⟨[([0x61], { content := [1, 2, 3], reported := some 1 })]⟩
        schedule.read := [{ errno := some .interrupted }, {}, { short := some 1 }]
        schedule.enter := [{ take := false }, { errno := some .interrupted, post := false }]
        schedule.close := [some ⟨5⟩] }
    d.Reached ∧ m.schedule.Honest ∧
      d.Retrieves m [0x61] (d.readFile m [0x61]) ∧
      (∀ cause, (d.readFile m [0x61]).result ≠ .error (.abort cause)) ∧
      ∀ answers, (d.readFile { m with schedule.close := answers } [0x61]).result =
        (d.readFile m [0x61]).result := by
  intro d m
  have made : create {} { driver := .ring } = (.ok d, (create {} { driver := .ring }).2) := rfl
  have reached : d.Reached := .created made
  have honest : m.schedule.Honest := by
    refine ⟨?_, ?_, ?_⟩
    · simp [m, Schedule.Strayless]
    · simp [m, Errno.interrupted]
    · simp [m]
  exact ⟨reached, honest, readFile_retrieves reached (fun _ => honest) [0x61]⟩

end Driver

end WholeFile
