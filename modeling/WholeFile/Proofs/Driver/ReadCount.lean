import Mathlib
import WholeFile.Proofs.Driver.Poisoned
import WholeFile.Proofs.Driver.Reading

/-!
# How many reads a file takes

A file may report any size. If each read comes in full, the reads are few all the same: what is
found past the end of a full buffer at least doubles it, and one more read fills it again. So there
are two reads for each doubling that takes the buffer to the length of the file, and two besides.
-/

namespace WholeFile

/-! ## Reads in a journal -/

/-- What the call failed with. -/
def Call.errno? : Call → Option Errno
  | openFile _ _ _ (.error e) | size _ (.error e) | read _ _ _ (.error e) | write _ _ _ (.error e)
  | close _ (.error e) | setup _ (.error e) | probe (.error e) | ringRead _ _ _ _ (.error e)
  | ringWrite _ _ _ _ (.error e) | enter _ (.error e) => some e
  | _ => none

def Call.isRead : Call → Bool
  | read _ _ _ _ => true
  | _ => false

/-- A read that delivers something delivers all that it was asked for, or what is left of `extent`
bytes. -/
def Call.Full (extent : Nat) : Call → Prop
  | .read _ length offset (.ok bytes) => bytes.length = min length (extent - offset)
  | _ => True

theorem Call.errno?_of_deed? {c d : Call} (h : c.deed? = some d) : d.errno? = c.errno? := by
  cases c with
  | enter => cases h
  | ringRead ticket fd length offset answer | ringWrite ticket fd bytes offset answer =>
    cases h
    cases answer <;> rfl
  | _ => cases h; rfl

namespace Journal

/-- How many reads were made, whoever carried them out. -/
def readCount (j : Journal) : Nat := j.deeds.countP Call.isRead

/-- No call fails, and the reads are those of a file of `extent` bytes, in full. -/
structure Unhindered (extent : Nat) (j : Journal) : Prop where
  unfailing : ∀ c ∈ j.calls, c.errno? = none
  full : ∀ c ∈ j.deeds, c.Full extent

variable {j : Journal} {extent : Nat}

theorem Unhindered.deed (unhindered : j.Unhindered extent) {d : Call} (mem : d ∈ j.deeds) :
    d.errno? = none := by
  obtain ⟨c, there, same⟩ := List.mem_filterMap.1 mem
  rw [Call.errno?_of_deed? same]
  exact unhindered.unfailing c there

/-- Without a wait that fails, no ring gets poisoned. -/
theorem Poisons.of_unfailing {poisoned : Bool} (h : Poisons false j poisoned)
    (unfailing : ∀ c ∈ j.calls, c.errno? = none) : poisoned = false := by
  cases h with
  | unchanged => rfl
  | @poisoned earlier later queued e =>
    have waited : Call.enter queued (.error e) ∈
        calls (earlier ++ .call (.enter queued (.error e)) :: .log (poisonLine e) :: later) := by
      rw [calls_append]
      exact List.mem_append_right _ List.mem_cons_self
    cases unfailing _ waited

end Journal

/-! ## Rounds of doubling -/

/-- How many reads there may still be, `offset` bytes being there, if `rounds` doublings take the
buffer to the length of the file. -/
def readsLeft (extent rounds size offset : Nat) : Nat :=
  if offset = extent then 1
  else if 0 < size ∧ offset = size then 2 * rounds + 1
  else 2 * rounds + 2

theorem readsLeft_pos (extent rounds size offset : Nat) :
    0 < readsLeft extent rounds size offset := by
  unfold readsLeft
  split
  · decide
  · split <;> omega

theorem readsLeft_le (extent rounds size offset : Nat) :
    readsLeft extent rounds size offset ≤ 2 * rounds + 2 := by
  unfold readsLeft
  split
  · omega
  · split <;> omega

/-- The rest of the buffer is filled up, or the file ends in it. -/
theorem readsLeft_room {extent size offset : Nat} (room : offset < size) (more : offset < extent)
    (rounds : Nat) :
    readsLeft extent rounds size (offset + min (size - offset) (extent - offset)) + 1 ≤
      readsLeft extent rounds size offset := by
  have here : readsLeft extent rounds size offset = 2 * rounds + 2 := by
    unfold readsLeft
    rw [if_neg (by omega), if_neg (by omega)]
  rw [here]
  unfold readsLeft
  split
  · omega
  · split <;> omega

/-- A full buffer grows, which is a round. -/
theorem readsLeft_full {extent size : Nat} (some : 0 < size) (more : size < extent)
    (rounds size' offset' : Nat) :
    readsLeft extent rounds size' offset' + 1 ≤ readsLeft extent (rounds + 1) size size := by
  have here : readsLeft extent (rounds + 1) size size = 2 * (rounds + 1) + 1 := by
    unfold readsLeft
    rw [if_neg (by omega), if_pos ⟨some, rfl⟩]
  have later := readsLeft_le extent rounds size' offset'
  omega

/-- A buffer that starts with nothing is full of what is found first. -/
theorem readsLeft_empty {extent n : Nat} (some : 0 < n) (more : 0 < extent) (rounds : Nat) :
    readsLeft extent rounds n n + 1 ≤ readsLeft extent rounds 0 0 := by
  have here : readsLeft extent rounds 0 0 = 2 * rounds + 2 := by
    unfold readsLeft
    rw [if_neg (by omega), if_neg (by omega)]
  rw [here]
  unfold readsLeft
  split
  · omega
  · rw [if_pos ⟨some, rfl⟩]

theorem sizeFor_zero (n : Nat) : sizeFor 0 0 n = n := by
  unfold sizeFor
  rw [if_pos rfl]
  omega

theorem two_mul_le_sizeFor {size : Nat} (small : size ≤ maxRequest) (n : Nat) :
    2 * size ≤ sizeFor size size n := by
  unfold sizeFor
  rw [if_pos rfl]
  simp only [maxRequest, wordLimit] at *
  omega

/-- What a buffer that has grown has room for, one ring entry can carry. -/
theorem sizeFor_sub_le {size : Nat} (small : size ≤ maxRequest) (n : Nat) :
    sizeFor size size n - (size + n) ≤ maxRequest := by
  unfold sizeFor
  rw [if_pos rfl]
  simp only [maxRequest, wordLimit] at *
  omega

theorem sizeFor_lt_grantLimit {size n : Nat} (small : size + n ≤ maxRequest) :
    sizeFor size size n < grantLimit := by
  unfold sizeFor
  rw [if_pos rfl]
  simp only [maxRequest, wordLimit, grantLimit] at *
  omega

/-- A request that one ring entry can carry is not cut. -/
theorem DriverKind.asks_eq (k : DriverKind) {size offset : Nat} (near : size - offset ≤ maxRequest) :
    k.asks size offset = if offset = size then probeSize else size - offset := by
  have whole {n : Nat} (h : n ≤ maxRequest) : k.limited n = n := by
    cases k
    · rfl
    · rfl
    · exact Nat.min_eq_left h
  unfold asks
  split
  · exact whole (by decide)
  · exact whole near

/-! ## Full answers -/

/-- The request was answered with all that it asked for, or with what was left. -/
def ReadRequest.Full (extent : Nat) (r : ReadRequest) : Prop :=
  ∃ bytes, r.outcome = .answered (.ok bytes) ∧ bytes.length = min r.length (extent - r.offset)

/-- Each request of a full run is a call, and there are no other reads. -/
theorem countP_readCalls {extent : Nat} {rs : List ReadRequest} (full : ∀ r ∈ rs, r.Full extent)
    (fd : Descriptor) : (readCalls fd rs).countP Call.isRead = rs.length := by
  induction rs with
  | nil => rfl
  | cons r rs ih =>
    obtain ⟨bytes, outcome, -⟩ := full r List.mem_cons_self
    have seen : r.call? fd = some (.read fd r.length r.offset (.ok bytes)) := by
      unfold ReadRequest.call?
      rw [outcome]
    have rest := ih fun q mem => full q (List.mem_cons_of_mem _ mem)
    unfold readCalls at rest ⊢
    rw [List.filterMap_cons_some seen, List.countP_cons_of_pos rfl, rest, List.length_cons]

namespace Reads

variable {k : DriverKind} {causes : IoError → Prop} {size offset extent : Nat}
  {rs : List ReadRequest} {ending : ReadEnd}

theorem ne_nil (reads : Reads k causes size offset rs ending) : rs ≠ [] := by
  cases reads <;> exact List.cons_ne_nil _ _

/-- Full answers take the reading to the end of the file. -/
theorem complete_of_full (reads : Reads k causes size offset rs ending) (fits : offset ≤ size)
    (within : offset ≤ extent) (small : extent ≤ maxRequest) (full : ∀ r ∈ rs, r.Full extent) :
    ending = .complete ∧ (gathered rs).length = extent - offset := by
  induction reads with
  | @complete size offset =>
    obtain ⟨_, outcome, count⟩ := full _ List.mem_cons_self
    cases outcome
    have asked := k.asks_pos fits
    simp only [List.length_nil] at count
    refine ⟨rfl, ?_⟩
    change 0 = _
    omega
  | @delivered size offset bytes rs ending nonempty le granted rest ih =>
    obtain ⟨_, outcome, count⟩ := full _ List.mem_cons_self
    cases outcome
    simp only at count
    have others : ∀ r ∈ rs, r.Full extent := fun r mem => full r (List.mem_cons_of_mem _ mem)
    obtain ⟨done, length⟩ := ih (le_sizeFor fits le) (by omega) others
    refine ⟨done, ?_⟩
    change (bytes ++ gathered rs).length = _
    rw [List.length_append, length]
    omega
  | @refused size offset bytes nonempty le end_ e refusal =>
    obtain ⟨_, outcome, count⟩ := full _ List.mem_cons_self
    cases outcome
    simp only at count
    subst end_
    rw [refusal?_eq_none_iff.2 (sizeFor_lt_grantLimit (by omega))] at refusal
    cases refusal
  | interrupted | failed | unserved =>
    obtain ⟨_, outcome, -⟩ := full _ List.mem_cons_self
    cases outcome

theorem length_le (reads : Reads k causes size offset rs ending) (fits : offset ≤ size)
    (small : extent ≤ maxRequest) (near : size - offset ≤ maxRequest)
    (full : ∀ r ∈ rs, r.Full extent) {rounds : Nat} (reached : extent ≤ max size 1 * 2 ^ rounds) :
    rs.length ≤ readsLeft extent rounds size offset := by
  induction reads generalizing rounds with
  | complete | refused | failed | unserved => exact readsLeft_pos ..
  | interrupted rest ih =>
    obtain ⟨bytes, outcome, -⟩ := full _ List.mem_cons_self
    cases outcome
  | @delivered size offset bytes rs ending nonempty le granted rest ih =>
    obtain ⟨_, outcome, count⟩ := full _ List.mem_cons_self
    cases outcome
    have some := List.length_pos_iff.2 nonempty
    have fits' := le_sizeFor fits le
    have others : ∀ r ∈ rs, r.Full extent := fun r mem => full r (List.mem_cons_of_mem _ mem)
    rw [k.asks_eq near] at count
    simp only at count
    generalize bytes.length = n at *
    have more : offset < extent := by omega
    rw [List.length_cons]
    rcases Nat.lt_or_eq_of_le fits with room | rfl
    · -- The buffer stays as it is, and so does the number of rounds.
      rw [if_neg (Nat.ne_of_lt room)] at count
      have same : sizeFor size offset n = size := if_neg (Nat.ne_of_lt room)
      rw [same] at ih fits'
      have rest := ih fits' (by omega) others reached
      have once := readsLeft_room room more rounds
      rw [← count] at once
      omega
    · rcases Nat.eq_zero_or_pos offset with rfl | grown
      · rw [sizeFor_zero, Nat.zero_add] at ih
        have reached' : extent ≤ max n 1 * 2 ^ rounds :=
          Nat.le_trans reached (Nat.mul_le_mul_right _ (by omega))
        have rest := ih (Nat.le_refl n) (by omega) others reached'
        have once := readsLeft_empty some more rounds
        omega
      · cases rounds with
        | zero => omega
        | succ rounds =>
          have doubled : extent ≤ max (sizeFor offset offset n) 1 * 2 ^ rounds := by
            have larger : 2 * offset ≤ sizeFor offset offset n :=
              two_mul_le_sizeFor (by omega) n
            calc extent
                ≤ max offset 1 * 2 ^ (rounds + 1) := reached
              _ = 2 * max offset 1 * 2 ^ rounds := by ring
              _ ≤ max (sizeFor offset offset n) 1 * 2 ^ rounds :=
                Nat.mul_le_mul_right _ (by omega)
          have rest := ih fits' (sizeFor_sub_le (by omega) n) others doubled
          have once := readsLeft_full grown more rounds (sizeFor offset offset n) (offset + n)
          omega

/-- A file that is no longer than it reported takes one read, and another to find its end. -/
theorem length_eq_two (reads : Reads k causes size 0 rs ending) (some : 0 < extent)
    (reached : extent ≤ size) (small : size ≤ maxRequest) (full : ∀ r ∈ rs, r.Full extent) :
    rs.length = 2 := by
  have small' : extent ≤ maxRequest := by omega
  have upper : rs.length ≤ readsLeft extent 0 size 0 :=
    reads.length_le (Nat.zero_le _) small' (by omega) full (by omega)
  have limit := readsLeft_le extent 0 size 0
  obtain ⟨done, length⟩ := reads.complete_of_full (Nat.zero_le _) (Nat.zero_le _) small' full
  have lower : rs.length ≠ 1 := by
    intro one
    cases reads with
    | complete =>
      change 0 = _ at length
      omega
    | delivered _ _ _ rest => exact rest.ne_nil (List.length_eq_zero_iff.1 (by simpa using one))
    | interrupted rest => exact rest.ne_nil (List.length_eq_zero_iff.1 (by simpa using one))
    | refused | failed | unserved => cases done
  have := List.length_pos_iff.2 reads.ne_nil
  omega

end Reads

/-! ## Whole files -/

namespace Driver

variable {d : Driver} {m : Machine} {p : Path} {hint extent : Nat} {fd : Descriptor}
  {rs : List ReadRequest}

/-- A driver that no call fails is not poisoned. -/
theorem not_lost (sound : d.backend.poisoned = false)
    (unhindered : (m.since (d.readFile m p).machine).Unhindered extent) (e : IoError) :
    ¬ (d.host m).Lost (d.readFile m p).host e := by
  have seals := enduring_readFile Host.seals_enduring d m p
  have poisons := seals.poisons
  rw [show (d.host m).backend.poisoned = false from sound] at poisons
  have still := poisons.of_unfailing unhindered.unfailing
  intro lost
  cases lost with
  | poisoned sealed | waitFailed sealed =>
    rw [still] at sealed
    cases sealed

theorem full_of_unhindered (unhindered : (m.since (d.readFile m p).machine).Unhindered extent)
    (made : ∀ c ∈ readCalls fd rs, c ∈ (m.since (d.readFile m p).machine).deeds)
    (served : ∀ r ∈ rs, ∀ e, r.outcome ≠ .unserved e) : ∀ r ∈ rs, r.Full extent := by
  intro r mem
  cases outcome : r.outcome with
  | unserved e => exact absurd outcome (served r mem e)
  | answered answer =>
    have seen : .read fd r.length r.offset answer ∈ readCalls fd rs := by
      apply List.mem_filterMap.2
      refine ⟨r, mem, ?_⟩
      unfold ReadRequest.call?
      rw [outcome]
    have deed := made _ seen
    cases answer with
    | error e => cases unhindered.deed deed
    | ok bytes => exact ⟨bytes, outcome, unhindered.full _ deed⟩

/-- As long as nothing fails and nothing comes short, a file of `extent` bytes is read whole, and
however wrong the size that it has reported, the reads are two for each doubling of a byte that
reaches its length, and two more at most. -/
theorem readFile_logarithmic (reached : d.Reached) (sound : d.backend.poisoned = false)
    (honest : d.kind = .ring → m.schedule.Honest) (small : hint < 2 ^ 32) (short : extent < 2 ^ 32)
    (sized : .size fd (.ok hint) ∈ (m.since (d.readFile m p).machine).deeds)
    (unhindered : (m.since (d.readFile m p).machine).Unhindered extent) :
    (∃ b, (d.readFile m p).result = .ok b ∧ b.size = extent) ∧
      (m.since (d.readFile m p).machine).readCount ≤ 2 * Nat.clog 2 (max extent 1) + 2 ∧
      (0 < extent → extent ≤ hint → (m.since (d.readFile m p).machine).readCount = 2) ∧
      (extent = 0 → (m.since (d.readFile m p).machine).readCount = 1) := by
  have ready : (d.host m).Ready := ready_iff.2 ⟨reached.settled, honest⟩
  obtain ⟨tries, rs, closed, ends, deeds⟩ := readFile_sized ready sized
  have small' : hint ≤ maxRequest := Nat.le_of_lt_succ small
  have short' : extent ≤ maxRequest := Nat.le_of_lt_succ short
  have made : ∀ c ∈ readCalls fd rs, c ∈ (m.since (d.readFile m p).machine).deeds := by
    intro c mem
    rw [deeds]
    simp [mem]
  have full {ending : ReadEnd} (reads : Reads d.backend.kind
      ((d.host m).Lost (d.readFile m p).host) hint 0 rs ending) : ∀ r ∈ rs, r.Full extent :=
    full_of_unhindered unhindered made fun r mem e unserved =>
      not_lost sound unhindered e (reads.cause_of_unserved mem unserved)
  cases ends with
  | refused refusal =>
    have granted : hint < grantLimit := Nat.lt_trans small (by decide)
    rw [refusal?_eq_none_iff.2 granted] at refusal
    cases refusal
  | failed granted reads result =>
    obtain ⟨done, -⟩ := reads.complete_of_full (Nat.zero_le _) (Nat.zero_le _) short' (full reads)
    cases done
  | @complete _ b granted reads whole result =>
    obtain ⟨-, length⟩ := reads.complete_of_full (Nat.zero_le _) (Nat.zero_le _) short' (full reads)
    have counted : (m.since (d.readFile m p).machine).readCount = rs.length := by
      unfold Journal.readCount
      rw [deeds]
      simp [Call.isRead, Machine.interruptedOpen, countP_readCalls (full reads)]
    rw [counted]
    have doubled : extent ≤ max hint 1 * 2 ^ Nat.clog 2 (max extent 1) :=
      calc extent
          ≤ 2 ^ Nat.clog 2 (max extent 1) :=
            Nat.le_trans (Nat.le_max_left ..) (Nat.le_pow_clog (by decide) _)
        _ ≤ max hint 1 * 2 ^ Nat.clog 2 (max extent 1) :=
            Nat.le_mul_of_pos_left _ (by omega)
    have upper := reads.length_le (Nat.zero_le _) short' small' (full reads) doubled
    refine ⟨⟨b, result, ?_⟩, ?_, ?_, ?_⟩
    · rw [← Buffer.length_bytes, whole, length, Nat.sub_zero]
    · exact Nat.le_trans upper (readsLeft_le ..)
    · intro some enough
      exact reads.length_eq_two some enough small' (full reads)
    · intro empty
      have one : readsLeft extent (Nat.clog 2 (max extent 1)) hint 0 = 1 := if_pos empty.symm
      have := List.length_pos_iff.2 reads.ne_nil
      omega

/-- Over a ring, with a completion that is late: a file like those of a process reports no bytes and
has forty. -/
theorem readFile_logarithmic_unreported :
    let d : Driver := ⟨.ring { capacity := Nat.nextPowerOfTwo 8 }, 0o666⟩
    let m : Machine :=
      { files := ⟨[([0x61], { content := List.replicate 40 7, reported := some 0 })]⟩
        schedule.enter := [{}, { take := false }, { post := false }] }
    d.Reached ∧ d.backend.poisoned = false ∧ m.schedule.Honest ∧
      .size 0 (.ok 0) ∈ (m.since (d.readFile m [0x61]).machine).deeds ∧
      (m.since (d.readFile m [0x61]).machine).Unhindered 40 ∧
      (∃ b, (d.readFile m [0x61]).result = .ok b ∧ b.size = 40) ∧
      (m.since (d.readFile m [0x61]).machine).readCount ≤ 2 * Nat.clog 2 (max 40 1) + 2 := by
  intro d m
  have made : create {} { driver := .ring } = (.ok d, (create {} { driver := .ring }).2) := rfl
  have reached : d.Reached := .created made
  have honest : m.schedule.Honest := by
    refine ⟨?_, ?_, ?_⟩
    · simp [m, Schedule.Strayless]
    · simp [m]
    · simp [m]
  have calls : (m.since (d.readFile m [0x61]).machine).calls = [
      .openFile [0x61] .read 0 (.ok 0), .size 0 (.ok 0),
      .ringRead 0 0 32 0 (.ok (List.replicate 32 7)), .enter 1 (.ok 1),
      .enter 1 (.ok 0), .ringRead 1 0 32 32 (.ok (List.replicate 8 7)), .enter 1 (.ok 1),
      .enter 0 (.ok 0), .ringRead 2 0 24 40 (.ok []), .enter 1 (.ok 1), .close 0 (.ok ())] := by
    -- Evaluation does not get into the loop by itself, so it is unrolled step by step.
    have unrolled := @Host.readAll_eq
    unfold readFile Host.readOpen
    generalize @Host.readAll = readAll at unrolled ⊢
    cbv
    rw [unrolled]
    cbv
    rw [unrolled]
    cbv
    rw [unrolled]
    cbv
  have deeds : (m.since (d.readFile m [0x61]).machine).deeds = [
      .openFile [0x61] .read 0 (.ok 0), .size 0 (.ok 0),
      .read 0 32 0 (.ok (List.replicate 32 7)), .read 0 32 32 (.ok (List.replicate 8 7)),
      .read 0 24 40 (.ok []), .close 0 (.ok ())] := by
    unfold Journal.deeds
    rw [calls]
    rfl
  have sized : .size 0 (.ok 0) ∈ (m.since (d.readFile m [0x61]).machine).deeds := by
    rw [deeds]
    exact List.mem_cons_of_mem _ List.mem_cons_self
  have unhindered : (m.since (d.readFile m [0x61]).machine).Unhindered 40 := by
    constructor
    · rw [calls]
      simp [Call.errno?]
    · rw [deeds]
      simp [Call.Full]
  obtain ⟨whole, few, -⟩ :=
    readFile_logarithmic reached rfl (fun _ => honest) (by decide) (by decide) sized unhindered
  exact ⟨reached, rfl, honest, sized, unhindered, whole, few⟩

end Driver

end WholeFile
