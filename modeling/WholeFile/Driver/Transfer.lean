import WholeFile.Driver.Basic
import WholeFile.Ring.Progress

/-!
# Positioned transfers

One read or write at an offset, over either backend. An interrupted one is made again, which ends
because each interruption uses up an answer or a completion that was still to come.
-/

namespace WholeFile

/-! ## Through a ring -/

/-- The most bytes that one ring entry can ask for: its length has 32 bits. -/
def maxRequest : Nat := 0xffffffff

/-- Hands one transfer to the ring and waits for it, with memory for reads to land in. -/
def Ring.transfer (r : Ring) (m : Machine) (fd : Descriptor) (offset : Nat) (t : Transfer)
    (loan : Loan) : Except IoError Nat × Wait :=
  if r.poisoned then (.error .ringPoisoned, ⟨m, r, loan⟩)
  else if r.capacity ≤ r.queued.length then (.error .ringFull, ⟨m, r, loan⟩)
  else Wait.await ⟨m, r.push fd offset t, loan⟩ t.tag (r.tag_mem_owed_push fd offset t)

/-- A transfer is refused with nothing done, or it is pushed and waited for. -/
theorem Ring.transfer_cases (r : Ring) (m : Machine) (fd : Descriptor) (offset : Nat)
    (t : Transfer) (loan : Loan) :
    (r.transfer m fd offset t loan).2 = ⟨m, r, loan⟩ ∨
      r.transfer m fd offset t loan =
        Wait.await ⟨m, r.push fd offset t, loan⟩ t.tag (r.tag_mem_owed_push fd offset t) := by
  unfold transfer
  split
  · exact .inl rfl
  · split
    · exact .inl rfl
    · exact .inr rfl

/-! ## Over either backend -/

/-- A backend on its machine. -/
structure Host where
  machine : Machine
  backend : Backend

/-- How a transfer went: its result, the memory lent after it, and the host after it. -/
structure Attempt where
  result : Except IoError Nat
  loan : Loan
  host : Host

/-- The transfer came to nothing because of a signal. -/
def Attempt.interrupted (a : Attempt) : Bool :=
  match a.result with
  | .ok _ => false
  | .error e => e.isInterrupted

namespace Host

/-- How many tickets have been given out. -/
def issued (h : Host) : Nat :=
  match h.backend with
  | .blocking => 0
  | .ring r => r.issued

/-- One attempt to fill the room in the target from the file at `offset` on. -/
def tryRead (h : Host) (fd : Descriptor) (offset : Nat) (target : Target) (loan : Loan) :
    Attempt :=
  let room := loan.room offset target
  match h.backend with
  | .blocking =>
    let (answer, machine) := h.machine.read fd room offset
    ⟨(answer.map List.length).mapError .os, loan.landed offset target answer, { h with machine }⟩
  | .ring r =>
    let (result, w) := r.transfer h.machine fd offset (.read (min room maxRequest) target) loan
    ⟨result, w.loan, ⟨w.machine, .ring w.ring⟩⟩

/-- One attempt to write `bytes` to the file at `offset`. -/
def tryWrite (h : Host) (fd : Descriptor) (offset : Nat) (bytes : Bytes) : Attempt :=
  match h.backend with
  | .blocking =>
    let (answer, machine) := h.machine.write fd bytes offset
    ⟨answer.mapError .os, .nothing 0, { h with machine }⟩
  | .ring r =>
    let (result, w) :=
      r.transfer h.machine fd offset (.write (bytes.take maxRequest)) (.nothing r.issued)
    ⟨result, w.loan, ⟨w.machine, .ring w.ring⟩⟩

/-! ## What an attempt uses up -/

/-- What is left of the answers to come and of the completions owed. -/
def weight (h : Host) : Nat :=
  h.machine.schedule.weight +
    match h.backend with
    | .blocking => 0
    | .ring r => r.weight

theorem price_of_interrupted {a : Attempt} (h : a.interrupted) : price a.result = 2 := by
  unfold Attempt.interrupted at h
  unfold price
  split at h <;> simp_all

end Host

/-- A transfer through a ring has been paid for, entry and all. -/
theorem Ring.transfer_paid (r : Ring) (m : Machine) (fd : Descriptor) (offset : Nat) (t : Transfer)
    (loan : Loan) (hp : 0 < price (r.transfer m fd offset t loan).1) :
    Wait.Paid ⟨m, r.push fd offset t, loan⟩ (r.transfer m fd offset t loan).2
      (price (r.transfer m fd offset t loan).1) := by
  unfold Ring.transfer at hp ⊢
  split at hp
  · simp [price, IoError.ringPoisoned, IoError.isInterrupted, IoError.kind] at hp
  · split at hp
    · simp [price, IoError.ringFull, IoError.isInterrupted, IoError.kind] at hp
    · next hpoison hfull =>
      rw [if_neg hpoison, if_neg hfull]
      exact Wait.await_paid ..

theorem Ring.weight_push (r : Ring) (fd : Descriptor) (offset : Nat) (t : Transfer) :
    (r.push fd offset t).weight = r.weight + t.weight := by
  simp only [weight, push, sumOver_append, sumOver]
  omega

theorem Ring.descriptors_transfer (r : Ring) (m : Machine) (fd : Descriptor) (offset : Nat)
    (t : Transfer) (loan : Loan) :
    (r.transfer m fd offset t loan).2.machine.descriptors = m.descriptors := by
  rcases r.transfer_cases m fd offset t loan with refused | waited
  · rw [refused]
  · rw [waited]
    exact Wait.descriptors_await ..

namespace Host

theorem price_of_ok {a : Attempt} {n : Nat} (h : a.result = .ok n) (hpos : 0 < n) :
    price a.result = 1 := by
  simp [h, price, Nat.ne_of_gt hpos]

/-- A read that comes to something uses something up, unless it gives bytes that are there. -/
theorem tryRead_paid {h : Host} {fd : Descriptor} {offset : Nat} {target : Target} {loan : Loan}
    (hp : 0 < price (h.tryRead fd offset target loan).result) :
    (h.tryRead fd offset target loan).host.weight < h.weight ∨
      ((h.tryRead fd offset target loan).host.weight = h.weight ∧
        (h.tryRead fd offset target loan).host.machine.extent fd = h.machine.extent fd ∧
        offset < h.machine.extent fd ∧
        price (h.tryRead fd offset target loan).result = 1) := by
  obtain ⟨m, backend⟩ := h
  cases backend with
  | blocking =>
    simp only [tryRead, Machine.read, weight, Machine.record] at hp ⊢
    generalize loan.room offset target = room at *
    have cost := price_mapError_le ((m.transferIn fd room offset).1.map List.length)
    by_cases hr : m.schedule.read = []
    · obtain ⟨same, le, lt⟩ := m.transferIn_of_nil fd room offset hr
      exact .inr ⟨by rw [same], by simp only [Machine.extent, Machine.node?, Machine.path?, same],
        lt (by omega), by omega⟩
    · have := Machine.weight_transferIn_of_ne_nil fd room offset hr
      exact .inl (by omega)
  | ring r =>
    simp only [tryRead] at hp ⊢
    have light : (Transfer.read (min (loan.room offset target) maxRequest) target).weight = 1 := rfl
    generalize Transfer.read (min (loan.room offset target) maxRequest) target = t at *
    have paid := r.transfer_paid m fd offset t loan hp
    have fds := r.descriptors_transfer m fd offset t loan
    have pushed : (⟨m, r.push fd offset t, loan⟩ : Wait).weight =
        m.schedule.weight + r.weight + 1 := by
      simp only [Wait.weight, Ring.weight_push, light, Nat.add_assoc]
    simp only [Wait.Paid, pushed] at paid
    simp only [weight]
    rcases paid with lt | ⟨eq, files, reads⟩
    · left
      simp only [Wait.weight] at lt
      omega
    · have there := (reads _ (r.mem_queued_push fd offset _)).2
      by_cases one : price (r.transfer m fd offset t loan).1 = 1
      · refine .inr ⟨?_, ?_, there, one⟩
        · simp only [Wait.weight] at eq
          omega
        · simp only [Machine.extent, Machine.node?, Machine.path?, files, fds]
      · left
        simp only [Wait.weight] at eq
        omega

theorem tryRead_interrupted {h : Host} {fd : Descriptor} {offset : Nat} {target : Target}
    {loan : Loan} (hi : (h.tryRead fd offset target loan).interrupted) :
    (h.tryRead fd offset target loan).host.weight < h.weight := by
  have two := price_of_interrupted hi
  rcases tryRead_paid (by rw [two]; decide) with lt | ⟨-, -, -, one⟩
  · exact lt
  · omega

theorem tryWrite_interrupted {h : Host} {fd : Descriptor} {offset : Nat} {bytes : Bytes}
    (hi : (h.tryWrite fd offset bytes).interrupted) :
    (h.tryWrite fd offset bytes).host.weight < h.weight := by
  have two := price_of_interrupted hi
  obtain ⟨m, backend⟩ := h
  cases backend with
  | blocking =>
    simp only [tryWrite, Machine.write, weight, Machine.record] at two ⊢
    have cost := price_mapError_le (m.transferOut fd bytes offset).1
    have := m.weight_transferOut fd bytes offset
    omega
  | ring r =>
    simp only [tryWrite] at two ⊢
    have paid := r.transfer_paid m fd offset (.write (bytes.take maxRequest))
      (.nothing r.issued) (by omega)
    have pushed : (⟨m, r.push fd offset (.write (bytes.take maxRequest)), .nothing r.issued⟩ :
        Wait).weight = m.schedule.weight + r.weight + 2 := by
      simp only [Wait.weight, Ring.weight_push, Transfer.weight, Nat.add_assoc]
    simp only [Wait.Paid, pushed, two] at paid
    simp only [weight]
    rcases paid with lt | ⟨-, -, reads⟩
    · simp only [Wait.weight] at lt
      omega
    · obtain ⟨length, target, hl⟩ := (reads _ (r.mem_queued_push fd offset _)).1
      cases hl

/-! ## Transfers that outlast signals -/

/-- Fills the start of the room in the target from the file at `offset` on. -/
def readAt (h : Host) (fd : Descriptor) (offset : Nat) (target : Target) (loan : Loan) : Attempt :=
  let a := h.tryRead fd offset target loan
  if a.interrupted then a.host.readAt fd offset target a.loan else a
termination_by h.weight
decreasing_by exact tryRead_interrupted (by assumption)

/-- Writes the first of `bytes` to the file at `offset`. -/
def writeAt (h : Host) (fd : Descriptor) (offset : Nat) (bytes : Bytes) : Attempt :=
  let a := h.tryWrite fd offset bytes
  if a.interrupted then a.host.writeAt fd offset bytes else a
termination_by h.weight
decreasing_by exact tryWrite_interrupted (by assumption)

theorem readAt_not_interrupted (h : Host) (fd : Descriptor) (offset : Nat) (target : Target)
    (loan : Loan) : (h.readAt fd offset target loan).interrupted = false := by
  fun_induction readAt h fd offset target loan with
  | case1 h loan a hi ih => exact ih
  | case2 h loan a hi => simpa using hi

/-- A read that gives something uses something up, or the file has bytes at that place. -/
theorem readAt_progress {h : Host} {fd : Descriptor} {offset n : Nat} {target : Target}
    {loan : Loan} (hn : (h.readAt fd offset target loan).result = .ok n) (hpos : 0 < n) :
    (h.readAt fd offset target loan).host.weight < h.weight ∨
      ((h.readAt fd offset target loan).host.weight = h.weight ∧
        (h.readAt fd offset target loan).host.machine.extent fd = h.machine.extent fd ∧
        offset < h.machine.extent fd) := by
  fun_induction readAt h fd offset target loan with
  | case1 h loan a hi ih =>
    have lt : a.host.weight < h.weight := tryRead_interrupted hi
    rcases ih hn with h' | ⟨h', -⟩ <;> exact .inl (by omega)
  | case2 h loan a hi =>
    rcases tryRead_paid (by rw [price_of_ok hn hpos]; decide) with
      lt | ⟨eq, extent, there, -⟩
    · exact .inl lt
    · exact .inr ⟨eq, extent, there⟩

end Host

end WholeFile
