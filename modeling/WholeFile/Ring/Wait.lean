import WholeFile.Ring.Basic

/-!
# Waiting on a ring

The caller of a transfer waits until its completion has been posted. Waits can be interrupted, can
fail, and can end with nothing posted yet. What the caller is owed is never lost in them, so each
wait ends: once the answers to come are used up, the kernel posts all that it owes.
-/

namespace WholeFile

/-- The memory lent to the kernel while it is waited for. A buffer that grows moves, and a new one
is elsewhere, so entries with tickets before `since` do not reach the buffer. The probe stays where
it is. -/
structure Loan where
  buffer : Bytes
  probe : Bytes
  since : Nat

namespace Loan

/-- The loan of a writer, who looks at none of it. Entries so far do not reach its buffer. -/
def nothing (issued : Nat) : Loan := ⟨[], [], issued⟩

/-- How many bytes a read from `offset` on has room for. -/
def room (l : Loan) (offset : Nat) : Target → Nat
  | .buffer => l.buffer.length - offset
  | .probe => l.probe.length

/-- The memory after a read from `offset` on: what was delivered is in its target. -/
def landed (l : Loan) (offset : Nat) (target : Target) : Except Errno Bytes → Loan
  | .error _ => l
  | .ok bytes =>
    match target with
    | .buffer => { l with buffer := l.buffer.spliced offset bytes }
    | .probe => { l with probe := l.probe.spliced 0 bytes }

/-- The memory after the kernel has carried out a read, which may be one that nobody waits for. -/
def receive (l : Loan) (e : Entry) (target : Target) (answer : Except Errno Bytes) : Loan :=
  if target = .probe ∨ l.since ≤ e.ticket then l.landed e.offset target answer else l

end Loan

/-- A ring on its machine, and the memory lent to it. -/
structure Wait where
  machine : Machine
  ring : Ring
  loan : Loan

namespace Wait

/-! ## What the kernel does while it is waited for -/

/-- The kernel carries out one entry, whose completion is then in flight. -/
def execute (w : Wait) (e : Entry) : Wait :=
  match e.transfer with
  | .read length target =>
    let (answer, machine) := w.machine.transferIn e.fd length e.offset
    let c : Completion := ⟨e.transfer.tag, encodedResult (answer.map List.length), some e.ticket⟩
    { machine := machine.record (.ringRead e.ticket e.fd length e.offset answer)
      ring := { w.ring with inFlight := w.ring.inFlight ++ [c] }
      loan := w.loan.receive e target answer }
  | .write bytes =>
    let (answer, machine) := w.machine.transferOut e.fd bytes e.offset
    let c : Completion := ⟨e.transfer.tag, encodedResult answer, some e.ticket⟩
    { machine := machine.record (.ringWrite e.ticket e.fd bytes e.offset answer)
      ring := { w.ring with inFlight := w.ring.inFlight ++ [c] }
      loan := w.loan }

/-- The same, with these answers to come. -/
def withAnswers (w : Wait) (answers : List EnterAnswer) : Wait :=
  { w with machine := { w.machine with schedule.enter := answers } }

/-- Completions out of nowhere are posted. -/
def strays (w : Wait) (stray : List (Nat × Int32)) : Wait :=
  { w with ring := { w.ring with posted := w.ring.posted ++ stray.map Completion.stray } }

/-- The kernel takes all queued entries and carries them out, oldest first. -/
def takeQueued (w : Wait) : Wait :=
  w.ring.queued.foldl execute { w with ring := { w.ring with queued := [] } }

/-- All completions in flight are posted. -/
def post (w : Wait) : Wait :=
  { w with ring := { w.ring with posted := w.ring.posted ++ w.ring.inFlight, inFlight := [] } }

/-- One call that hands over the queue and waits for a completion. -/
def enter (w : Wait) : Except Errno Nat × Wait :=
  let (fault, rest) := next {} w.machine.schedule.enter
  let queued := w.ring.queued.length
  let w := (w.withAnswers rest).strays fault.stray
  let w := if fault.take then w.takeQueued else w
  let w := if fault.post then w.post else w
  let answer := match fault.errno with
    | some e => .error e
    | none => .ok (if fault.take then queued else 0)
  (answer, { w with machine := w.machine.record (.enter queued answer) })

/-- One more call for a transfer that the kernel holds. A failure other than an interruption is
logged. -/
def enterAgain (w : Wait) : Wait :=
  match w.enter with
  | (.ok _, w) => w
  | (.error e, w) =>
    if e = .interrupted then w
    else
      let message := s!"io_uring wait failed while reaping error={(IoError.os e).message}"
      { w with machine := w.machine.log .warn .ring message }

/-- After a failed wait nothing more is handed to the ring. -/
def poison (w : Wait) (e : Errno) : Wait :=
  let message := s!"io_uring wait failed, driver poisoned error={(IoError.os e).message}"
  { w with machine := w.machine.log .warn .ring message, ring.poisoned := true }

/-! ## What is owed stays owed -/

theorem owed_execute (w : Wait) (e : Entry) (tag : Nat) :
    tag ∈ (w.execute e).ring.owed ↔ tag ∈ w.ring.owed ∨ tag = e.transfer.tag := by
  unfold execute
  split <;> simp [Ring.owed] <;> grind

theorem owed_foldl_execute (es : List Entry) (w : Wait) (tag : Nat) :
    tag ∈ (es.foldl execute w).ring.owed ↔ tag ∈ w.ring.owed ∨ tag ∈ es.map (·.transfer.tag) := by
  induction es generalizing w with
  | nil => simp
  | cons e es ih => simp [ih, owed_execute, or_assoc]

theorem owed_takeQueued (w : Wait) (tag : Nat) :
    tag ∈ w.takeQueued.ring.owed ↔ tag ∈ w.ring.owed := by
  rw [takeQueued, owed_foldl_execute]
  simp [Ring.owed]
  grind

theorem owed_post (w : Wait) (tag : Nat) : tag ∈ w.post.ring.owed ↔ tag ∈ w.ring.owed := by
  simp [post, Ring.owed]
  grind

theorem owed_strays {w : Wait} {tag : Nat} (stray : List (Nat × Int32)) (h : tag ∈ w.ring.owed) :
    tag ∈ (w.strays stray).ring.owed := by
  simp [strays, Ring.owed] at h ⊢
  grind

theorem owed_enter {w : Wait} {tag : Nat} (h : tag ∈ w.ring.owed) :
    tag ∈ w.enter.2.ring.owed := by
  have h' := owed_strays (w := w.withAnswers (next {} w.machine.schedule.enter).2)
    (next {} w.machine.schedule.enter).1.stray h
  simp only [enter]
  split <;> split <;> simpa only [owed_post, owed_takeQueued] using h'

/-! ## Waits use up their answers -/

theorem enterQueue_execute (w : Wait) (e : Entry) :
    (w.execute e).machine.schedule.enter = w.machine.schedule.enter := by
  unfold execute
  split
  · next length _ _ => exact w.machine.enterQueue_transferIn e.fd length e.offset
  · next bytes _ => exact w.machine.enterQueue_transferOut e.fd bytes e.offset

theorem queued_execute (w : Wait) (e : Entry) : (w.execute e).ring.queued = w.ring.queued := by
  unfold execute
  split <;> rfl

theorem enterQueue_takeQueued (w : Wait) :
    w.takeQueued.machine.schedule.enter = w.machine.schedule.enter := by
  have (es : List Entry) (w : Wait) :
      (es.foldl execute w).machine.schedule.enter = w.machine.schedule.enter := by
    induction es generalizing w with
    | nil => rfl
    | cons e es ih => rw [List.foldl_cons, ih, enterQueue_execute]
  rw [takeQueued, this]

theorem queued_takeQueued (w : Wait) : w.takeQueued.ring.queued = [] := by
  have (es : List Entry) (w : Wait) : (es.foldl execute w).ring.queued = w.ring.queued := by
    induction es generalizing w with
    | nil => rfl
    | cons e es ih => rw [List.foldl_cons, ih, queued_execute]
  rw [takeQueued, this]

theorem enterQueue_enter (w : Wait) :
    w.enter.2.machine.schedule.enter = w.machine.schedule.enter.tail := by
  have rest : (next {} w.machine.schedule.enter).2 = w.machine.schedule.enter.tail := by
    cases w.machine.schedule.enter <;> rfl
  simp only [enter]
  split <;> split <;>
    simp only [post, enterQueue_takeQueued, strays, withAnswers, Machine.record] <;> exact rest

/-- With no answers left, a wait succeeds and leaves nothing unposted. -/
theorem enter_of_enterQueue_nil {w : Wait} (h : w.machine.schedule.enter = []) :
    (∃ n, w.enter.1 = .ok n) ∧ w.enter.2.ring.queued = [] ∧ w.enter.2.ring.inFlight = [] := by
  simp [enter, h, next, post, queued_takeQueued]

theorem enterQueue_ne_nil_of_error {w w' : Wait} {e : Errno} (h : w.enter = (.error e, w')) :
    w.machine.schedule.enter ≠ [] := by
  intro hq
  obtain ⟨⟨n, hn⟩, -⟩ := enter_of_enterQueue_nil hq
  rw [h] at hn
  cases hn

theorem enterQueue_ne_nil_of_collect {w : Wait} {r : Ring} {tag : Nat} (owed : tag ∈ w.ring.owed)
    (hc : w.enter.2.ring.collect tag = (none, r)) : w.machine.schedule.enter ≠ [] := by
  intro hq
  obtain ⟨-, hqueued, hflight⟩ := enter_of_enterQueue_nil hq
  have still := owed_enter owed
  rw [Ring.owed, hqueued, hflight] at still
  exact (Ring.collect_none hc).1 still

theorem length_enterQueue_lt {w : Wait} (hq : w.machine.schedule.enter ≠ []) :
    w.enter.2.machine.schedule.enter.length < w.machine.schedule.enter.length := by
  rw [enterQueue_enter, List.length_tail]
  have := List.length_pos_iff.2 hq
  omega

theorem enterAgain_eq (w : Wait) :
    w.enterAgain.ring = w.enter.2.ring ∧
      w.enterAgain.machine.schedule = w.enter.2.machine.schedule := by
  unfold enterAgain
  split
  · next h => simp [h]
  · next h => split <;> simp [h, Machine.log]

/-! ## Waiting for a completion -/

/-- Calls again and again until a completion marked `tag` is collected. The kernel holds the
transfer and with it the memory lent, so no failure ends this. -/
def reapEntering (w : Wait) (tag : Nat) (owed : tag ∈ w.ring.owed) : Completion × Wait :=
  let w' := w.enterAgain
  match hc : w'.ring.collect tag with
  | (some c, ring) => (c, { w' with ring })
  | (none, ring) =>
    { w' with ring }.reapEntering tag
      ((Ring.collect_none hc).2 ((enterAgain_eq w).1 ▸ owed_enter owed))
termination_by w.machine.schedule.enter.length
decreasing_by
  have hc : w.enterAgain.ring.collect tag = (none, ring) := hc
  simp only [(enterAgain_eq w).2]
  exact length_enterQueue_lt (enterQueue_ne_nil_of_collect owed ((enterAgain_eq w).1 ▸ hc))

/-- Collects the completion of a transfer that the kernel holds. -/
def reap (w : Wait) (tag : Nat) (owed : tag ∈ w.ring.owed) : Completion × Wait :=
  match hc : w.ring.collect tag with
  | (some c, ring) => (c, { w with ring })
  | (none, ring) => { w with ring }.reapEntering tag ((Ring.collect_none hc).2 owed)

/-- Hands over the queue and waits until a completion marked `tag` is collected. An interrupted
call is made again. Any other failure poisons the ring: an entry still in the queue is given up,
and one that the kernel holds is waited for. -/
def await (w : Wait) (tag : Nat) (owed : tag ∈ w.ring.owed) : Except IoError Nat × Wait :=
  match h : w.enter with
  | (.error e, w') =>
    have owed' : tag ∈ w'.ring.owed := by simpa [h] using owed_enter owed
    if e = .interrupted then w'.await tag owed'
    else if w'.ring.queued = [] then
      let (c, w') := (w'.poison e).reap tag owed'
      (c.outcome, w')
    else (.error (.os e), w'.poison e)
  | (.ok _, w') =>
    have owed' : tag ∈ w'.ring.owed := by simpa [h] using owed_enter owed
    match hc : w'.ring.collect tag with
    | (some c, ring) => (c.outcome, { w' with ring })
    | (none, ring) => { w' with ring }.await tag ((Ring.collect_none hc).2 owed')
termination_by w.machine.schedule.enter.length
decreasing_by
  · simpa [h] using length_enterQueue_lt (enterQueue_ne_nil_of_error h)
  · have hc : w.enter.2.ring.collect tag = (none, ring) := by rw [h]; exact hc
    simpa [h] using length_enterQueue_lt (enterQueue_ne_nil_of_collect owed hc)

end Wait

end WholeFile
