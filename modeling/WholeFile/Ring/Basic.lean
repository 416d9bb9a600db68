import WholeFile.Error
import WholeFile.Machine.Calls

/-!
# Rings

A ring carries transfers to the kernel and their results back. An entry waits in a queue until the
kernel takes it, is in flight until its completion is posted, and is done when the completion is
collected. Each entry has a ticket that no other entry of the ring has.
-/

namespace WholeFile

/-! ## The queues -/

/-- What a completion is marked with, so that reads and writes can be told apart. -/
def Transfer.tag : Transfer → Nat
  | read _ _ => 1
  | write _ => 2

/-- A transfer handed to a ring. -/
structure Entry where
  ticket : Nat
  fd : Descriptor
  offset : Nat
  transfer : Transfer
deriving DecidableEq, Repr

/-- A result on its way back: a count, or the negative of an error number. One that comes out of
nowhere has no ticket. -/
structure Completion where
  tag : Nat
  result : Int
  ticket : Option Nat
deriving DecidableEq, Repr

/-- A completion out of nowhere. -/
def Completion.stray (markAndResult : Nat × Int32) : Completion :=
  ⟨markAndResult.1, markAndResult.2.toInt, none⟩

/-- What the caller makes of a completion. The least error number is its own negative. -/
def Completion.outcome (c : Completion) : Except IoError Nat :=
  if 0 ≤ c.result then .ok c.result.toNat else .error (.os ⟨-Int32.ofInt c.result⟩)

/-- How a count or an error travels. -/
def encodedResult : Except Errno Nat → Int
  | .ok n => n
  | .error e => (-e.code).toInt

example : Completion.outcome ⟨1, -5, none⟩ = .error (.os ⟨5⟩) := rfl

/-- The least result has no positive counterpart. -/
example : Completion.outcome ⟨1, -0x80000000, none⟩ = .error (.os ⟨-0x80000000⟩) := rfl

theorem Completion.outcome_of_nonneg {c : Completion} (h : 0 ≤ c.result) :
    c.outcome = .ok c.result.toNat := if_pos h

/-- An error number whose negative is negative arrives as it was sent. -/
theorem Completion.outcome_encodedResult_error {e : Errno} (h : (-e.code).toInt < 0) (tag : Nat)
    (ticket : Option Nat) :
    outcome ⟨tag, encodedResult (.error e), ticket⟩ = .error (.os e) := by
  have neg : ¬ 0 ≤ encodedResult (.error e) := Int.not_le.2 h
  rw [outcome, if_neg neg, encodedResult, Int32.ofInt_toInt, Int32.neg_neg]

structure Ring where
  /-- How many entries can wait at once. -/
  capacity : Nat
  /-- How many tickets have been given out. -/
  issued : Nat := 0
  /-- Entries that the kernel has not taken, oldest first. -/
  queued : List Entry := []
  /-- Completions of taken entries that have not been posted. -/
  inFlight : List Completion := []
  /-- Posted completions that have not been collected. -/
  posted : List Completion := []
  /-- Set once a wait has failed while a transfer may still be under way. -/
  poisoned : Bool := false
deriving DecidableEq, Repr

namespace Ring

/-- The marks of all completions that are still to be collected. -/
def owed (r : Ring) : List Nat :=
  r.queued.map (·.transfer.tag) ++ r.inFlight.map (·.tag) ++ r.posted.map (·.tag)

/-- The ring with one more entry in its queue, under a new ticket. -/
def push (r : Ring) (fd : Descriptor) (offset : Nat) (transfer : Transfer) : Ring :=
  { r with
    issued := r.issued + 1
    queued := r.queued ++ [⟨r.issued, fd, offset, transfer⟩] }

/-- The first completion marked `tag`, and those after it. -/
def search (tag : Nat) : List Completion → Option (Completion × List Completion)
  | [] => none
  | c :: rest => if c.tag = tag then some (c, rest) else search tag rest

/-- Collects the first posted completion marked `tag`. Those before it are dropped with it. -/
def collect (r : Ring) (tag : Nat) : Option Completion × Ring :=
  match search tag r.posted with
  | none => (none, { r with posted := [] })
  | some (c, rest) => (some c, { r with posted := rest })

theorem search_eq_none_iff {tag : Nat} {cs : List Completion} :
    search tag cs = none ↔ tag ∉ cs.map (·.tag) := by
  induction cs with
  | nil => simp [search]
  | cons c rest ih =>
    by_cases h : c.tag = tag
    · simp [search, h]
    · simp [search, h, ih, Ne.symm h]

theorem search_eq_some {tag : Nat} {cs rest : List Completion} {c : Completion}
    (h : search tag cs = some (c, rest)) :
    ∃ passed, cs = passed ++ c :: rest ∧ c.tag = tag ∧ tag ∉ passed.map (·.tag) := by
  induction cs with
  | nil => cases h
  | cons d tail ih =>
    simp only [search] at h
    split at h
    · next hd => cases h; exact ⟨[], rfl, hd, by simp⟩
    · next hd =>
      obtain ⟨passed, rfl, hc, hp⟩ := ih h
      exact ⟨d :: passed, rfl, hc, by simp_all [Ne.symm hd]⟩

theorem mem_queued_push (r : Ring) (fd : Descriptor) (offset : Nat) (transfer : Transfer) :
    ⟨r.issued, fd, offset, transfer⟩ ∈ (r.push fd offset transfer).queued := by
  simp [push]

theorem tag_mem_owed_push (r : Ring) (fd : Descriptor) (offset : Nat) (transfer : Transfer) :
    transfer.tag ∈ (r.push fd offset transfer).owed := by
  simp [push, owed]

/-- If nothing is found, nothing posted was marked so, and what was owed still is. -/
theorem collect_none {r s : Ring} {tag : Nat} (h : r.collect tag = (none, s)) :
    tag ∉ r.posted.map (·.tag) ∧ (tag ∈ r.owed → tag ∈ s.owed) := by
  unfold collect at h
  split at h
  · next hs =>
    have absent := search_eq_none_iff.1 hs
    cases h
    refine ⟨absent, fun owed => ?_⟩
    rcases List.mem_append.1 owed with h | h
    · exact List.mem_append_left _ h
    · exact absurd h absent
  · cases h

end Ring

end WholeFile
