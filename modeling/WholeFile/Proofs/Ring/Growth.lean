import WholeFile.Driver.Transfer
import WholeFile.Proofs.Machine.Before

/-!
# How long a file gets

While a file is read it can get new content, and entries that a ring still has may write to it. It
gets no longer than any of that makes it.
-/

namespace WholeFile

/-! ## What can make a file longer -/

/-- How far the entry writes. -/
def Entry.writeEnd (e : Entry) : Nat :=
  match e.transfer with
  | .read _ _ => 0
  | .write bytes => e.offset + bytes.length

/-- The file at `p`, and all content that files get while they are read, has at most `limit`
bytes. -/
structure Machine.Within (p : Path) (limit : Nat) (m : Machine) : Prop where
  content : (m.files.content p).length ≤ limit
  scheduled : ∀ a ∈ m.schedule.read, ∀ bytes, a.content = some bytes → bytes.length ≤ limit

/-- No queued entry writes past the limit either. -/
structure Wait.Within (p : Path) (limit : Nat) (w : Wait) : Prop where
  machine : w.machine.Within p limit
  queued : ∀ e ∈ w.ring.queued, e.writeEnd ≤ limit

variable {p : Path} {limit : Nat}

theorem FileTable.length_editContent_le {t : FileTable} (h : (t.content p).length ≤ limit)
    (q : Path) {f : Bytes → Bytes}
    (keeps : ∀ held : Bytes, held.length ≤ limit → (f held).length ≤ limit) :
    ((t.editContent q f).content p).length ≤ limit := by
  by_cases same : p = q
  · subst same
    cases there : t.find? p with
    | none =>
      have unchanged : t.editContent p f = t := by
        unfold editContent
        rw [there]
      rwa [unchanged]
    | some n =>
      rw [content_editContent_self f there]
      exact keeps _ h
  · unfold content
    rw [find?_editContent_of_ne t f same]
    exact h

namespace Machine

variable {m : Machine}

/-- The bytes behind a descriptor are those of its file. -/
theorem Within.extent_le (within : m.Within p limit) {fd : Descriptor}
    (path : m.path? fd = some p) : m.extent fd ≤ limit := by
  have same : m.extent fd = (m.files.content p).length := by
    unfold extent node? FileTable.content
    rw [path, Option.bind_some]
    cases m.files.find? p <;> rfl
  rw [same]
  exact within.content

/-- Calls that leave the files alone. -/
theorem Within.of_before {n : Machine} (within : m.Within p limit) (before : m.Before n)
    (files : n.files = m.files) : n.Within p limit where
  content := by
    rw [files]
    exact within.content
  scheduled a mem := within.scheduled a (before.schedule.read.subset mem)

theorem Within.transferIn (within : m.Within p limit) (fd : Descriptor) (length offset : Nat) :
    (m.transferIn fd length offset).2.Within p limit where
  content := by
    have given (bytes : Bytes)
        (h : (next ({} : ReadAnswer) m.schedule.read).1.content = some bytes) :
        bytes.length ≤ limit := by
      cases hq : m.schedule.read with
      | nil =>
        rw [hq] at h
        cases h
      | cons a rest =>
        rw [hq] at h
        exact within.scheduled a (hq ▸ List.mem_cons_self) bytes h
    simp only [Machine.transferIn, refreshed]
    split
    · next bytes q there _ =>
      exact FileTable.length_editContent_le within.content q fun _ _ => given bytes there
    · exact within.content
  scheduled a mem := by
    rw [schedule_transferIn] at mem
    exact within.scheduled a (List.mem_of_mem_tail mem)

theorem Within.transferOut (within : m.Within p limit) (fd : Descriptor) {bytes : Bytes}
    {offset : Nat} (fits : offset + bytes.length ≤ limit) :
    (m.transferOut fd bytes offset).2.Within p limit where
  content := by
    simp only [Machine.transferOut]
    split
    · exact within.content
    · exact within.content
    · split
      · exact within.content
      · next q _ _ _ =>
        apply FileTable.length_editContent_le within.content q
        intro held le
        have taken (n : Nat) : (bytes.take n).length ≤ bytes.length := List.length_take_le' n bytes
        rw [Bytes.length_spliced]
        exact Nat.max_le.2 ⟨le, Nat.le_trans (Nat.add_le_add_left (taken _) offset) fits⟩
  scheduled a mem := by
    rw [schedule_transferOut] at mem
    exact within.scheduled a mem

theorem Within.record (within : m.Within p limit) (c : Call) : (m.record c).Within p limit :=
  within.of_before (before_record m c) rfl

theorem Within.log (within : m.Within p limit) (level : LogLevel) (source : LogSource)
    (message : String) : (m.log level source message).Within p limit :=
  within.of_before (before_log ..) rfl

end Machine

namespace Wait.Within

variable {w : Wait}

/-! ## What the kernel does -/

theorem execute (within : w.Within p limit) {e : Entry} (fits : e.writeEnd ≤ limit) :
    (w.execute e).Within p limit where
  machine := by
    unfold Entry.writeEnd at fits
    unfold Wait.execute
    split
    · exact (within.machine.transferIn ..).record _
    · next bytes written =>
      rw [written] at fits
      exact (within.machine.transferOut _ fits).record _
  queued := by
    rw [queued_execute]
    exact within.queued

theorem takeQueued (within : w.Within p limit) : w.takeQueued.Within p limit := by
  have each (es : List Entry) {w : Wait} (within : w.Within p limit)
      (fit : ∀ e ∈ es, e.writeEnd ≤ limit) : (es.foldl Wait.execute w).Within p limit := by
    induction es generalizing w with
    | nil => exact within
    | cons e es ih =>
      exact ih (within.execute (fit e List.mem_cons_self)) fun e' mem =>
        fit e' (List.mem_cons_of_mem e mem)
  exact each w.ring.queued ⟨within.machine, fun e mem => absurd mem List.not_mem_nil⟩ within.queued

theorem enter (within : w.Within p limit) : w.enter.2.Within p limit := by
  have took {v : Wait} (within : v.Within p limit) (take : Bool) :
      (if take then v.takeQueued else v).Within p limit := by
    split
    · exact within.takeQueued
    · exact within
  have posted {v : Wait} (within : v.Within p limit) (post : Bool) :
      (if post then v.post else v).Within p limit := by
    split
    · exact ⟨within.machine, within.queued⟩
    · exact within
  have answered : ((w.withAnswers (next {} w.machine.schedule.enter).2).strays
      (next {} w.machine.schedule.enter).1.stray).Within p limit :=
    ⟨⟨within.machine.content, within.machine.scheduled⟩, within.queued⟩
  have passed := posted (took answered (next {} w.machine.schedule.enter).1.take)
    (next {} w.machine.schedule.enter).1.post
  exact ⟨passed.machine.record _, passed.queued⟩

theorem enterAgain (within : w.Within p limit) : w.enterAgain.Within p limit := by
  have entered := within.enter
  unfold Wait.enterAgain
  split
  · next h =>
    rwa [h] at entered
  · next h =>
    rw [h] at entered
    split
    · exact entered
    · exact ⟨entered.machine.log .., entered.queued⟩

/-! ## Whole waits -/

theorem collected (within : w.Within p limit) {r : Ring} {tag : Nat} {found : Option Completion}
    (h : w.ring.collect tag = (found, r)) : Within p limit { w with ring := r } := by
  unfold Ring.collect at h
  split at h <;> cases h <;> exact ⟨within.machine, within.queued⟩

theorem poison (within : w.Within p limit) (e : Errno) : (w.poison e).Within p limit :=
  ⟨within.machine.log .., within.queued⟩

theorem enduring (p : Path) (limit : Nat) :
    Enduring fun w v => w.Within p limit → v.Within p limit where
  trans first rest := rest ∘ first
  again _ within := within.enterAgain
  collected hc within := within.collected hc
  enter _ within := within.enter
  poison _ e within := within.poison e

theorem await (within : w.Within p limit) (tag : Nat) (owed : tag ∈ w.ring.owed) :
    (w.await tag owed).2.Within p limit :=
  (enduring p limit).await w tag owed within

end Wait.Within

/-- A read that a ring is handed makes no file longer, whatever it finds queued there. -/
theorem Wait.Within.transfer {r : Ring} {m : Machine} {loan : Loan}
    (within : Wait.Within p limit ⟨m, r, loan⟩) (fd : Descriptor) (offset length : Nat)
    (target : Target) :
    (r.transfer m fd offset (.read length target) loan).2.Within p limit := by
  rcases r.transfer_cases m fd offset (.read length target) loan with refused | waited
  · rwa [refused]
  · rw [waited]
    apply Wait.Within.await
    refine ⟨within.machine, fun e mem => ?_⟩
    rcases List.mem_append.1 mem with mem | mem
    · exact within.queued e mem
    · rw [List.mem_singleton.1 mem]
      exact Nat.zero_le _

end WholeFile
