import WholeFile.Proofs.Arena.Versions
import WholeFile.Proofs.Platform.Operations

/-!
# Handles over the life of a platform

A handle that has been given out names its buffer until that is taken or destructed, and nothing
ever after. This holds for as long as no slot's versions go round and the arena is not full.
-/

namespace WholeFile

/-- An operation never both makes a buffer and removes one. -/
theorem Operation.removes?_of_made {op : Operation} {p : Platform} {m : Machine} {b : Buffer}
    (made : op.made? p m = some b) : op.removes? = none := by
  cases op <;> first | rfl | cases made

/-- A platform, the handles that it has given out for buffers, in order, and those whose buffers
have been taken or destructed since. -/
structure Tenure where
  platform : Platform
  issued : List Handle := []
  removed : List Handle := []

namespace Tenure

/-- The handle that the operation gives out for a buffer that was made. -/
def issues (t : Tenure) (m : Machine) (op : Operation) : List Handle :=
  match op.made? t.platform m, (t.platform.step m op).1 with
  | some _, .handle h => [h]
  | _, _ => []

/-- The handle whose buffer the operation is the first to take or destruct. -/
def removes (t : Tenure) (op : Operation) : List Handle :=
  match op.removes? with
  | some h => if h ∈ t.issued ∧ h ∉ t.removed then [h] else []
  | none => []

/-- One operation, on the machine as it is by then. -/
def step (t : Tenure) (m : Machine) (op : Operation) : Tenure where
  platform := (t.platform.step m op).2.1
  issued := t.issued ++ t.issues m op
  removed := t.removed ++ t.removes op

def steps (t : Tenure) (run : List (Machine × Operation)) : Tenure :=
  run.foldl (fun t turn => t.step turn.1 turn.2) t

/-- No slot has been used so often that its versions go round. -/
def Unwrapped (issued : List Handle) : Prop :=
  ∀ index, issued.countP (·.index = index) ≤ halfWordLimit / 2

/-- The arena is never too full for another slot to have an index. -/
def Roomy (t : Tenure) (run : List (Machine × Operation)) : Prop :=
  ∀ before, before <+: run → (t.steps before).platform.count ≤ Arena.limit

variable {t : Tenure} {m : Machine} {op : Operation} {run before after : List (Machine × Operation)}
  {h : Handle}

theorem steps_append (t : Tenure) (before after : List (Machine × Operation)) :
    t.steps (before ++ after) = (t.steps before).steps after := List.foldl_append

/-! ## One operation -/

theorem issues_of_made {b : Buffer} (made : op.made? t.platform m = some b)
    (outcome : (t.platform.step m op).1 = .handle h) : t.issues m op = [h] := by
  unfold issues
  rw [made, outcome]

theorem issues_of_none (made : op.made? t.platform m = none) : t.issues m op = [] := by
  unfold issues
  rw [made]

theorem removes_of_none (removes : op.removes? = none) : t.removes op = [] := by
  unfold Tenure.removes
  rw [removes]

theorem removes_of_some (removes : op.removes? = some h) :
    t.removes op = if h ∈ t.issued ∧ h ∉ t.removed then [h] else [] := by
  unfold Tenure.removes
  rw [removes]

/-- The arena of the platform knows what has been given out and taken back. -/
def Accounted (t : Tenure) : Prop := t.platform.arena.Accounted t.issued t.removed

theorem accounted_new (d : Driver) : Accounted { platform := { driver := d } } :=
  Arena.accounted_empty

theorem Accounted.step (accounted : t.Accounted)
    (room : (t.step m op).platform.count ≤ Arena.limit)
    (unwrapped : Unwrapped (t.step m op).issued) : (t.step m op).Accounted := by
  have touches := t.platform.step_touches m op
  change (t.platform.step m op).2.1.arena.size ≤ Arena.limit at room
  change Unwrapped (t.issued ++ t.issues m op) at unwrapped
  change (t.platform.step m op).2.1.arena.Accounted (t.issued ++ t.issues m op)
    (t.removed ++ t.removes op)
  generalize outcome : (t.platform.step m op).1 = o at touches
  generalize (t.platform.step m op).2.1.arena = arena at touches room ⊢
  cases touches with
  | @inserted b made =>
    rw [issues_of_made made outcome] at unwrapped ⊢
    rw [removes_of_none (Operation.removes?_of_made made), List.append_nil]
    exact accounted.insert b room fun position => unwrapped (position + 1)
  | @removed h b _ _ made removes taken ok =>
    have live := (accounted.live h).1
      (Arena.contains_eq_true_iff.2 ⟨b, (Arena.remove_eq_some taken).1⟩)
    rw [issues_of_none made, removes_of_some removes, if_pos live, List.append_nil]
    exact accounted.remove taken
  | @changed h b _ made removes operand live ok =>
    rw [issues_of_none made, removes_of_none removes, List.append_nil, List.append_nil]
    exact accounted.set live b
  | left made invalid =>
    have none : t.removes op = [] := by
      cases hr : op.removes? with
      | none => exact removes_of_none hr
      | some h =>
        have gone := mt (accounted.live h).2 (ne_true_of_eq_false (invalid h hr))
        rw [removes_of_some hr, if_neg gone]
    rw [issues_of_none made, none, List.append_nil, List.append_nil]
    exact accounted

/-! ## Runs -/

theorem prefix_steps (t : Tenure) (run : List (Machine × Operation)) :
    t.issued <+: (t.steps run).issued ∧ t.removed <+: (t.steps run).removed := by
  induction run generalizing t with
  | nil => exact ⟨List.prefix_refl _, List.prefix_refl _⟩
  | cons turn run ih =>
    obtain ⟨issued, removed⟩ := ih (t.step turn.1 turn.2)
    exact ⟨(List.prefix_append _ _).trans issued, (List.prefix_append _ _).trans removed⟩

theorem Unwrapped.of_prefix {issued more : List Handle} (unwrapped : Unwrapped more)
    (earlier : issued <+: more) : Unwrapped issued := fun index =>
  Nat.le_trans (List.Sublist.countP_le earlier.sublist) (unwrapped index)

theorem Accounted.steps (accounted : t.Accounted) (room : t.Roomy run)
    (unwrapped : Unwrapped (t.steps run).issued) : (t.steps run).Accounted := by
  induction run generalizing t with
  | nil => exact accounted
  | cons turn run ih =>
    have first : (t.step turn.1 turn.2).platform.count ≤ Arena.limit :=
      room [turn] ⟨run, rfl⟩
    have later := (t.step turn.1 turn.2).prefix_steps run
    refine ih (accounted.step first (unwrapped.of_prefix later.1)) ?_ unwrapped
    intro before earlier
    exact room (turn :: before) (List.cons_prefix_cons.2 ⟨rfl, earlier⟩)

/-- What is removed is not valid again. -/
theorem Accounted.gone (accounted : (t.steps before).Accounted)
    (later : (t.steps (before ++ after)).Accounted)
    (known : h.isNull = true ∨ h ∈ (t.steps before).issued)
    (invalid : (t.steps before).platform.isValid h = false) :
    (t.steps (before ++ after)).platform.isValid h = false := by
  apply eq_false_of_ne_true
  intro valid
  obtain ⟨issued, still⟩ := (later.live h).1 valid
  rcases known with null | known
  · rw [later.versioned.not_null issued] at null
    cases null
  · have removed : h ∈ (t.steps before).removed := by
      have gone := mt (accounted.live h).2 (ne_true_of_eq_false invalid)
      simpa [known] using gone
    rw [steps_append] at still
    exact still (((t.steps before).prefix_steps after).2.subset removed)

/-! ## Short runs -/

theorem length_issues (t : Tenure) (m : Machine) (op : Operation) : (t.issues m op).length ≤ 1 := by
  unfold issues
  split <;> simp

theorem short_steps (sound : t.platform.arena.Sound) (run : List (Machine × Operation)) :
    (t.steps run).platform.count ≤ t.platform.count + run.length ∧
      (t.steps run).issued.length ≤ t.issued.length + run.length := by
  induction run generalizing t with
  | nil => exact ⟨Nat.le_refl _, Nat.le_refl _⟩
  | cons turn run ih =>
    have count : (t.step turn.1 turn.2).platform.count ≤ t.platform.count + 1 :=
      t.platform.count_step sound turn.1 turn.2
    have length := t.length_issues turn.1 turn.2
    have issued : (t.step turn.1 turn.2).issued.length =
        t.issued.length + (t.issues turn.1 turn.2).length := List.length_append
    obtain ⟨later, later'⟩ := ih (t := t.step turn.1 turn.2) (t.platform.sound_step sound ..)
    simp only [List.length_cons]
    exact ⟨Nat.le_trans later (by omega), Nat.le_trans later' (by omega)⟩

/-- A run has to be long to fill the arena, or to wear out a slot. -/
theorem roomy_of_length (d : Driver) (short : run.length ≤ halfWordLimit / 2) :
    Roomy { platform := { driver := d } } run ∧
      Unwrapped (steps { platform := { driver := d } } run).issued := by
  have new : (Tenure.platform { platform := { driver := d } }).arena.Sound := Arena.sound_empty
  have bounds (before : List (Machine × Operation)) := short_steps new before
  constructor
  · intro before earlier
    have within := earlier.length_le
    have count := (bounds before).1
    change _ ≤ 0 + before.length at count
    simp only [Arena.limit, halfWordLimit] at short ⊢
    omega
  · intro index
    have length := (bounds run).2
    change _ ≤ 0 + run.length at length
    exact Nat.le_trans List.countP_le_length (by omega)

/-! ## What handles name -/

/-- What can be said of the handles of a platform from its history alone. -/
structure Identified (t : Tenure) : Prop where
  /-- No handle is given out twice, those of one slot included. -/
  distinct : t.issued.Nodup
  present : ∀ h ∈ t.issued, h.isNull = false
  valid : ∀ h, t.platform.isValid h = true ↔ h ∈ t.issued ∧ h ∉ t.removed
  /-- Taking out or destructing what is not there is only noted. -/
  idle : ∀ h, t.platform.isValid h = false → ∀ m,
    t.platform.step m (.take h) = (.taken none, t.platform, m) ∧
      ∃ message, t.platform.step m (.destruct h) =
        (.released, t.platform, Platform.note m message)
  count : t.platform.count + t.removed.length = t.issued.length
  empty : t.platform.isEmpty = true ↔ t.issued.length = t.removed.length

theorem Accounted.identified (accounted : t.Accounted) : t.Identified where
  distinct := accounted.nodup
  present _ := accounted.versioned.not_null
  valid := accounted.live
  idle h invalid m := by
    have none : t.platform.arena.remove h = none := Arena.remove_eq_none_iff.2 invalid
    refine ⟨?_, ?_⟩
    · simp only [Platform.step, Platform.take_eq, none]
      rfl
    · simp only [Platform.step, Platform.destruct, none]
      exact ⟨_, rfl⟩
  count := accounted.size
  empty := by
    have size := accounted.size
    have counted : t.platform.isEmpty = true ↔ t.platform.arena.size = 0 := decide_eq_true_iff
    rw [counted]
    omega

/-- Whatever is done with a platform, on whatever machine and with whatever handles, its handles
name what its history says they do, and what is invalid stays so. -/
theorem steps_identified {d : Driver} {run : List (Machine × Operation)}
    (room : Roomy { platform := { driver := d } } run)
    (unwrapped : Unwrapped (steps { platform := { driver := d } } run).issued) :
    (steps { platform := { driver := d } } run).Identified ∧
      ∀ before after, run = before ++ after →
        ∀ h, (h.isNull = true ∨ h ∈ (steps { platform := { driver := d } } before).issued) →
          (steps { platform := { driver := d } } before).platform.isValid h = false →
            (steps { platform := { driver := d } } run).platform.isValid h = false := by
  have all := (accounted_new d).steps room unwrapped
  refine ⟨all.identified, ?_⟩
  rintro before after rfl h known invalid
  have earlier : Accounted (steps { platform := { driver := d } } before) := by
    refine (accounted_new d).steps ?_ ?_
    · intro first within
      exact room first (within.trans (List.prefix_append _ _))
    · rw [steps_append] at unwrapped
      exact unwrapped.of_prefix (prefix_steps _ after).1
  exact earlier.gone all known invalid

/-- A slot is used again, and its old handle is destructed and resized. -/
theorem steps_identified_reused :
    let t : Tenure := { platform := { driver := .blocking } }
    let first : Handle := ⟨1, 1⟩
    let run : List (Machine × Operation) :=
      [({}, .construct 2), ({}, .destruct first), ({}, .constructFrom [1, 2, 3] 2),
        ({}, .destruct first), ({}, .resize first 8), ({}, .take .invalid)]
    (t.steps run).issued = [first, ⟨1, 3⟩] ∧ t.Roomy run ∧ Unwrapped (t.steps run).issued ∧
      (t.steps run).Identified ∧
      ∀ before after, run = before ++ after →
        ∀ h, (h.isNull = true ∨ h ∈ (t.steps before).issued) →
          (t.steps before).platform.isValid h = false →
            (t.steps run).platform.isValid h = false := by
  intro t first run
  have short : run.length ≤ halfWordLimit / 2 := by decide
  obtain ⟨room, unwrapped⟩ := roomy_of_length .blocking short
  exact ⟨by decide, room, unwrapped, steps_identified room unwrapped⟩

end Tenure

end WholeFile
