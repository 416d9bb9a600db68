import WholeFile.Proofs.Payload.Composition

/-!
# What payloads show of their base

However views and references are put on top of one another, a payload shows the bytes of its base
that lie inside all windows. Each layer gives a place where its bytes begin and a number of them,
and the two go together. The bytes can be reached as long as the base reaches as far as where the
last window begins.
-/

namespace WholeFile.Payload

/-! ## Bytes inside all windows -/

/-- The bytes of the base. -/
def baseBytes : Payload → Bytes
  | buffer b => b.bytes
  | storage s => s.bytes
  | fixed bytes => bytes
  | borrowed target => target.baseBytes
  | view parent _ _ => parent.baseBytes

/-- How far in the base the payload begins, if the base reaches that far. -/
def origin : Payload → Nat
  | buffer _ | storage _ | fixed _ => 0
  | borrowed target => target.origin
  | view parent start _ => parent.origin + start

/-- Position `i` of the base is inside all windows. -/
def shows : Payload → Nat → Bool
  | buffer _, _ | storage _, _ | fixed _, _ => true
  | borrowed target, i => target.shows i
  | view parent start stop, i =>
    parent.shows i && decide (parent.origin + start ≤ i ∧ i < parent.origin + stop)

/-- The bytes of the base that are inside all windows. -/
def inside (p : Payload) : Bytes :=
  (p.baseBytes.zipIdx.filter fun x => p.shows x.2).map Prod.fst

example : (view (borrowed (view (fixed [1, 2, 3, 4, 5, 6]) 1 9)) 2 4).inside = [4, 5] := by decide

/-- How far the bytes inside all windows go. -/
def reach : Payload → Nat
  | buffer b => b.bytes.length
  | storage s => s.bytes.length
  | fixed bytes => bytes.length
  | borrowed target => target.reach
  | view parent _ stop => min parent.reach (parent.origin + stop)

theorem reach_le (p : Payload) : p.reach ≤ p.baseBytes.length := by
  induction p with
  | buffer b | storage s | fixed bytes => exact Nat.le_refl _
  | borrowed target ih => exact ih
  | view parent start stop ih => exact Nat.le_trans (Nat.min_le_left _ _) ih

theorem shows_iff {p : Payload} {i : Nat} (lt : i < p.baseBytes.length) :
    p.shows i = true ↔ p.origin ≤ i ∧ i < p.reach := by
  induction p with
  | buffer b | storage s | fixed bytes => exact ⟨fun _ => ⟨Nat.zero_le i, lt⟩, fun _ => rfl⟩
  | borrowed target ih => exact ih lt
  | view parent start stop ih =>
    rw [shows, Bool.and_eq_true, ih lt, decide_eq_true_iff, origin, reach]
    omega

/-- What is between two positions is a stretch. -/
theorem filter_between (xs : Bytes) (first past from' : Nat) :
    ((xs.zipIdx from').filter fun x => decide (first ≤ x.2 ∧ x.2 < past)).map Prod.fst =
      (xs.take (past - from')).drop (first - from') := by
  induction xs generalizing from' with
  | nil => rw [List.zipIdx_nil, List.take_nil, List.drop_nil]; rfl
  | cons x xs ih =>
    rw [List.zipIdx_cons, List.filter_cons]
    by_cases before : from' < past
    · have more : past - from' = past - (from' + 1) + 1 := by omega
      rw [more, List.take_succ_cons]
      by_cases begun : first ≤ from'
      · have none : first - from' = 0 := by omega
        have none' : first - (from' + 1) = 0 := by omega
        rw [if_pos (decide_eq_true ⟨begun, before⟩), List.map_cons, ih, none, none', List.drop_zero,
          List.drop_zero]
      · have more' : first - from' = first - (from' + 1) + 1 := by omega
        rw [if_neg (fun within => begun (of_decide_eq_true within).1), ih, more',
          List.drop_succ_cons]
    · have none : past - from' = 0 := by omega
      have none' : past - (from' + 1) = 0 := by omega
      rw [if_neg (fun within => before (of_decide_eq_true within).2), ih, none, none',
        List.take_zero, List.take_zero, List.drop_nil, List.drop_nil]

theorem inside_eq (p : Payload) : p.inside = (p.baseBytes.take p.reach).drop p.origin := by
  have same : p.baseBytes.zipIdx.filter (fun x => p.shows x.2) =
      p.baseBytes.zipIdx.filter (fun x => decide (p.origin ≤ x.2 ∧ x.2 < p.reach)) := by
    apply List.filter_congr
    intro x there
    have lt : x.2 < p.baseBytes.length := (List.mem_zipIdx' there).1
    rw [Bool.eq_iff_iff, shows_iff lt, decide_eq_true_iff]
  rw [inside, same, filter_between, Nat.sub_zero, Nat.sub_zero]

/-! ## Bytes that are reached -/

/-- What views and references come to, one on top of another, are the bytes of the base that are
inside all windows. -/
theorem eq_inside_of_bytes {p : Payload} {held : Bytes} (h : p.bytes = .ok held) :
    p.origin ≤ p.baseBytes.length ∧ held = p.inside := by
  rw [inside_eq]
  induction p generalizing held with
  | buffer b | storage s | fixed bytes =>
    cases h
    exact ⟨Nat.zero_le _, (List.take_length).symm⟩
  | borrowed target ih => exact ih h
  | view parent start stop ih =>
    rw [bytes_view] at h
    cases hp : parent.bytes with
    | error cause =>
      rw [hp] at h
      cases h
    | ok outer =>
      obtain ⟨le, rfl⟩ := ih hp
      rw [hp, Except.bind] at h
      split at h
      · next begun =>
        cases h
        have reach_le := parent.reach_le
        rw [List.length_drop, List.length_take, Nat.min_eq_left reach_le] at begun
        refine ⟨?_, ?_⟩
        · change parent.origin + start ≤ parent.baseBytes.length
          omega
        · rw [List.take_drop, List.take_take, List.drop_drop, Nat.min_comm]
          rfl
      · cases h

/-- Where the payload begins and how many bytes it has go together, though each comes from the
layers on its own. -/
theorem accessors_of_bytes {p : Payload} {held : Bytes} (h : p.bytes = .ok held) :
    p.offset = .ok p.origin ∧ p.inside = (p.baseBytes.drop p.origin).take p.initialized := by
  refine ⟨?_, ?_⟩
  · induction p generalizing held with
    | buffer b | storage s | fixed bytes => rfl
    | borrowed target ih => exact ih h
    | view parent start stop ih =>
      rw [bytes_view] at h
      cases hp : parent.bytes with
      | error cause =>
        rw [hp] at h
        cases h
      | ok outer =>
        rw [hp, Except.bind] at h
        split at h
        · next begun =>
          rw [length_bytes hp] at begun
          rw [offset, ih hp]
          exact if_pos begun
        · cases h
  · have length := length_bytes h
    obtain ⟨-, rfl⟩ := eq_inside_of_bytes h
    have reach_le := p.reach_le
    rw [inside_eq, List.length_drop, List.length_take] at length
    rw [inside_eq, List.drop_take, List.take_eq_take_iff, List.length_drop]
    omega

/-! ## Views that were put together step by step -/

/-- The payload's views and references, put on another base. -/
def rebase : Payload → Payload → Payload
  | borrowed target, base => borrowed (target.rebase base)
  | view parent start stop, base => view (parent.rebase base) start stop
  | _, base => base

/-- Resizing changes the base only. -/
theorem rebase_of_resizeBase {p q : Payload} {size : Nat} {byte : UInt8}
    (h : p.resizeBase size byte = .ok q) : ∃ base : Payload, base.Whole ∧ q = p.rebase base := by
  induction p generalizing q with
  | buffer b =>
    rw [resizeBase] at h
    split at h
    · next c _ =>
      cases h
      exact ⟨buffer c, trivial, rfl⟩
    · cases h
  | storage s =>
    rw [resizeBase] at h
    split at h
    · next t _ =>
      cases h
      exact ⟨storage t, trivial, rfl⟩
    · cases h
  | fixed bytes =>
    cases h
    exact ⟨fixed bytes, trivial, rfl⟩
  | borrowed target ih =>
    rw [resizeBase] at h
    cases ht : target.resizeBase size byte with
    | error cause =>
      rw [ht] at h
      cases h
    | ok target' =>
      rw [ht] at h
      cases h
      obtain ⟨base, whole, rfl⟩ := ih ht
      exact ⟨base, whole, rfl⟩
  | view parent start stop ih =>
    rw [resizeBase] at h
    cases hp : parent.resizeBase size byte with
    | error cause =>
      rw [hp] at h
      cases h
    | ok parent' =>
      rw [hp] at h
      cases h
      obtain ⟨base, whole, rfl⟩ := ih hp
      exact ⟨base, whole, rfl⟩

/-- The payload came about from one without views by referring to it, taking views of it, and
changing the base below them, in any order. -/
inductive Made : Payload → Prop where
  | whole {p : Payload} (whole : p.Whole) : p.Made
  | borrowed {p : Payload} (made : p.Made) : (Payload.borrowed p).Made
  | restrict {p q : Payload} {r : Range} (made : p.Made) (h : p.restrict r = .ok q) : q.Made
  /-- The base is left with whatever bytes and room. -/
  | rebase {p base : Payload} (made : p.Made) (whole : base.Whole) : (p.rebase base).Made

theorem Made.resizeBase {p q : Payload} {size : Nat} {byte : UInt8} (made : p.Made)
    (h : p.resizeBase size byte = .ok q) : q.Made := by
  obtain ⟨base, whole, rfl⟩ := rebase_of_resizeBase h
  exact made.rebase whole

/-- Each window lies in the one below it. The lowest lay in the base once. -/
def Fitted : Payload → Prop
  | buffer _ | storage _ | fixed _ => True
  | borrowed target => target.Fitted
  | view parent start stop => parent.Fitted ∧ start ≤ stop ∧ (parent.Whole ∨ stop ≤ parent.total)

theorem Whole.fitted {p : Payload} (whole : p.Whole) : p.Fitted := by
  induction p with
  | buffer b | storage s | fixed bytes => trivial
  | borrowed target ih => exact ih whole
  | view => exact whole.elim

theorem Whole.rebase {p base : Payload} (whole : p.Whole) (whole' : base.Whole) :
    (p.rebase base).Whole := by
  induction p with
  | buffer b | storage s | fixed bytes => exact whole'
  | borrowed target ih => exact ih whole
  | view => exact whole.elim

/-- How much room a view has does not depend on its base. -/
theorem total_rebase {p : Payload} (base : Payload) (shaped : ¬ p.Whole) :
    (p.rebase base).total = p.total := by
  induction p with
  | buffer b | storage s | fixed bytes => exact absurd trivial shaped
  | borrowed target ih => exact ih shaped
  | view => rfl

theorem Fitted.rebase {p base : Payload} (fitted : p.Fitted) (whole : base.Whole) :
    (p.rebase base).Fitted := by
  induction p with
  | buffer b | storage s | fixed bytes => exact whole.fitted
  | borrowed target ih => exact ih fitted
  | view parent start stop ih =>
    obtain ⟨fitted, le, inside⟩ := fitted
    refine ⟨ih fitted, le, ?_⟩
    by_cases whole' : parent.Whole
    · exact .inl (whole'.rebase whole)
    · rw [total_rebase base whole']
      exact .inr (inside.resolve_left whole')

theorem Made.fitted {p : Payload} (made : p.Made) : p.Fitted := by
  induction made with
  | whole whole => exact whole.fitted
  | borrowed made ih => exact ih
  | restrict made h ih =>
    obtain ⟨start, stop, rfl, -, le, inside⟩ := restrict_eq_ok h
    exact ⟨ih, le, .inr inside⟩
  | rebase made whole ih => exact ih.rebase whole

/-! ## When the bytes are reached -/

theorem Whole.reach_eq {p : Payload} (whole : p.Whole) : p.reach = p.baseBytes.length := by
  induction p with
  | buffer b | storage s | fixed bytes => rfl
  | borrowed target ih => exact ih whole
  | view => exact whole.elim

/-- The last window is the narrowest. -/
theorem Fitted.reach_eq {p : Payload} (fitted : p.Fitted) (shaped : ¬ p.Whole) :
    p.reach = min p.baseBytes.length (p.origin + p.total) := by
  induction p with
  | buffer b | storage s | fixed bytes => exact absurd trivial shaped
  | borrowed target ih => exact ih fitted shaped
  | view parent start stop ih =>
    obtain ⟨fitted, le, inside⟩ := fitted
    simp only [reach, baseBytes, origin, total]
    by_cases whole : parent.Whole
    · rw [whole.reach_eq]
      omega
    · rw [ih fitted whole]
      have := inside.resolve_left whole
      omega

/-- The base has to reach as far as where the last window begins, and no further. -/
theorem Fitted.bytes_of_le {p : Payload} (fitted : p.Fitted) (le : p.origin ≤ p.baseBytes.length) :
    p.bytes = .ok p.inside := by
  suffices reached : ∃ held, p.bytes = .ok held by
    obtain ⟨held, h⟩ := reached
    rw [h, (eq_inside_of_bytes h).2]
  induction p with
  | buffer b | storage s | fixed bytes => exact ⟨_, rfl⟩
  | borrowed target ih => exact ih fitted le
  | view parent start stop ih =>
    obtain ⟨fitted, start_le, inside⟩ := fitted
    have le : parent.origin + start ≤ parent.baseBytes.length := le
    obtain ⟨outer, hp⟩ := ih fitted (by omega)
    have reaches : parent.origin + start ≤ parent.reach := by
      by_cases whole : parent.Whole
      · rw [whole.reach_eq]
        exact le
      · rw [fitted.reach_eq whole]
        have := inside.resolve_left whole
        omega
    have begun : start ≤ outer.length := by
      have reach_le := parent.reach_le
      rw [(eq_inside_of_bytes hp).2, inside_eq, List.length_drop, List.length_take]
      omega
    exact ⟨_, by rw [bytes_view, hp, Except.bind, if_pos begun]⟩

theorem eq_outOfBounds_of_bytes {p : Payload} {cause : Abort} (h : p.bytes = .error cause) :
    cause = .outOfBounds := by
  induction p with
  | buffer b | storage s | fixed bytes => cases h
  | borrowed target ih => exact ih h
  | view parent start stop ih =>
    rw [bytes_view] at h
    cases hp : parent.bytes with
    | error cause' =>
      rw [hp] at h
      cases h
      exact ih hp
    | ok outer =>
      rw [hp, Except.bind] at h
      split at h
      · cases h
      · cases h
        rfl

theorem bytes_of_lt {p : Payload} (short : p.baseBytes.length < p.origin) :
    p.bytes = .error .outOfBounds := by
  cases h : p.bytes with
  | ok held => exact absurd (eq_inside_of_bytes h).1 (Nat.not_le.2 short)
  | error cause => rw [eq_outOfBounds_of_bytes h]

end WholeFile.Payload
