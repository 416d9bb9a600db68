import Mathlib
import WholeFile.Payload

/-!
# Views of views

However many ranges are applied one after another, the last view is one window on the first
payload. Each level is held to the bytes of its parent that have a value, and to the parent's
room, which spare capacity makes larger.
-/

namespace WholeFile.Payload

/-! ## Every payload -/

theorem initialized_le_total (p : Payload) : p.initialized ≤ p.total := by
  induction p with
  | buffer b => exact Nat.le_refl _
  | storage s => exact s.length_le
  | fixed bytes => exact Nat.le_refl _
  | borrowed target ih => exact ih
  | view parent start stop ih =>
    simp only [initialized, total]
    omega

/-- What is written first is what is read first. -/
theorem writeOffset_eq_offset (p : Payload) : p.writeOffset = p.offset := by
  induction p with
  | buffer b | storage s | fixed bytes => rfl
  | borrowed target ih => exact ih
  | view parent start stop ih =>
    have within : max start (min stop parent.initialized) ≤ parent.initialized ↔
        start ≤ parent.initialized := by omega
    simp only [writeOffset, offset, ih, within]

/-! ## Bounds within bounds -/

/-- Views one within another, outermost first. -/
def nested (p : Payload) (levels : List (Nat × Nat)) : Payload :=
  levels.foldl (fun q l => view q l.1 l.2) p

/-- How far in the last of the views begins. -/
def begins (levels : List (Nat × Nat)) : Nat := (levels.map Prod.fst).sum

/-- How far in the last of the views ends, for a payload of `total` bytes. -/
def ends (total : Nat) (levels : List (Nat × Nat)) : Nat :=
  match levels.getLast? with
  | none => total
  | some last => begins levels.dropLast + last.2

example : begins [(1, 9), (2, 6), (0, 3)] = 3 ∧ ends 10 [(1, 9), (2, 6), (0, 3)] = 6 := by decide

variable (p : Payload) (levels : List (Nat × Nat)) (start stop : Nat)

theorem nested_concat : p.nested (levels ++ [(start, stop)]) = view (p.nested levels) start stop := by
  simp [nested]

theorem begins_concat : begins (levels ++ [(start, stop)]) = begins levels + start := by
  simp [begins]

theorem ends_concat (total : Nat) :
    ends total (levels ++ [(start, stop)]) = begins levels + stop := by
  simp [ends]

variable {p levels start stop}

theorem base_nested : (p.nested levels).base = p.base := by
  induction levels generalizing p with
  | nil => rfl
  | cons l levels ih => exact ih

/-- The views show the bytes of `p` from where the last one begins to where it ends. -/
structure Spans (p : Payload) (levels : List (Nat × Nat)) : Prop where
  begins_le : begins levels ≤ p.initialized
  begins_le_ends : begins levels ≤ ends p.total levels
  ends_le : ends p.total levels ≤ p.total
  initialized :
    (p.nested levels).initialized = min (ends p.total levels) p.initialized - begins levels
  total : (p.nested levels).total = ends p.total levels - begins levels
  bytes : ∀ held, p.bytes = .ok held →
    (p.nested levels).bytes = .ok ((held.take (ends p.total levels)).drop (begins levels))
  offset : ∀ at', p.offset = .ok at' → (p.nested levels).offset = .ok (at' + begins levels)
  overwrite : ∀ pos bytes, pos + bytes.length ≤ (p.nested levels).initialized →
    (p.nested levels).overwrite? pos bytes =
      (p.overwrite? (begins levels + pos) bytes).map (nested · levels)

theorem spans_nil (p : Payload) : p.Spans [] where
  begins_le := Nat.zero_le _
  begins_le_ends := Nat.zero_le _
  ends_le := Nat.le_refl _
  initialized := (Nat.min_eq_right p.initialized_le_total).symm
  total := rfl
  bytes held h := by
    have short : held.length ≤ p.total := length_bytes h ▸ p.initialized_le_total
    rw [ends, List.getLast?_nil, List.take_of_length_le short]
    exact h
  offset _ h := h
  overwrite pos bytes _ := by
    rw [begins, List.map_nil, List.sum_nil, Nat.zero_add]
    exact Option.map_id'.symm

/-- One more view, which begins at a byte with a value and ends inside the last one. -/
theorem Spans.concat (spans : p.Spans levels) (begun : start ≤ (p.nested levels).initialized)
    (le : start ≤ stop) (inside : stop ≤ (p.nested levels).total) :
    p.Spans (levels ++ [(start, stop)]) := by
  obtain ⟨begins_le, begins_le_ends, ends_le, initialized, total, bytes, offset, overwrite⟩ := spans
  rw [initialized] at begun
  rw [total] at inside
  have initialized' : (view (p.nested levels) start stop).initialized =
      min (begins levels + stop) p.initialized - (begins levels + start) := by
    simp only [Payload.initialized, initialized]
    omega
  constructor <;> simp only [nested_concat, begins_concat, ends_concat]
  case begins_le => omega
  case begins_le_ends => omega
  case ends_le => omega
  case initialized => exact initialized'
  case total =>
    simp only [Payload.total]
    omega
  case bytes =>
    intro held h
    have length : held.length = p.initialized := length_bytes h
    have reached : start ≤ ((held.take (ends p.total levels)).drop (begins levels)).length := by
      rw [List.length_drop, List.length_take]
      omega
    rw [bytes_view, bytes held h, Except.bind, if_pos reached, List.take_drop, List.take_take,
      List.drop_drop, Nat.min_eq_left (by omega)]
  case offset =>
    intro at' h
    simp only [Payload.offset, offset at' h, initialized]
    rw [← Nat.add_assoc]
    exact if_pos begun
  case overwrite =>
    intro pos written fits
    have fits' := fits
    rw [initialized'] at fits
    rw [overwrite?, if_pos fits', overwrite (start + pos) written (by omega), Nat.add_assoc,
      Option.map_map]
    rfl

theorem restrict_eq_ok {p q : Payload} {r : Range} (h : p.restrict r = .ok q) :
    ∃ start stop, q = view p start stop ∧ start ≤ p.initialized ∧ start ≤ stop ∧
      stop ≤ p.total := by
  unfold restrict at h
  cases hf : r.first with
  | error e =>
    rw [hf] at h
    cases h
  | ok start =>
    cases hp : r.past p.total with
    | error e =>
      rw [hf, hp] at h
      cases h
    | ok stop =>
      rw [hf, hp] at h
      obtain ⟨begun, le, inside, rfl⟩ := window_eq_ok_iff.1 h
      exact ⟨start, stop, rfl, begun, le, inside⟩

/-- Ranges applied one after another give a view each. -/
theorem restrictAll_eq_ok {p q : Payload} {rs : List Range} {done : List (Nat × Nat)}
    (spans : p.Spans done) (h : (p.nested done).restrictAll rs = .ok q) :
    ∃ levels, levels.length = rs.length ∧ q = p.nested (done ++ levels) ∧
      p.Spans (done ++ levels) ∧
      ∀ i (lt : i < rs.length), (p.nested (done ++ levels.take i)).restrict rs[i] =
        .ok (p.nested (done ++ levels.take (i + 1))) := by
  induction rs generalizing done with
  | nil =>
    cases h
    refine ⟨[], rfl, ?_, ?_, nofun⟩
    · rw [List.append_nil]
    · rwa [List.append_nil]
  | cons r rs ih =>
    unfold restrictAll at h
    rw [List.foldlM_cons] at h
    cases hr : (p.nested done).restrict r with
    | error e =>
      rw [hr] at h
      cases h
    | ok inner =>
      rw [hr] at h
      obtain ⟨start, stop, rfl, begun, le, inside⟩ := restrict_eq_ok hr
      rw [← nested_concat] at h hr
      obtain ⟨levels, length, last, spans', each⟩ := ih (spans.concat begun le inside) h
      rw [List.append_assoc] at last spans'
      refine ⟨(start, stop) :: levels, congrArg (· + 1) length, last, spans', ?_⟩
      intro i lt
      cases i with
      | zero =>
        rw [List.take_zero, List.append_nil]
        exact hr
      | succ i =>
        have := each i (Nat.lt_of_succ_lt_succ lt)
        rwa [List.append_assoc, List.append_assoc] at this

/-! ## Payloads that are no views -/

/-- There is no view in the payload, only references. -/
def Whole : Payload → Prop
  | buffer _ | storage _ | fixed _ => True
  | borrowed target => target.Whole
  | view _ _ _ => False

theorem Whole.bytes_eq_ok {p : Payload} (whole : p.Whole) : ∃ held, p.bytes = .ok held := by
  induction p with
  | buffer b | storage s | fixed bytes => exact ⟨_, rfl⟩
  | borrowed target ih => exact ih whole
  | view => exact whole.elim

theorem Whole.offset_eq {p : Payload} (whole : p.Whole) : p.offset = .ok 0 := by
  induction p with
  | buffer b | storage s | fixed bytes => rfl
  | borrowed target ih => exact ih whole
  | view => exact whole.elim

/-- Writing over bytes with a value changes those and nothing else. -/
theorem Whole.overwrite?_of_le {p : Payload} (whole : p.Whole) {held bytes : Bytes} {pos : Nat}
    (h : p.bytes = .ok held) (fits : pos + bytes.length ≤ held.length) :
    ∃ p', p.overwrite? pos bytes = some p' ∧ p'.bytes = .ok (held.spliced pos bytes) ∧
      p'.total = p.total := by
  induction p with
  | buffer b =>
    cases h
    cases hb : b.overwrite? pos bytes with
    | none => exact absurd (Buffer.overwrite?_eq_none_iff.1 hb) (Nat.not_lt.2 fits)
    | some b' =>
      obtain ⟨-, written⟩ := Buffer.overwrite?_eq_some hb
      refine ⟨buffer b', by simp only [overwrite?, hb, Option.map_some], congrArg _ written, ?_⟩
      change b'.bytes.length = b.bytes.length
      rw [written, Bytes.length_spliced_of_le fits]
  | storage s =>
    cases h
    have there : s.overwrite? pos bytes = some (s.replace (s.bytes.spliced pos bytes)
        (Bytes.length_spliced_of_le fits)) := dif_pos fits
    exact ⟨storage (s.replace (s.bytes.spliced pos bytes) (Bytes.length_spliced_of_le fits)),
      congrArg (Option.map storage) there, rfl, rfl⟩
  | fixed held =>
    cases h
    exact ⟨fixed _, if_pos fits, rfl, Bytes.length_spliced_of_le fits⟩
  | borrowed target ih =>
    obtain ⟨p', there, bytes', total'⟩ := ih whole h
    exact ⟨borrowed p', by simp only [overwrite?, there, Option.map_some], bytes', total'⟩
  | view => exact whole.elim

/-! ## One view for many -/

theorem overwrite?_of_lt {p : Payload} {pos : Nat} {bytes : Bytes}
    (past : p.initialized < pos + bytes.length) : p.overwrite? pos bytes = none := by
  induction p with
  | buffer b => exact congrArg (Option.map buffer) (Buffer.overwrite?_eq_none_iff.2 past)
  | storage s => exact congrArg (Option.map storage) (Storage.overwrite?_eq_none_iff.2 past)
  | fixed held => exact if_neg (Nat.not_le.2 past)
  | borrowed target ih => exact congrArg (Option.map borrowed) (ih past)
  | view parent start stop => exact if_neg (Nat.not_le.2 past)

/-- Both show the same bytes of the same base, and writing through either does the same to it. -/
structure Alike (p q : Payload) : Prop where
  initialized : p.initialized = q.initialized
  total : p.total = q.total
  bytes : p.bytes = q.bytes
  offset : p.offset = q.offset
  overwrite : ∀ pos bytes, (p.overwrite? pos bytes).map base = (q.overwrite? pos bytes).map base

theorem Spans.alike (spans : p.Spans levels) (whole : p.Whole) :
    (p.nested levels).Alike (view p (begins levels) (ends p.total levels)) := by
  obtain ⟨begins_le, begins_le_ends, ends_le, initialized, total, bytes, offset, overwrite⟩ := spans
  obtain ⟨held, there⟩ := whole.bytes_eq_ok
  have same : (p.nested levels).initialized =
      (view p (begins levels) (ends p.total levels)).initialized := by
    rw [initialized, Payload.initialized]
    omega
  refine ⟨same, total, ?_, ?_, ?_⟩
  · have begun : begins levels ≤ held.length := length_bytes there ▸ begins_le
    rw [bytes held there, bytes_view, there, Except.bind, if_pos begun]
  · rw [offset 0 whole.offset_eq]
    simp only [Payload.offset, whole.offset_eq]
    exact (if_pos begins_le).symm
  · intro pos written
    by_cases fits : pos + written.length ≤ (p.nested levels).initialized
    · rw [overwrite pos written fits, overwrite?, if_pos (same ▸ fits), Option.map_map,
        Option.map_map]
      congr 1
      funext p'
      exact base_nested
    · rw [overwrite?_of_lt (Nat.not_le.1 fits), overwrite?_of_lt (same ▸ Nat.not_le.1 fits)]

/-- The ranges give the view `q` of `p`, whose bytes are `held`, and each range the bounds of its
level. That view is the one that a single range would give. -/
structure Composes (p : Payload) (rs : List Range) (q : Payload) (levels : List (Nat × Nat))
    (held : Bytes) : Prop where
  length : levels.length = rs.length
  last : q = p.nested levels
  each : ∀ i (lt : i < rs.length),
    (p.nested (levels.take i)).restrict rs[i] = .ok (p.nested (levels.take (i + 1)))
  whole : p.bytes = .ok held
  begins_le : begins levels ≤ p.initialized
  begins_le_ends : begins levels ≤ ends p.total levels
  ends_le : ends p.total levels ≤ p.total
  bytes : q.bytes = .ok ((held.take (min (ends p.total levels) p.initialized)).drop (begins levels))
  offset : q.offset = .ok (begins levels)
  total : q.total = ends p.total levels - begins levels
  initialized : q.initialized = min (ends p.total levels) p.initialized - begins levels
  initialized_le : q.initialized ≤ q.total
  /-- The single range does not abort either. -/
  single : p.window (begins levels) (ends p.total levels) =
    .ok (view p (begins levels) (ends p.total levels))
  alike : q.Alike (view p (begins levels) (ends p.total levels))
  writeOffset : ∀ i, (p.nested (levels.take i)).writeOffset = (p.nested (levels.take i)).offset
  /-- What is written through the view lands where the view begins, and nowhere else. -/
  write : ∀ written : Bytes, written.length ≤ q.initialized →
    ∃ p' : Payload, q.write 0 written = .ok (some (p'.nested levels)) ∧
      p'.bytes = .ok (held.take (begins levels) ++ written ++
        held.drop (begins levels + written.length)) ∧
      p'.initialized = p.initialized ∧ p'.total = p.total

/-- However many ranges are applied one after another, if none aborts, the view that they give is
one window on the payload. -/
theorem restrictAll_composes {p q : Payload} {rs : List Range} (whole : p.Whole)
    (h : p.restrictAll rs = .ok q) : ∃ levels held, p.Composes rs q levels held := by
  obtain ⟨levels, length, last, spans, each⟩ := restrictAll_eq_ok p.spans_nil h
  simp only [List.nil_append] at last spans each
  subst last
  obtain ⟨held, there⟩ := whole.bytes_eq_ok
  have size : held.length = p.initialized := length_bytes there
  have bytes := spans.bytes held there
  rw [List.take_eq_take_min, size] at bytes
  have offset := spans.offset 0 whole.offset_eq
  rw [Nat.zero_add] at offset
  refine ⟨levels, held, length, rfl, each, there, spans.begins_le, spans.begins_le_ends,
    spans.ends_le, bytes, offset, spans.total, spans.initialized, initialized_le_total _, ?_,
    spans.alike whole, fun i => writeOffset_eq_offset _, ?_⟩
  · exact window_eq_ok_iff.2 ⟨spans.begins_le, spans.begins_le_ends, spans.ends_le, rfl⟩
  · intro written fits
    have within := spans.initialized ▸ fits
    have begins_le := spans.begins_le
    have inside : begins levels + written.length ≤ held.length := by omega
    obtain ⟨p', there', bytes', total'⟩ := whole.overwrite?_of_le there inside
    have through := spans.overwrite 0 written (by omega)
    rw [Nat.add_zero, there'] at through
    refine ⟨p', ?_, ?_, ?_, total'⟩
    · unfold write
      rw [bytes]
      exact congrArg Except.ok through
    · rw [bytes', Bytes.spliced_of_le written (by omega)]
    · rw [← length_bytes bytes', Bytes.length_spliced_of_le (by omega), size]

/-- Three ranges on bytes with spare room behind them, which the last view reaches into. -/
theorem restrictAll_composes_spare :
    let p : Payload := .borrowed (.storage ⟨[1, 2, 3, 4, 5], 8, by decide, by decide⟩)
    let rs : List Range := [⟨.included 1, .unbounded⟩, ⟨.unbounded, .excluded 6⟩,
      ⟨.excluded 1, .included 4⟩]
    let q := p.nested [(1, 8), (0, 6), (2, 5)]
    p.Whole ∧ p.restrictAll rs = .ok q ∧ q.bytes = .ok [4, 5] ∧ q.total = 3 ∧
      ∃ levels held, p.Composes rs q levels held := by
  intro p rs q
  have whole : p.Whole := trivial
  have given : p.restrictAll rs = .ok q := rfl
  exact ⟨whole, given, rfl, rfl, restrictAll_composes whole given⟩

end WholeFile.Payload
