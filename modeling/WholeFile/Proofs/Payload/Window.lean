import WholeFile.Proofs.Payload.Composition

/-!
# Views of a base that changes

A view that owns its base stays in place while the base below it is resized and written to. It
shows what the base has inside the window at that time. While the base ends before the window
begins, nothing can be reached through the view, and all is there again once the base has grown
back.
-/

namespace WholeFile.Payload

/-! ## Bases that are owned -/

/-- The payload is a buffer or growable storage itself. -/
def Owned : Payload → Prop
  | buffer _ | storage _ => True
  | _ => False

variable {base base' : Payload} {held bytes : Bytes} {start stop pos size : Nat} {byte : UInt8}

theorem Owned.whole (owned : base.Owned) : base.Whole := by
  cases base with
  | buffer b | storage s => trivial
  | fixed bytes | borrowed target | view parent start stop => exact owned.elim

theorem Owned.of_overwrite? (owned : base.Owned) (h : base.overwrite? pos bytes = some base') :
    base'.Owned := by
  cases base with
  | buffer b | storage s =>
    obtain ⟨_, _, rfl⟩ := Option.map_eq_some_iff.1 h
    trivial
  | fixed bytes | borrowed target | view parent start stop => exact owned.elim

/-- What a base is filled up with when it grows. A buffer has zero bytes only. -/
def growth (byte : UInt8) : Payload → UInt8
  | buffer _ => 0
  | _ => byte

theorem Owned.resizeBase_of_lt (owned : base.Owned) (h : base.bytes = .ok held)
    (fits : size < grantLimit) (byte : UInt8) :
    ∃ base', base.resizeBase size byte = .ok base' ∧ base'.Owned ∧
      base'.bytes = .ok (held.resized size (base.growth byte)) := by
  cases base with
  | buffer b =>
    cases h
    obtain ⟨c, hc⟩ := Buffer.resize_eq_ok_iff.2 fits
    exact ⟨buffer c, by simp only [resizeBase, hc], trivial, congrArg _ (Buffer.resize_eq_ok hc)⟩
  | storage s =>
    cases h
    cases hs : s.resize size byte with
    | error e =>
      have refused := Storage.resize_eq_error_iff.1 hs
      rw [refusal?_eq_none_iff.2 fits] at refused
      cases refused
    | ok t =>
      refine ⟨storage t, ?_, trivial, congrArg _ (Storage.resize_eq_ok hs)⟩
      simp only [resizeBase, hs]
  | fixed bytes | borrowed target | view parent start stop => exact owned.elim

theorem Owned.resizeBase_of_ge (owned : base.Owned) (large : grantLimit ≤ size) (byte : UInt8) :
    ∃ cause, base.resizeBase size byte = .error cause := by
  obtain ⟨e, he⟩ := exists_refusal large
  cases base with
  | buffer b =>
    refine ⟨.error (.alloc e), ?_⟩
    simp only [resizeBase, Buffer.resize_eq_error_iff.2 he]
  | storage s =>
    refine ⟨.abort .capacityOverflow, ?_⟩
    simp only [resizeBase, Storage.resize_eq_error_iff.2 he]
  | fixed bytes | borrowed target | view parent start stop => exact owned.elim

/-! ## Through a window that the base reaches -/

theorem initialized_view_of_le (le : start ≤ stop) (h : base.bytes = .ok held)
    (reaches : start ≤ held.length) :
    (view base start stop).initialized = min stop held.length - start := by
  rw [initialized, ← length_bytes h]
  omega

theorem bytes_view_of_le (h : base.bytes = .ok held) (reaches : start ≤ held.length) :
    (view base start stop).bytes = .ok ((held.take (min stop held.length)).drop start) := by
  rw [bytes_view, h, Except.bind, if_pos reaches, ← List.take_eq_take_min]

/-- What is written through the window is written to the base, at the same distance from where the
window begins. -/
theorem overwrite?_view (whole : base.Whole) (le : start ≤ stop) (h : base.bytes = .ok held)
    (reaches : start ≤ held.length) (fits : pos + bytes.length ≤ min stop held.length - start) :
    ∃ base', base.overwrite? (start + pos) bytes = some base' ∧
      (view base start stop).overwrite? pos bytes = some (view base' start stop) ∧
      base'.bytes =
        .ok (held.take (start + pos) ++ bytes ++ held.drop (start + pos + bytes.length)) := by
  have inside : start + pos + bytes.length ≤ held.length := by omega
  obtain ⟨base', written, bytes', -⟩ := whole.overwrite?_of_le h inside
  refine ⟨base', written, ?_, ?_⟩
  · rw [overwrite?, initialized_view_of_le le h reaches, if_pos fits, written, Option.map_some]
  · rw [bytes', Bytes.spliced_of_le bytes (by omega)]

theorem write_view (whole : base.Whole) (le : start ≤ stop) (h : base.bytes = .ok held)
    (reaches : start ≤ held.length) (fits : pos + bytes.length ≤ min stop held.length - start) :
    ∃ base', base.overwrite? (start + pos) bytes = some base' ∧
      (view base start stop).write pos bytes = .ok (some (view base' start stop)) ∧
      base'.bytes =
        .ok (held.take (start + pos) ++ bytes ++ held.drop (start + pos + bytes.length)) := by
  obtain ⟨base', written, through, bytes'⟩ := overwrite?_view whole le h reaches fits
  refine ⟨base', written, ?_, bytes'⟩
  rw [write, bytes_view_of_le h reaches, ← through]
  rfl

theorem write_view_of_lt (le : start ≤ stop) (h : base.bytes = .ok held)
    (reaches : start ≤ held.length) (past : min stop held.length - start < pos + bytes.length) :
    (view base start stop).write pos bytes = .ok none := by
  rw [← initialized_view_of_le le h reaches] at past
  rw [write, bytes_view_of_le h reaches, ← overwrite?_of_lt past]
  rfl

theorem fill_view (whole : base.Whole) (le : start ≤ stop) (h : base.bytes = .ok held)
    (reaches : start ≤ held.length) (byte : UInt8) :
    ∃ base', (∃ bytes, base.overwrite? start bytes = some base') ∧
      (view base start stop).fill byte = .ok (view base' start stop) ∧
      base'.bytes = .ok (held.take start ++ List.replicate (min stop held.length - start) byte ++
        held.drop (min stop held.length)) := by
  have length : ((held.take (min stop held.length)).drop start).length =
      min stop held.length - start := by
    rw [List.length_drop, List.length_take, Nat.min_assoc, Nat.min_self]
  have fits : 0 + (List.replicate (min stop held.length - start) byte).length ≤
      min stop held.length - start := by
    rw [List.length_replicate, Nat.zero_add]
  obtain ⟨base', written, through, bytes'⟩ := overwrite?_view whole le h reaches fits
  rw [Nat.add_zero] at written bytes'
  refine ⟨base', ⟨_, written⟩, ?_, ?_⟩
  · rw [fill, bytes_view_of_le h reaches]
    change Except.ok (((view base start stop).overwrite? 0 (List.map _ _)).getD _) = _
    rw [List.map_const', length, through, Option.getD_some]
  · have past : start + (min stop held.length - start) = min stop held.length := by omega
    rw [bytes', List.length_replicate, past]

/-- A view of the view shows what the base has inside both windows. -/
theorem restrict_view {r : Range} {inner : Payload} (le : start ≤ stop) (h : base.bytes = .ok held)
    (reaches : start ≤ held.length)
    (hr : (borrowed (view base start stop)).restrict r = .ok inner) :
    ∃ first past, r.first = .ok first ∧ r.past (stop - start) = .ok past ∧
      inner = view (borrowed (view base start stop)) first past ∧
      inner.bytes = .ok ((held.take (min (start + past) held.length)).drop (start + first)) := by
  unfold restrict at hr
  cases hf : r.first with
  | error e =>
    rw [hf] at hr
    cases hr
  | ok first =>
    cases hp : r.past (stop - start) with
    | error e =>
      have hp' : r.past (borrowed (view base start stop)).total = .error e := hp
      rw [hf, hp'] at hr
      cases hr
    | ok past =>
      have hp' : r.past (borrowed (view base start stop)).total = .ok past := hp
      rw [hf, hp'] at hr
      obtain ⟨begun, -, inside, rfl⟩ := window_eq_ok_iff.1 hr
      have begun : first ≤ (view base start stop).initialized := begun
      have inside : past ≤ stop - start := inside
      rw [initialized_view_of_le le h reaches] at begun
      refine ⟨first, past, rfl, rfl, rfl, ?_⟩
      have shown : (borrowed (view base start stop)).bytes =
          .ok ((held.take (min stop held.length)).drop start) := bytes_view_of_le h reaches
      have reached : first ≤ ((held.take (min stop held.length)).drop start).length := by
        rw [List.length_drop, List.length_take]
        omega
      rw [bytes_view, shown, Except.bind, if_pos reached, List.take_drop, List.take_take,
        List.drop_drop]
      congr 3
      omega

/-! ## Through a window that the base ends before -/

/-- Nothing is reached through the view: each access to its bytes is broken off. -/
structure Lost (v : Payload) : Prop where
  initialized : v.initialized = 0
  bytes : v.bytes = .error .outOfBounds
  offset : v.offset = .error .outOfBounds
  writeOffset : v.writeOffset = .error .outOfBounds
  fill : ∀ byte, v.fill byte = .error .outOfBounds
  write : ∀ pos bytes, v.write pos bytes = .error .outOfBounds

theorem Lost.of_bytes {v : Payload} (initialized : v.initialized = 0)
    (bytes : v.bytes = .error .outOfBounds) (offset : v.offset = .error .outOfBounds) : v.Lost where
  initialized := initialized
  bytes := bytes
  offset := offset
  writeOffset := by rw [writeOffset_eq_offset, offset]
  fill byte := by
    rw [Payload.fill, bytes]
    rfl
  write pos written := by
    rw [Payload.write, bytes]
    rfl

theorem lost_view (whole : base.Whole) (h : base.bytes = .ok held) (short : held.length < start) :
    (view base start stop).Lost := by
  apply Lost.of_bytes
  · rw [initialized, ← length_bytes h]
    omega
  · rw [bytes_view, h, Except.bind, if_neg (Nat.not_le.2 short)]
  · simp only [offset, whole.offset_eq, ← length_bytes h]
    exact if_neg (Nat.not_le.2 short)

/-- A view of a view through which nothing is reached is no better. -/
theorem Lost.restrict {v inner : Payload} {r : Range} (lost : v.Lost)
    (hr : (borrowed v).restrict r = .ok inner) : inner.Lost := by
  obtain ⟨first, past, rfl, begun, le, -⟩ := restrict_eq_ok hr
  have none : (borrowed v).initialized = 0 := lost.initialized
  apply Lost.of_bytes
  · rw [Payload.initialized, none]
    omega
  · rw [bytes_view, show (borrowed v).bytes = .error .outOfBounds from lost.bytes]
    rfl
  · simp only [Payload.offset, lost.offset]
    rfl

/-! ## One view for good -/

/-- What is done with a view that owns its base. -/
inductive Act where
  /-- Resizes the base below. -/
  | resize (size : Nat) (byte : UInt8)
  | fill (byte : UInt8)
  | write (pos : Nat) (bytes : Bytes)
  /-- Takes a view of the view, which only borrows it. -/
  | restrict (r : Range)

/-- The view after it. Where nothing comes back, the view is as it was. -/
def act (v : Payload) : Act → Payload
  | .resize size byte => (v.resizeBase size byte).toOption.getD v
  | .fill byte => (v.fill byte).toOption.getD v
  | .write pos bytes => (v.write pos bytes).toOption.join.getD v
  | .restrict _ => v

/-- What the view from `start` up to `stop` is good for while its base, which holds `held`, reaches
as far as where the view begins. -/
structure Reaching (base : Payload) (held : Bytes) (start stop : Nat) : Prop where
  initialized : (view base start stop).initialized = min stop held.length - start
  bytes : (view base start stop).bytes = .ok ((held.take (min stop held.length)).drop start)
  fill : ∀ byte, ∃ base', (view base start stop).fill byte = .ok (view base' start stop) ∧
    base'.initialized = held.length ∧
    base'.bytes = .ok (held.take start ++ List.replicate (min stop held.length - start) byte ++
      held.drop (min stop held.length))
  write : ∀ pos bytes, pos + bytes.length ≤ min stop held.length - start →
    ∃ base', (view base start stop).write pos bytes = .ok (some (view base' start stop)) ∧
      base'.initialized = held.length ∧
      base'.bytes =
        .ok (held.take (start + pos) ++ bytes ++ held.drop (start + pos + bytes.length))
  pastEnd : ∀ pos bytes, min stop held.length - start < pos + bytes.length →
    (view base start stop).write pos bytes = .ok none
  restrict : ∀ r inner, (borrowed (view base start stop)).restrict r = .ok inner →
    ∃ first past, r.first = .ok first ∧ r.past (stop - start) = .ok past ∧
      inner = view (borrowed (view base start stop)) first past ∧
      inner.bytes = .ok ((held.take (min (start + past) held.length)).drop (start + first))

/-- What the view from `start` up to `stop` is good for while its base holds `held`. -/
structure Windowed (base : Payload) (held : Bytes) (start stop : Nat) : Prop where
  holds : base.bytes = .ok held
  total : (view base start stop).total = stop - start
  initialized_le : (view base start stop).initialized ≤ (view base start stop).total
  reaching : start ≤ held.length → Reaching base held start stop
  lost : held.length < start → (view base start stop).Lost ∧
    ∀ r inner, (borrowed (view base start stop)).restrict r = .ok inner → inner.Lost
  /-- While nothing can be reached, nothing but a new size changes the base. -/
  kept : held.length < start → ∀ a, (∀ size byte, a ≠ .resize size byte) →
    (view base start stop).act a = view base start stop
  granted : ∀ size byte, size < grantLimit →
    ∃ base', (view base start stop).resizeBase size byte = .ok (view base' start stop) ∧
      base'.bytes = .ok (held.resized size (base.growth byte))
  refused : ∀ size byte, grantLimit ≤ size →
    (∃ cause, (view base start stop).resizeBase size byte = .error cause) ∧
      (view base start stop).act (.resize size byte) = view base start stop

theorem Owned.reaching (owned : base.Owned) (le : start ≤ stop) (h : base.bytes = .ok held)
    (reaches : start ≤ held.length) : Reaching base held start stop where
  initialized := initialized_view_of_le le h reaches
  bytes := bytes_view_of_le h reaches
  fill byte := by
    obtain ⟨base', -, filled, bytes⟩ := fill_view owned.whole le h reaches byte
    refine ⟨base', filled, ?_, bytes⟩
    rw [← length_bytes bytes, List.length_append, List.length_append, List.length_take,
      List.length_replicate, List.length_drop]
    omega
  write pos written fits := by
    obtain ⟨base', -, through, bytes⟩ := write_view owned.whole le h reaches fits
    refine ⟨base', through, ?_, bytes⟩
    rw [← length_bytes bytes, List.length_append, List.length_append, List.length_take,
      List.length_drop]
    omega
  pastEnd _ _ := write_view_of_lt le h reaches
  restrict _ _ := restrict_view le h reaches

theorem act_resize_of_ge (owned : base.Owned) (large : grantLimit ≤ size) (byte : UInt8) :
    (∃ cause, (view base start stop).resizeBase size byte = .error cause) ∧
      (view base start stop).act (.resize size byte) = view base start stop := by
  obtain ⟨cause, refused⟩ := owned.resizeBase_of_ge large byte
  have refused' : (view base start stop).resizeBase size byte = .error cause := by
    rw [resizeBase, refused]
    rfl
  refine ⟨⟨cause, refused'⟩, ?_⟩
  rw [act, refused']
  rfl

theorem Lost.act {v : Payload} (lost : v.Lost) {a : Act}
    (other : ∀ size byte, a ≠ .resize size byte) : v.act a = v := by
  cases a with
  | resize size byte => exact absurd rfl (other size byte)
  | fill byte =>
    rw [Payload.act, lost.fill]
    rfl
  | write pos bytes =>
    rw [Payload.act, lost.write]
    rfl
  | restrict r => rfl

theorem Owned.windowed (owned : base.Owned) (le : start ≤ stop) :
    ∃ held, Windowed base held start stop := by
  obtain ⟨held, h⟩ := owned.whole.bytes_eq_ok
  refine ⟨held, h, rfl, initialized_le_total _, owned.reaching le h, ?_, ?_, ?_, ?_⟩
  · intro short
    have lost : (view base start stop).Lost := lost_view owned.whole h short
    exact ⟨lost, fun r inner => lost.restrict⟩
  · exact fun short a => (lost_view owned.whole h short).act
  · intro size byte fits
    obtain ⟨base', resized, -, bytes⟩ := owned.resizeBase_of_lt h fits byte
    refine ⟨base', ?_, bytes⟩
    rw [resizeBase, resized]
    rfl
  · exact fun size byte large => act_resize_of_ge owned large byte

/-- Whatever is done, the window stays where it is, and the base stays what it is. -/
theorem Owned.act (owned : base.Owned) (le : start ≤ stop) (a : Act) :
    ∃ base', (view base start stop).act a = view base' start stop ∧ base'.Owned := by
  obtain ⟨held, h⟩ := owned.whole.bytes_eq_ok
  have unchanged : ∃ base', view base start stop = view base' start stop ∧ base'.Owned :=
    ⟨base, rfl, owned⟩
  cases a with
  | resize size byte =>
    rcases Nat.lt_or_ge size grantLimit with fits | large
    · obtain ⟨base', resized, owned', -⟩ := owned.resizeBase_of_lt h fits byte
      refine ⟨base', ?_, owned'⟩
      rw [Payload.act, resizeBase, resized]
      rfl
    · rw [(act_resize_of_ge owned large byte).2]
      exact unchanged
  | fill byte =>
    rcases Nat.lt_or_ge held.length start with short | reaches
    · rw [(lost_view owned.whole h short).act fun _ _ => Act.noConfusion]
      exact unchanged
    · obtain ⟨base', ⟨_, written⟩, filled, -⟩ := fill_view owned.whole le h reaches byte
      rw [Payload.act, filled]
      exact ⟨base', rfl, owned.of_overwrite? written⟩
  | write pos bytes =>
    rcases Nat.lt_or_ge held.length start with short | reaches
    · rw [(lost_view owned.whole h short).act fun _ _ => Act.noConfusion]
      exact unchanged
    · rcases Nat.lt_or_ge (min stop held.length - start) (pos + bytes.length) with past | fits
      · rw [Payload.act, write_view_of_lt le h reaches past]
        exact unchanged
      · obtain ⟨base', written, through, -⟩ := write_view owned.whole le h reaches fits
        rw [Payload.act, through]
        exact ⟨base', rfl, owned.of_overwrite? written⟩
  | restrict r => exact unchanged

theorem Owned.acts (owned : base.Owned) (le : start ≤ stop) (as : List Act) :
    ∃ base', as.foldl Payload.act (view base start stop) = view base' start stop ∧ base'.Owned := by
  induction as generalizing base with
  | nil => exact ⟨base, rfl, owned⟩
  | cons a as ih =>
    obtain ⟨base', acted, owned'⟩ := owned.act le a
    rw [List.foldl_cons, acted]
    exact ih owned'

/-- A view of an owned base stays in its window, whatever is done to the base and through the
view. -/
theorem restrict_stays {p v : Payload} {r : Range} (owned : p.Owned) (h : p.restrict r = .ok v) :
    ∃ start stop, v = view p start stop ∧ start ≤ stop ∧
      ∀ as : List Act, ∃ base held, as.foldl act v = view base start stop ∧
        Windowed base held start stop := by
  obtain ⟨start, stop, rfl, -, le, -⟩ := restrict_eq_ok h
  refine ⟨start, stop, rfl, le, fun as => ?_⟩
  obtain ⟨base, acted, owned'⟩ := owned.acts le as
  obtain ⟨held, windowed⟩ := owned'.windowed le
  exact ⟨base, held, acted, windowed⟩

/-- Storage with spare room is written to, cut so that the window is lost, asked for too much, and
grown back: what was cut off is gone, and the window shows what came in its place. -/
theorem restrict_stays_regrown :
    let p := storage ⟨[1, 2, 3, 4], 8, by decide, by decide⟩
    let as := [Act.write 0 [7], .resize 1 0, .fill 5, .write 0 [6], .resize (2 ^ 57) 0, .resize 5 9,
      .restrict ⟨.included 1, .unbounded⟩, .write 1 [8], .write 2 [8, 8]]
    p.Owned ∧ p.restrict ⟨.included 2, .unbounded⟩ = .ok (view p 2 8) ∧
      (as.foldl act (view p 2 8)).base.bytes = .ok [1, 9, 9, 8, 9] ∧
      (as.foldl act (view p 2 8)).bytes = .ok [9, 8, 9] ∧
      ∃ start stop, view p 2 8 = view p start stop ∧ start ≤ stop ∧
        ∀ as : List Act, ∃ base held, as.foldl act (view p 2 8) = view base start stop ∧
          Windowed base held start stop := by
  intro p as
  have owned : p.Owned := trivial
  have given : p.restrict ⟨.included 2, .unbounded⟩ = .ok (view p 2 8) := rfl
  refine ⟨owned, given, ?_, ?_, restrict_stays owned given⟩
  · decide +kernel
  · decide +kernel

end WholeFile.Payload
