import Mathlib
import WholeFile.Payload

/-!
# Buffers resized again and again

What a buffer holds after any number of requests for a size depends on what it held at first, on
the least size it has had, and on the last size that was granted. Memory is asked for only past
what is there, and only by as much as is missing, but whether it is granted depends on the size
alone.
-/

namespace WholeFile

/-! ## Cut, then filled up -/

/-- Once cut to `least` and filled up to `last`, bytes keep nothing else at a new size either. -/
theorem Bytes.resized_take_zeros {held : Bytes} {least last : Nat} (cut : least ≤ held.length)
    (filled : least ≤ last) (size : Nat) :
    resized (held.take least ++ zeros (last - least)) size 0 =
      held.take (min least size) ++ zeros (size - min least size) := by
  have length : (held.take least).length = least := List.length_take_of_le cut
  rcases Nat.le_total size least with shorter | longer
  · have within : size ≤ (held.take least ++ zeros (last - least)).length := by
      rw [List.length_append, length]
      omega
    rw [resized_of_le within, List.take_append_of_le_length (by omega), List.take_take,
      Nat.min_comm size, Nat.min_eq_right shorter, Nat.sub_self]
    exact (List.append_nil _).symm
  · rw [Nat.min_eq_left longer, resized, List.take_append, List.take_of_length_le (by omega),
      List.length_append, length, length_zeros, List.append_assoc]
    congr 1
    rw [zeros, zeros, List.take_replicate, List.replicate_append_replicate]
    congr 1
    omega

/-! ## What is asked for -/

/-- Room for so many bytes past those held. Memory is asked for if it is not there. -/
def Storage.reserve (s : Storage) (additional : Nat) : Except AllocError Storage :=
  if additional ≤ s.capacity - s.bytes.length then .ok s
  else
    match h : refusal? (s.bytes.length + additional) with
    | some e => .error e
    | none =>
      .ok ⟨s.bytes, s.bytes.length + additional, Nat.le_add_right _ _, refusal?_eq_none_iff.1 h⟩

theorem Storage.reserve_eq_error_iff {s : Storage} {additional : Nat} {e : AllocError} :
    s.reserve additional = .error e ↔ refusal? (s.bytes.length + additional) = some e := by
  have granted := s.granted
  have held := s.length_le
  unfold reserve
  split
  · have : refusal? (s.bytes.length + additional) = none := refusal?_eq_none_iff.2 (by omega)
    simp [this]
  · split <;> simp_all

theorem Storage.reserve_eq_ok {s t : Storage} {additional : Nat}
    (h : s.reserve additional = .ok t) : t.bytes = s.bytes := by
  unfold reserve at h
  split at h
  · cases h
    rfl
  · split at h <;> cases h
    rfl

namespace Buffer

variable {b : Buffer}

/-- A buffer that grows asks for the bytes that it lacks, and one that shrinks asks for nothing. -/
theorem resize_eq_reserve (b : Buffer) (size : Nat) :
    (b.resize size).map bytes =
      (if b.size ≤ size then b.storage.reserve (size - b.size) else .ok b.storage).map
        fun s => s.bytes.resized size 0 := by
  have small := b.size_lt_grantLimit
  have total (grows : b.size ≤ size) : b.storage.bytes.length + (size - b.size) = size :=
    Nat.add_sub_cancel' grows
  cases hr : b.resize size with
  | error e =>
    have refused := resize_eq_error_iff.1 hr
    have grows : b.size ≤ size := by
      refine Nat.le_of_not_lt fun shrinks => ?_
      rw [refusal?_eq_none_iff.2 (by omega)] at refused
      cases refused
    rw [if_pos grows, Storage.reserve_eq_error_iff.2 ((total grows).symm ▸ refused)]
    rfl
  | ok c =>
    have fits := resize_eq_ok_iff.1 ⟨c, hr⟩
    refine (congrArg Except.ok (resize_eq_ok hr)).trans ?_
    split
    · next grows =>
      cases hs : b.storage.reserve (size - b.size) with
      | error e =>
        have refused := Storage.reserve_eq_error_iff.1 hs
        rw [total grows, refusal?_eq_none_iff.2 fits] at refused
        cases refused
      | ok s =>
        have same : s.bytes = b.bytes := Storage.reserve_eq_ok hs
        exact congrArg (fun held : Bytes => Except.ok (held.resized size 0)) same.symm
    · rfl

/-! ## Requests -/

/-- Asks for a size. The answer is the cause if the request fails, and the buffer is then as it
was. -/
def request (b : Buffer) (size : Nat) : Option AllocError × Buffer :=
  match b.resize size with
  | .error e => (some e, b)
  | .ok c => (none, c)

/-- Asks for one size after another. -/
def requests (b : Buffer) : List Nat → List (Option AllocError) × Buffer
  | [] => ([], b)
  | size :: sizes =>
    let (answer, b) := b.request size
    let (answers, b) := b.requests sizes
    (answer :: answers, b)

/-- The sizes that are granted, whatever buffer asks for them. -/
def granted (sizes : List Nat) : List Nat := sizes.filter (· < grantLimit)

/-- The least size had, by a buffer that starts with `size` bytes. -/
def least (size : Nat) (sizes : List Nat) : Nat := (granted sizes).foldl min size

/-- The size in the end. -/
def last (size : Nat) (sizes : List Nat) : Nat := (granted sizes).getLastD size

/-- The buffer has the first of the bytes held at the start, up to the least size it has had, and
zero bytes up to the size it has now. -/
structure Kept (held : Bytes) (least last : Nat) (b : Buffer) : Prop where
  cut : least ≤ held.length
  filled : least ≤ last
  bytes : b.bytes = held.take least ++ Bytes.zeros (last - least)

theorem Kept.start (b : Buffer) : Kept b.bytes b.size b.size b where
  cut := Nat.le_refl _
  filled := Nat.le_refl _
  bytes := by
    rw [Nat.sub_self, ← length_bytes, List.take_length]
    exact (List.append_nil _).symm

theorem Kept.size {held : Bytes} {least last : Nat} (kept : Kept held least last b) :
    b.size = last := by
  obtain ⟨cut, filled, bytes⟩ := kept
  rw [← length_bytes, bytes, List.length_append, List.length_take_of_le cut, Bytes.length_zeros]
  omega

theorem Kept.resized {held : Bytes} {least last size : Nat} {c : Buffer}
    (kept : Kept held least last b) (h : b.resize size = .ok c) :
    Kept held (min least size) size c where
  cut := Nat.le_trans (Nat.min_le_left _ _) kept.cut
  filled := Nat.min_le_right _ _
  bytes := by
    rw [resize_eq_ok h, kept.bytes, Bytes.resized_take_zeros kept.cut kept.filled]

theorem request_of_granted {size : Nat} (h : size < grantLimit) :
    ∃ c, b.resize size = .ok c ∧ b.request size = (none, c) := by
  obtain ⟨c, hc⟩ := resize_eq_ok_iff.2 h
  refine ⟨c, hc, ?_⟩
  rw [request, hc]

theorem request_of_refused {size : Nat} {e : AllocError} (h : refusal? size = some e) :
    b.request size = (some e, b) := by
  rw [request, resize_eq_error_iff.2 h]

theorem request_answer (b : Buffer) (size : Nat) : (b.request size).1 = refusal? size := by
  cases h : refusal? size with
  | none =>
    obtain ⟨c, -, hc⟩ := request_of_granted (b := b) (refusal?_eq_none_iff.1 h)
    rw [hc]
  | some e => rw [request_of_refused h]

theorem requests_answers (b : Buffer) (sizes : List Nat) :
    (b.requests sizes).1 = sizes.map refusal? := by
  induction sizes generalizing b with
  | nil => rfl
  | cons size sizes ih =>
    change (b.request size).1 :: ((b.request size).2.requests sizes).1 = _
    rw [request_answer, ih, List.map_cons]

theorem Kept.requests {held : Bytes} {smallest current : Nat} (kept : Kept held smallest current b)
    (sizes : List Nat) :
    Kept held (least smallest sizes) (last current sizes) (b.requests sizes).2 := by
  induction sizes generalizing b smallest current with
  | nil => exact kept
  | cons size sizes ih =>
    change Kept held _ _ ((b.request size).2.requests sizes).2
    by_cases h : size < grantLimit
    · obtain ⟨c, hc, answer⟩ := request_of_granted (b := b) h
      have taken : granted (size :: sizes) = size :: granted sizes :=
        List.filter_cons_of_pos (decide_eq_true h)
      rw [answer, least, last, taken, List.foldl_cons, List.getLastD_cons]
      exact ih (kept.resized hc)
    · have passed : granted (size :: sizes) = granted sizes :=
        List.filter_cons_of_neg (by simpa using h)
      obtain ⟨e, he⟩ := exists_refusal (Nat.not_lt.1 h)
      rw [request_of_refused he, least, last, passed]
      exact ih kept

/-! ## The law -/

theorem refusal?_eq (size : Nat) :
    refusal? size =
      if size < 2 ^ 57 then none
      else if size < 2 ^ 63 then some .refused
      else some .capacityOverflow := by
  grind [refusal?, maxCapacity, grantLimit]

/-- What requests for `sizes` have made of a buffer that held `held`. -/
structure History (held : Bytes) (sizes : List Nat) (answers : List (Option AllocError))
    (b : Buffer) : Prop where
  /-- Whether a size is granted depends neither on the buffer nor on earlier requests. -/
  answers : answers = sizes.map fun size =>
    if size < 2 ^ 57 then none
    else if size < 2 ^ 63 then some .refused
    else some .capacityOverflow
  bytes : b.bytes = held.take (least held.length sizes) ++
    Bytes.zeros (last held.length sizes - least held.length sizes)
  /-- What was cut off does not come back. -/
  cut : ∀ i, least held.length sizes ≤ i → i < b.size → b.bytes[i]? = some 0
  size : b.size = last held.length sizes
  initialized : (Payload.buffer b).initialized = b.size
  total : (Payload.buffer b).total = b.size
  /-- The next request changes nothing if it fails. -/
  failed : ∀ size, (b.request size).1 ≠ none → (b.request size).2 = b
  /-- The next request asks for what is missing, if anything is. -/
  asked : ∀ size, (b.resize size).map Buffer.bytes =
    (if b.size ≤ size then b.storage.reserve (size - b.size) else .ok b.storage).map
      fun s => s.bytes.resized size 0

/-- However often a buffer is resized, it holds its first bytes up to the least size that it has
had, and zero bytes from there on. -/
theorem requests_history (b : Buffer) (sizes : List Nat) :
    History b.bytes sizes (b.requests sizes).1 (b.requests sizes).2 where
  answers := by
    rw [requests_answers]
    exact List.map_congr_left fun size _ => refusal?_eq size
  bytes := ((Kept.start b).requests sizes).bytes
  cut i past within := by
    have kept := (Kept.start b).requests sizes
    have length : (b.bytes.take (least b.size sizes)).length = least b.size sizes :=
      List.length_take_of_le kept.cut
    rw [length_bytes] at past
    rw [kept.size] at within
    rw [kept.bytes, List.getElem?_append_right (by omega), length, Bytes.zeros,
      List.getElem?_replicate_of_lt (by omega)]
  size := ((Kept.start b).requests sizes).size
  initialized := rfl
  total := rfl
  failed size refused := by
    rw [request_answer] at refused
    obtain ⟨e, he⟩ := Option.ne_none_iff_exists'.1 refused
    rw [request_of_refused he]
  asked := resize_eq_reserve _

/-- Grown, cut, refused and grown again, with spare capacity all along. -/
example :
    let b := ofStorage ⟨[1, 2, 3, 4], 8, by decide, by decide⟩
    let (answers, c) := b.requests [6, 2, 2 ^ 57, 5, 2 ^ 63]
    answers = [none, none, some .refused, none, some .capacityOverflow] ∧
      c.bytes = [1, 2, 0, 0, 0] := by
  decide

end Buffer

end WholeFile
