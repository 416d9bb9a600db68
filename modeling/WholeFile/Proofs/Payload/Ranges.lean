import WholeFile.Proofs.Payload.Composition

/-!
# Which ranges are accepted

The numbers in a range fit 64 bits, and so does the room of a payload. What a range says is taken
here in numbers without a limit. Those decide whether there is a view, where it lies, and which
text stands for the refusal otherwise: a number that leaves 64 bits is refused as such and never
comes back as a smaller one.
-/

namespace WholeFile

/-! ## What a range says -/

/-- The number in the bound fits 64 bits. -/
def Bound.Word : Bound → Prop
  | included n | excluded n => n < wordLimit
  | unbounded => True

instance : DecidablePred Bound.Word
  | .included n | .excluded n => inferInstanceAs (Decidable (n < wordLimit))
  | .unbounded => inferInstanceAs (Decidable True)

namespace Range

/-- The numbers in the range fit 64 bits. What the range says need not. -/
def Words (r : Range) : Prop := r.start.Word ∧ r.stop.Word

instance (r : Range) : Decidable r.Words := inferInstanceAs (Decidable (_ ∧ _))

/-- The first position inside, whether or not 64 bits hold it. -/
def lower (r : Range) : Nat :=
  match r.start with
  | .included n => n
  | .excluded n => n + 1
  | .unbounded => 0

/-- The first position past the end, for a payload of `total` bytes. -/
def upper (r : Range) (total : Nat) : Nat :=
  match r.stop with
  | .included n => n + 1
  | .excluded n => n
  | .unbounded => total

variable {r : Range} {total : Nat}

theorem first_eq (word : r.start.Word) :
    r.first = if r.lower < wordLimit then .ok r.lower else .error .boundOverflow := by
  unfold first lower
  cases hs : r.start with
  | included n =>
    rw [hs] at word
    exact (if_pos word).symm
  | excluded n => rfl
  | unbounded => rfl

theorem past_eq (word : r.stop.Word) (fits : total < wordLimit) :
    r.past total =
      if r.upper total < wordLimit then .ok (r.upper total) else .error .boundOverflow := by
  unfold past upper
  cases hs : r.stop with
  | included n => rfl
  | excluded n =>
    rw [hs] at word
    exact (if_pos word).symm
  | unbounded => exact (if_pos fits).symm

/-! ## Where a range lies -/

/-- The range lies in the payload as it is now. -/
def Within (r : Range) (p : Payload) : Prop :=
  r.lower ≤ p.initialized ∧ r.lower ≤ r.upper p.total ∧ r.upper p.total ≤ p.total

/-- In which way the range does not lie in the payload. A number past 64 bits comes first, then
the end, and the order of the two comes last. -/
def Misses (r : Range) (p : Payload) : Abort → Prop
  | .boundOverflow => wordLimit ≤ r.lower ∨ wordLimit ≤ r.upper p.total
  | .endPastTotal => (r.lower < wordLimit ∧ r.upper p.total < wordLimit) ∧ p.total < r.upper p.total
  | .beginPastInitialized =>
    (r.lower < wordLimit ∧ r.upper p.total < wordLimit) ∧ r.upper p.total ≤ p.total ∧
      p.initialized < r.lower
  | .beginPastEnd =>
    (r.lower < wordLimit ∧ r.upper p.total < wordLimit) ∧ r.upper p.total ≤ p.total ∧
      r.lower ≤ p.initialized ∧ r.upper p.total < r.lower
  | .outOfBounds | .capacityOverflow => False

end Range

/-! ## Acceptance and refusal -/

theorem Abort.eq_of_message? {cause cause' : Abort} {text : String}
    (h : cause.message? = some text) (h' : cause'.message? = some text) : cause = cause' := by
  rw [← h'] at h
  cases cause <;> cases cause' <;> simp [message?] at h h' ⊢

namespace Payload

variable {p : Payload} {r : Range}

theorem restrict_eq (words : r.Words) (fits : p.total < wordLimit) :
    p.restrict r =
      if wordLimit ≤ r.lower ∨ wordLimit ≤ r.upper p.total then .error .boundOverflow
      else p.window r.lower (r.upper p.total) := by
  rw [restrict, Range.first_eq words.1, Range.past_eq words.2 fits]
  by_cases lower : wordLimit ≤ r.lower
  · rw [if_neg (Nat.not_lt.2 lower), if_pos (Or.inl lower)]
    rfl
  · by_cases upper : wordLimit ≤ r.upper p.total
    · rw [if_pos (Nat.not_le.1 lower), if_neg (Nat.not_lt.2 upper), if_pos (.inr upper)]
      rfl
    · rw [if_pos (Nat.not_le.1 lower), if_pos (Nat.not_le.1 upper), if_neg (not_or.2 ⟨lower, upper⟩)]
      rfl

theorem restrict_eq_ok_iff {q : Payload} (words : r.Words) (fits : p.total < wordLimit) :
    p.restrict r = .ok q ↔ r.Within p ∧ q = view p r.lower (r.upper p.total) := by
  have initialized := p.initialized_le_total
  rw [restrict_eq words fits, Range.Within]
  split
  · next large =>
    refine ⟨nofun, fun within => ?_⟩
    omega
  · rw [window_eq_ok_iff, and_assoc, and_assoc]

theorem restrict_eq_error_iff {cause : Abort} (words : r.Words) (fits : p.total < wordLimit) :
    p.restrict r = .error cause ↔ r.Misses p cause := by
  rw [restrict_eq words fits, window]
  cases cause
  all_goals
    simp only [Range.Misses]
    repeat' split
  all_goals simp only [reduceCtorEq, false_iff, true_iff, Except.error.injEq]
  all_goals omega

/-- There is no view of the range, and `text` says why. -/
def Refuses (p : Payload) (r : Range) (text : String) : Prop :=
  ∃ cause, p.restrict r = .error cause ∧ cause.message? = some text

theorem refuses_iff {text : String} (words : r.Words) (fits : p.total < wordLimit) (cause : Abort)
    (h : cause.message? = some text) : p.Refuses r text ↔ r.Misses p cause := by
  constructor
  · rintro ⟨cause', refused, h'⟩
    rw [Abort.eq_of_message? h h']
    exact (restrict_eq_error_iff words fits).1 refused
  · exact fun misses => ⟨cause, (restrict_eq_error_iff words fits).2 misses, h⟩

theorem exists_refuses (words : r.Words) (fits : p.total < wordLimit) (outside : ¬ r.Within p) :
    ∃ text ∈ ["out of range", "slice end out of range", "slice begin out of range",
      "slice begin past end"], p.Refuses r text := by
  cases h : p.restrict r with
  | ok q => exact absurd ((restrict_eq_ok_iff words fits).1 h).1 outside
  | error cause =>
    have misses := (restrict_eq_error_iff words fits).1 h
    cases cause with
    | outOfBounds | capacityOverflow => exact misses.elim
    | boundOverflow | endPastTotal | beginPastInitialized | beginPastEnd =>
      exact ⟨_, by decide, _, h, rfl⟩

/-- A range is accepted if it lies in the payload as it is now, for what it says in whole numbers,
and the view is where the range says. Each way not to lie in the payload has its text, and a
number past 64 bits has the first say. -/
theorem restrict_exact (words : r.Words) (fits : p.total < wordLimit) :
    (∀ q, p.restrict r = .ok q ↔
      (r.lower ≤ p.initialized ∧ r.lower ≤ r.upper p.total ∧ r.upper p.total ≤ p.total) ∧
        q = view p r.lower (r.upper p.total)) ∧
    (¬ (r.lower ≤ p.initialized ∧ r.lower ≤ r.upper p.total ∧ r.upper p.total ≤ p.total) →
      ∃ text ∈ ["out of range", "slice end out of range", "slice begin out of range",
        "slice begin past end"], p.Refuses r text) ∧
    (p.Refuses r "out of range" ↔ wordLimit ≤ r.lower ∨ wordLimit ≤ r.upper p.total) ∧
    (p.Refuses r "slice end out of range" ↔
      (r.lower < wordLimit ∧ r.upper p.total < wordLimit) ∧ p.total < r.upper p.total) ∧
    (p.Refuses r "slice begin out of range" ↔
      (r.lower < wordLimit ∧ r.upper p.total < wordLimit) ∧ r.upper p.total ≤ p.total ∧
        p.initialized < r.lower) ∧
    (p.Refuses r "slice begin past end" ↔
      (r.lower < wordLimit ∧ r.upper p.total < wordLimit) ∧ r.upper p.total ≤ p.total ∧
        r.lower ≤ p.initialized ∧ r.upper p.total < r.lower) ∧
    (∀ q, p.restrict r = .ok q →
      q.total + r.lower = r.upper p.total ∧ q.initialized ≤ q.total ∧ q.total < wordLimit) := by
  refine ⟨fun q => restrict_eq_ok_iff words fits, exists_refuses words fits,
    refuses_iff words fits .boundOverflow rfl, refuses_iff words fits .endPastTotal rfl,
    refuses_iff words fits .beginPastInitialized rfl, refuses_iff words fits .beginPastEnd rfl, ?_⟩
  intro q h
  obtain ⟨⟨-, forward, inside⟩, rfl⟩ := (restrict_eq_ok_iff words fits).1 h
  refine ⟨Nat.sub_add_cancel forward, initialized_le_total _, ?_⟩
  rw [total]
  omega

/-- The base of the view has been cut down to where nothing of it shows. The view still has its
room, and a range may take that, but it may not begin past its first byte. The number after the
largest one of 64 bits is not zero. -/
theorem restrict_exact_shrunk :
    let p := view (storage ⟨[1, 2], 8, by decide, by decide⟩) 3 7
    let r : Range := ⟨.unbounded, .unbounded⟩
    let late : Range := ⟨.excluded 0, .unbounded⟩
    let huge : Range := ⟨.excluded (wordLimit - 1), .included 2⟩
    p.initialized = 0 ∧ p.total = 4 ∧ r.Words ∧ late.Words ∧ huge.Words ∧
      p.restrict r = .ok (view p 0 4) ∧ p.Refuses late "slice begin out of range" ∧
      p.Refuses huge "out of range" := by
  intro p r late huge
  have fits : p.total < wordLimit := by decide
  have words : r.Words ∧ late.Words ∧ huge.Words := by decide
  obtain ⟨accepted, -⟩ := restrict_exact words.1 fits
  obtain ⟨-, -, -, -, begins, -⟩ := restrict_exact words.2.1 fits
  obtain ⟨-, -, overflows, -⟩ := restrict_exact words.2.2 fits
  refine ⟨rfl, rfl, words.1, words.2.1, words.2.2, ?_, ?_, ?_⟩
  · exact (accepted (view p 0 4)).2 ⟨by decide, rfl⟩
  · exact begins.2 (by decide)
  · exact overflows.2 (by decide)

end Payload

end WholeFile
