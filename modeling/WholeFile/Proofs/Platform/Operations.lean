import WholeFile.Proofs.Arena.Versions
import WholeFile.Platform

/-!
# Operations of a platform

What callers can do with a platform, and what each operation does to the arena. An operation takes a
new value in, takes one out, puts another in its place, or leaves all as it is.
-/

namespace WholeFile

inductive Operation where
  | construct (size : Nat)
  | constructFrom (data : Bytes) (size : Nat)
  | insert (b : Buffer)
  | readFile (path : Path)
  | take (h : Handle)
  | destruct (h : Handle)
  | resize (h : Handle) (size : Nat)
  | writeFile (path : Path) (h : Handle)
  /-- Writes through a view of the buffer's bytes. -/
  | overwrite (h : Handle) (pos : Nat) (bytes : Bytes)
  | fill (h : Handle) (byte : UInt8)

/-- What an operation gives its caller. -/
inductive Outcome where
  | handle (h : Handle)
  | flag (ok : Bool)
  | taken (b : Option Buffer)
  | released
  | aborted (cause : Abort)

/-- What says that an operation has failed: the null handle, `false`, or no buffer. -/
def Outcome.sentinel : Outcome → Bool
  | handle h => h.isNull
  | flag ok => !ok
  | taken b => b.isNone
  | released => false
  | aborted _ => false

namespace Operation

/-- The file that an operation reads or writes. -/
def path? : Operation → Option Path
  | readFile path | writeFile path _ => some path
  | _ => none

/-- The handle that an operation is given. -/
def operand? : Operation → Option Handle
  | take h | destruct h | resize h _ | writeFile _ h | overwrite h _ _ | fill h _ => some h
  | construct _ | constructFrom _ _ | insert _ | readFile _ => none

/-- The handle that an operation is to make invalid. -/
def removes? : Operation → Option Handle
  | take h | destruct h => some h
  | _ => none

/-- The buffer that an operation makes, on success, for the platform to take over. -/
def made? (p : Platform) (m : Machine) : Operation → Option Buffer
  | construct size => (Buffer.withSize size).toOption
  | constructFrom data size =>
    if size ≤ data.length then (Buffer.copyOf (data.take size)).toOption else none
  | insert b => some b
  | readFile path => (p.driver.readFile m path).result.toOption
  | _ => none

end Operation

namespace Platform

def step (p : Platform) (m : Machine) : Operation → Outcome × Platform × Machine
  | .construct size =>
    let (h, p, m) := p.construct m size
    (.handle h, p, m)
  | .constructFrom data size =>
    let (h, p, m) := p.constructFrom m data size
    (.handle h, p, m)
  | .insert b =>
    let (h, p) := p.insert b
    (.handle h, p, m)
  | .readFile path =>
    match p.readFile m path with
    | (.error cause, p, m) => (.aborted cause, p, m)
    | (.ok h, p, m) => (.handle h, p, m)
  | .take h =>
    match p.take h with
    | none => (.taken none, p, m)
    | some (b, p) => (.taken (some b), p, m)
  | .destruct h =>
    let (p, m) := p.destruct m h
    (.released, p, m)
  | .resize h size =>
    let (ok, p, m) := p.resize m h size
    (.flag ok, p, m)
  | .writeFile path h =>
    let (ok, p, m) := p.writeFile m path h
    (.flag ok, p, m)
  | .overwrite h pos bytes =>
    match p.overwrite? h pos bytes with
    | none => (.flag false, p, m)
    | some p => (.flag true, p, m)
  | .fill h byte =>
    match p.fill h byte with
    | none => (.flag false, p, m)
    | some p => (.flag true, p, m)

variable {p q : Platform} {m : Machine} {h : Handle} {b : Buffer}

/-! ## Single operations -/

theorem take_eq (p : Platform) (h : Handle) :
    p.take h = (p.arena.remove h).map fun removed => (removed.1, { p with arena := removed.2 }) :=
  rfl

theorem isValid_eq_false_iff : p.isValid h = false ↔ p.arena.get? h = none :=
  Option.isSome_eq_false_iff.trans Option.isNone_iff_eq_none

theorem get_of_some (there : p.arena.get? h = some b) : p.get h = .ok b := by
  unfold get
  rw [there]
  rfl

theorem get_of_none (there : p.arena.get? h = none) : p.get h = .error .invalidHandle := by
  unfold get
  rw [there]
  rfl

theorem resizeBuffer_of_none (there : p.arena.get? h = none) (size : Nat) :
    p.resizeBuffer h size = .error .invalidHandle := by
  unfold resizeBuffer edit
  rw [get_of_none there]
  rfl

theorem resizeBuffer_of_some (there : p.arena.get? h = some b) (size : Nat) :
    p.resizeBuffer h size = ((b.resize size).mapError .alloc).map
      fun c => { p with arena := p.arena.set h c } := by
  unfold resizeBuffer edit
  rw [get_of_some there]
  cases hr : b.resize size with
  | error e =>
    simp only [bind, Except.bind, hr]
    rfl
  | ok c =>
    simp only [bind, Except.bind, hr]
    rfl

theorem overwrite?_of_none (there : p.arena.get? h = none) (pos : Nat) (bytes : Bytes) :
    p.overwrite? h pos bytes = none := by
  unfold overwrite?
  rw [there]
  rfl

theorem overwrite?_of_some (there : p.arena.get? h = some b) (pos : Nat) (bytes : Bytes) :
    p.overwrite? h pos bytes =
      (b.overwrite? pos bytes).map fun c => { p with arena := p.arena.set h c } := by
  unfold overwrite?
  rw [there]
  cases hb : b.overwrite? pos bytes with
  | none => simp [hb]
  | some c => simp [hb]

/-! ## What operations do to the arena -/

/-- All that an operation can do to the arena. -/
inductive Touches (p : Platform) (m : Machine) (op : Operation) : Outcome → Arena Buffer → Prop
  | inserted {b : Buffer} (made : op.made? p m = some b) :
      Touches p m op (.handle (p.arena.insert b).1) (p.arena.insert b).2
  | removed {h : Handle} {b : Buffer} {arena : Arena Buffer} {o : Outcome}
      (made : op.made? p m = none) (removes : op.removes? = some h)
      (taken : p.arena.remove h = some (b, arena)) (ok : o.sentinel = false) :
      Touches p m op o arena
  | changed {h : Handle} {b : Buffer} {o : Outcome} (made : op.made? p m = none)
      (removes : op.removes? = none) (operand : op.operand? = some h)
      (live : p.arena.contains h = true) (ok : o.sentinel = false) :
      Touches p m op o (p.arena.set h b)
  | left {o : Outcome} (made : op.made? p m = none)
      (invalid : ∀ h, op.removes? = some h → p.arena.contains h = false) :
      Touches p m op o p.arena

theorem touches_insertResult {op : Operation} (result : Except Error Buffer)
    (made : op.made? p m = result.toOption) (keeps : op.removes? = none) :
    p.Touches m op (.handle (p.insertResult m result).1) (p.insertResult m result).2.1.arena := by
  cases result with
  | ok b => exact .inserted made
  | error e =>
    refine .left made ?_
    intro h removes
    rw [keeps] at removes
    cases removes

theorem toOption_mapError {ε ε' α : Type} (f : ε → ε') (result : Except ε α) :
    (result.mapError f).toOption = result.toOption := by
  cases result <;> rfl

theorem step_touches (p : Platform) (m : Machine) (op : Operation) :
    p.Touches m op (p.step m op).1 (p.step m op).2.1.arena := by
  have still {op : Operation} {o : Outcome} (made : op.made? p m = none)
      (removes : op.removes? = none) : p.Touches m op o p.arena := by
    refine .left made ?_
    intro h hr
    rw [removes] at hr
    cases hr
  cases op with
  | construct size =>
    have made : (Operation.construct size).made? p m =
        ((Buffer.withSize size).mapError Error.alloc).toOption := (toOption_mapError ..).symm
    exact touches_insertResult _ made rfl
  | constructFrom data size =>
    simp only [step, constructFrom]
    split
    · next fits =>
      refine touches_insertResult _ ?_ rfl
      rw [toOption_mapError, Operation.made?, if_pos fits]
    · next fits => exact still (if_neg fits) rfl
  | insert b => exact .inserted rfl
  | readFile path =>
    cases hr : (p.driver.readFile m path).result with
    | ok b =>
      have made : (Operation.readFile path).made? p m = some b := congrArg Except.toOption hr
      simp only [step, readFile, hr]
      exact .inserted made
    | error cause =>
      have made : (Operation.readFile path).made? p m = none := congrArg Except.toOption hr
      cases cause <;> simp only [step, readFile, hr] <;> exact still made rfl
  | take h =>
    simp only [step, take_eq]
    cases hr : p.arena.remove h with
    | none =>
      refine .left rfl ?_
      rintro g removes
      cases removes
      exact Arena.remove_eq_none_iff.1 hr
    | some removed => exact .removed rfl rfl hr rfl
  | destruct h =>
    simp only [step, destruct]
    cases hr : p.arena.remove h with
    | none =>
      refine .left rfl ?_
      rintro g removes
      cases removes
      exact Arena.remove_eq_none_iff.1 hr
    | some removed => exact .removed rfl rfl hr rfl
  | resize h size =>
    simp only [step, resize]
    cases there : p.arena.get? h with
    | none =>
      rw [resizeBuffer_of_none there]
      exact still rfl rfl
    | some b =>
      rw [resizeBuffer_of_some there]
      cases b.resize size with
      | error e => exact still rfl rfl
      | ok c => exact .changed rfl rfl rfl (by simp [Arena.contains, there]) rfl
  | writeFile path h =>
    simp only [step, writeFile]
    cases there : p.arena.get? h with
    | none =>
      rw [get_of_none there]
      exact still rfl rfl
    | some b =>
      rw [get_of_some there]
      exact still rfl rfl
  | overwrite h pos bytes =>
    cases there : p.arena.get? h with
    | none =>
      simp only [step, overwrite?_of_none there]
      exact still rfl rfl
    | some b =>
      simp only [step, overwrite?_of_some there]
      cases b.overwrite? pos bytes with
      | none => exact still rfl rfl
      | some c => exact .changed rfl rfl rfl (by simp [Arena.contains, there]) rfl
  | fill h byte =>
    simp only [step, fill]
    cases there : p.arena.get? h with
    | none => exact still rfl rfl
    | some b => exact .changed rfl rfl rfl (by simp [Arena.contains, there]) rfl

theorem sound_step (sound : p.arena.Sound) (m : Machine) (op : Operation) :
    (p.step m op).2.1.arena.Sound := by
  have touches := p.step_touches m op
  generalize (p.step m op).1 = outcome at touches
  generalize (p.step m op).2.1.arena = arena at touches ⊢
  cases touches with
  | inserted made => exact Arena.sound_insert sound _
  | removed made removes taken ok => exact Arena.sound_remove sound taken
  | changed made removes operand live ok => exact Arena.sound_set sound _ _
  | left made invalid => exact sound

/-- The arena stays bounded as long as it has room, and then what fails leaves it as it is. -/
theorem bounded_step (bounded : p.arena.Bounded) {op : Operation}
    (room : (p.step m op).2.1.count ≤ Arena.limit) :
    (p.step m op).2.1.arena.Bounded ∧
      ((p.step m op).1.sentinel = true → (p.step m op).2.1.arena = p.arena) := by
  have touches := p.step_touches m op
  change (p.step m op).2.1.arena.size ≤ Arena.limit at room
  generalize (p.step m op).1 = outcome at touches ⊢
  generalize (p.step m op).2.1.arena = arena at touches room ⊢
  cases touches with
  | inserted made =>
    obtain ⟨still, present⟩ := bounded.insert _ room
    refine ⟨still, fun failed => ?_⟩
    rw [Outcome.sentinel, present] at failed
    cases failed
  | removed made removes taken ok =>
    refine ⟨bounded.remove taken, fun failed => ?_⟩
    rw [ok] at failed
    cases failed
  | changed made removes operand live ok =>
    refine ⟨bounded.set _ _, fun failed => ?_⟩
    rw [ok] at failed
    cases failed
  | left made invalid => exact ⟨bounded, fun _ => rfl⟩

/-- An operation makes at most one buffer. -/
theorem count_step (sound : p.arena.Sound) (m : Machine) (op : Operation) :
    (p.step m op).2.1.count ≤ p.count + 1 := by
  have touches := p.step_touches m op
  change (p.step m op).2.1.arena.size ≤ p.arena.size + 1
  generalize (p.step m op).1 = outcome at touches
  generalize (p.step m op).2.1.arena = arena at touches ⊢
  cases touches with
  | inserted made => exact Nat.le_of_eq (Arena.size_insert sound _)
  | removed made removes taken ok =>
    have := Arena.size_remove taken
    omega
  | changed made removes operand live ok =>
    rw [Arena.size_set]
    omega
  | left made invalid => exact Nat.le_succ _

theorem operand?_of_removes {op : Operation} (removes : op.removes? = some h) :
    op.operand? = some h := by
  cases op <;> first | exact removes | cases removes

/-- A buffer stays as it is when an operation is for another. -/
theorem get?_step_of_ne (sound : p.arena.Sound) {op : Operation} (live : p.isValid h = true)
    (other : op.operand? ≠ some h) :
    (p.step m op).2.1.arena.get? h = p.arena.get? h := by
  have touches := p.step_touches m op
  generalize (p.step m op).1 = outcome at touches
  generalize (p.step m op).2.1.arena = arena at touches ⊢
  cases touches with
  | inserted made =>
    refine Arena.get?_insert_of_ne sound _ ?_
    rintro rfl
    obtain ⟨b, there⟩ := Arena.contains_eq_true_iff.1 live
    cases (Arena.get?_insert_new sound _).symm.trans there
  | @removed g b _ _ made removes taken ok =>
    have ne : h ≠ g := fun same => other (same ▸ operand?_of_removes removes)
    exact Arena.get?_remove_of_ne taken ne
  | @changed g b _ made removes operand live ok =>
    have ne : h ≠ g := fun same => other (same ▸ operand)
    exact Arena.get?_set_of_ne b ne
  | left made invalid => rfl

/-- Without a file to go to, an operation does no more to the machine than to log a line. -/
theorem machine_step {op : Operation}
    (idle : op.path? = none ∨ ∃ path h, op = .writeFile path h ∧ p.isValid h = false) :
    (p.step m op).2.2 = m ∨ ∃ message, (p.step m op).2.2 = note m message := by
  have succeeded (name : String) (result : Except Error Unit) :
      (succeeded m name result).2 = m ∨
        ∃ message, (succeeded m name result).2 = note m message := by
    cases result with
    | ok => exact .inl rfl
    | error e => exact .inr ⟨_, rfl⟩
  have inserted (result : Except Error Buffer) : (p.insertResult m result).2.2 = m ∨
      ∃ message, (p.insertResult m result).2.2 = note m message := by
    cases result with
    | ok b => exact .inl rfl
    | error e => exact .inr ⟨_, rfl⟩
  rcases idle with noFile | ⟨path, h, rfl, invalid⟩
  · cases op with
    | construct size => exact inserted _
    | constructFrom data size =>
      simp only [step, constructFrom]
      split
      · exact inserted _
      · exact .inr ⟨_, rfl⟩
    | insert b => exact .inl rfl
    | readFile path | writeFile path h => cases noFile
    | take h =>
      simp only [step]
      split <;> exact .inl rfl
    | destruct h =>
      simp only [step, destruct]
      split
      · exact .inl rfl
      · exact .inr ⟨_, rfl⟩
    | resize h size => exact succeeded _ _
    | overwrite h pos bytes =>
      simp only [step]
      split <;> exact .inl rfl
    | fill h byte =>
      simp only [step]
      split <;> exact .inl rfl
  · simp only [step, writeFile, get_of_none (isValid_eq_false_iff.1 invalid)]
    exact succeeded _ _

end Platform

end WholeFile
