import WholeFile.Proofs.Driver.Disturbed
import WholeFile.Proofs.Platform.Operations

/-!
# Platforms through more interruptions

Operations of two platforms with the same buffers, one on a machine with more interruptions to come,
give the same handles and leave the same buffers.
-/

namespace WholeFile.Platform

/-- The same buffers under the same handles, and drivers that were made in the same way. -/
structure Alike (rings : Prop) (p q : Platform) : Prop where
  arena : p.arena = q.arena
  driver : p.driver.Alike rings q.driver

/-- What an operation gives and leaves behind, on a machine and on one with more interruptions. -/
structure Agree (rings : Prop) {α : Type} (x y : α × Platform × Machine) : Prop where
  answer : x.1 = y.1
  platform : x.2.1.Alike rings y.2.1
  machine : x.2.2.Disturbed rings y.2.2

theorem steady_succeeded {rings : Prop} (operation : String) (result : Except Error Unit) :
    Machine.Steady rings fun m => succeeded m operation result := by
  intro m n h
  cases result with
  | ok _ => exact ⟨rfl, h⟩
  | error e => exact ⟨rfl, h.log ..⟩

namespace Alike

variable {rings : Prop} {p q : Platform} {m n : Machine}

/-! ## Asking -/

theorem get? (alike : p.Alike rings q) (h : Handle) : p.arena.get? h = q.arena.get? h :=
  congrArg (Arena.get? · h) alike.arena

theorem get (alike : p.Alike rings q) (h : Handle) : p.get h = q.get h := by
  unfold Platform.get
  rw [alike.arena]

theorem isValid (alike : p.Alike rings q) (h : Handle) : p.isValid h = q.isValid h := by
  unfold Platform.isValid
  rw [alike.arena]

theorem size (alike : p.Alike rings q) (h : Handle) : p.size h = q.size h := by
  unfold Platform.size
  rw [alike.arena]

theorem data (alike : p.Alike rings q) (h : Handle) : p.data h = q.data h := by
  unfold Platform.data
  rw [alike.arena]

theorem count (alike : p.Alike rings q) : p.count = q.count := congrArg Arena.size alike.arena

/-! ## Making and releasing buffers -/

theorem insert (alike : p.Alike rings q) (h : m.Disturbed rings n) (b : Buffer) :
    Agree rings ((p.insert b).1, (p.insert b).2, m) ((q.insert b).1, (q.insert b).2, n) := by
  unfold Platform.insert
  rw [alike.arena]
  exact ⟨rfl, ⟨rfl, alike.driver⟩, h⟩

theorem insertResult (alike : p.Alike rings q) (h : m.Disturbed rings n)
    (result : Except Error Buffer) :
    Agree rings (p.insertResult m result) (q.insertResult n result) := by
  cases result with
  | error e => exact ⟨rfl, alike, h.log ..⟩
  | ok b => exact alike.insert h b

theorem construct (alike : p.Alike rings q) (h : m.Disturbed rings n) (size : Nat) :
    Agree rings (p.construct m size) (q.construct n size) := alike.insertResult h _

theorem constructFrom (alike : p.Alike rings q) (h : m.Disturbed rings n) (data : Bytes)
    (size : Nat) : Agree rings (p.constructFrom m data size) (q.constructFrom n data size) := by
  unfold Platform.constructFrom
  split
  · exact alike.insertResult h _
  · exact ⟨rfl, alike, h.log ..⟩

theorem take (alike : p.Alike rings q) (h : Handle) :
    Option.Rel (fun x y => x.1 = y.1 ∧ x.2.Alike rings y.2) (p.take h) (q.take h) := by
  unfold Platform.take
  rw [alike.arena]
  cases q.arena.remove h with
  | none => exact .none
  | some removed => exact .some ⟨rfl, rfl, alike.driver⟩

theorem destruct (alike : p.Alike rings q) (related : m.Disturbed rings n) (h : Handle) :
    (p.destruct m h).1.Alike rings (q.destruct n h).1 ∧
      (p.destruct m h).2.Disturbed rings (q.destruct n h).2 := by
  unfold Platform.destruct
  rw [alike.arena]
  cases q.arena.remove h with
  | none => exact ⟨alike, related.log ..⟩
  | some removed => exact ⟨⟨rfl, alike.driver⟩, related⟩

/-! ## Changing buffers -/

theorem set (alike : p.Alike rings q) (h : Handle) (b : Buffer) :
    Alike rings { p with arena := p.arena.set h b } { q with arena := q.arena.set h b } :=
  ⟨congrArg (Arena.set · h b) alike.arena, alike.driver⟩

theorem resizeBuffer (alike : p.Alike rings q) (h : Handle) (size : Nat) :
    (∃ e, p.resizeBuffer h size = .error e ∧ q.resizeBuffer h size = .error e) ∨
      ∃ p' q', p.resizeBuffer h size = .ok p' ∧ q.resizeBuffer h size = .ok q' ∧
        p'.Alike rings q' := by
  cases there : q.arena.get? h with
  | none =>
    rw [resizeBuffer_of_none there, resizeBuffer_of_none ((alike.get? h).trans there)]
    exact .inl ⟨_, rfl, rfl⟩
  | some b =>
    rw [resizeBuffer_of_some there, resizeBuffer_of_some ((alike.get? h).trans there)]
    cases b.resize size with
    | error e => exact .inl ⟨_, rfl, rfl⟩
    | ok c => exact .inr ⟨_, _, rfl, rfl, alike.set h c⟩

theorem resize (alike : p.Alike rings q) (related : m.Disturbed rings n) (h : Handle)
    (size : Nat) : Agree rings (p.resize m h size) (q.resize n h size) := by
  unfold Platform.resize
  rcases alike.resizeBuffer h size with ⟨e, hp, hq⟩ | ⟨p', q', hp, hq, kept⟩ <;> rw [hp, hq]
  · obtain ⟨answer, after⟩ := steady_succeeded "resize" (.error e) related
    exact ⟨answer, alike, after⟩
  · exact ⟨rfl, kept, related⟩

theorem overwrite? (alike : p.Alike rings q) (h : Handle) (pos : Nat) (bytes : Bytes) :
    Option.Rel (Alike rings) (p.overwrite? h pos bytes) (q.overwrite? h pos bytes) := by
  unfold Platform.overwrite?
  rw [alike.get?]
  cases q.arena.get? h with
  | none => exact .none
  | some b =>
    simp only [Option.bind_eq_bind, Option.bind_some]
    cases b.overwrite? pos bytes with
    | none => exact .none
    | some c => exact .some (alike.set h c)

theorem fill (alike : p.Alike rings q) (h : Handle) (byte : UInt8) :
    Option.Rel (Alike rings) (p.fill h byte) (q.fill h byte) := by
  unfold Platform.fill
  rw [alike.get?]
  cases q.arena.get? h with
  | none => exact .none
  | some b => exact .some (alike.set h (b.fill byte))

/-! ## Files -/

theorem readFile (alike : p.Alike rings q) (h : m.Disturbed rings n) (path : Path) :
    Agree rings (p.readFile m path) (q.readFile n path) := by
  obtain ⟨result, driver, after⟩ := alike.driver.readFile h path
  have used : Alike rings { p with driver := (p.driver.readFile m path).driver }
      { q with driver := (q.driver.readFile n path).driver } := ⟨alike.arena, driver⟩
  unfold Platform.readFile
  simp only
  rw [result]
  cases (q.driver.readFile n path).result with
  | ok b =>
    obtain ⟨handle, kept, after⟩ := used.insertResult after (.ok b)
    exact ⟨congrArg Except.ok handle, kept, after⟩
  | error cause =>
    cases cause with
    | abort cause => exact ⟨rfl, used, after⟩
    | error e =>
      obtain ⟨handle, kept, after⟩ := used.insertResult after (.error e)
      exact ⟨congrArg Except.ok handle, kept, after⟩

theorem writeFile (alike : p.Alike rings q) (related : m.Disturbed rings n) (path : Path)
    (h : Handle) : Agree rings (p.writeFile m path h) (q.writeFile n path h) := by
  unfold Platform.writeFile
  rw [alike.get]
  cases q.get h with
  | error e => exact ⟨rfl, alike, related.log ..⟩
  | ok b =>
    obtain ⟨result, driver, after⟩ := alike.driver.writeFile related path b.bytes
    simp only
    rw [result]
    obtain ⟨answer, after⟩ :=
      steady_succeeded "write_file" (q.driver.writeFile n path b.bytes).result after
    exact ⟨answer, ⟨alike.arena, driver⟩, after⟩

end Alike

end WholeFile.Platform
