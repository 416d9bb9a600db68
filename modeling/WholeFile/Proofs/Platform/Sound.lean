import WholeFile.Arena.Lookup
import WholeFile.Platform
import WholeFile.Proofs.Driver.Stored

/-!
# Platforms that can be had

Whatever is done with a platform, its arena can be relied on and its driver has nothing under way.
Of its operations only the writing of a file changes one.
-/

namespace WholeFile.Platform

structure Sound (p : Platform) : Prop where
  arena : p.arena.Sound
  driver : p.driver.Settled

theorem sound_new {d : Driver} (settled : d.Settled) : Sound { driver := d } :=
  ⟨Arena.sound_empty, settled⟩

/-- What an operation of a platform on the machine `m` leaves behind. -/
structure Leaves (m : Machine) (target : Option Path) (p : Platform) (n : Machine) : Prop where
  sound : p.Sound
  keeps : m.Keeps target n

variable {p q : Platform} {m n : Machine} {target : Option Path}

theorem Leaves.note (leaves : Leaves m target p n) (message : String) :
    Leaves m target p (note n message) := ⟨leaves.sound, leaves.keeps.log ..⟩

theorem Leaves.succeeded (leaves : Leaves m target p n) (operation : String)
    (result : Except Error Unit) : Leaves m target p (succeeded n operation result).2 := by
  unfold Platform.succeeded
  split
  · exact leaves
  · exact leaves.note _

/-! ## Buffers -/

theorem sound_insert (sound : p.Sound) (b : Buffer) : (p.insert b).2.Sound :=
  ⟨Arena.sound_insert sound.arena b, sound.driver⟩

theorem Leaves.insertResult (leaves : Leaves m target p n) (result : Except Error Buffer) :
    Leaves m target (p.insertResult n result).2.1 (p.insertResult n result).2.2 := by
  unfold Platform.insertResult
  split
  · exact ⟨sound_insert leaves.sound _, leaves.keeps⟩
  · exact leaves.note _

theorem leaves_refl (sound : p.Sound) (m : Machine) : Leaves m target p m := ⟨sound, .refl m⟩

theorem construct_leaves (sound : p.Sound) (m : Machine) (size : Nat) :
    Leaves m none (p.construct m size).2.1 (p.construct m size).2.2 :=
  (leaves_refl sound m).insertResult _

theorem constructFrom_leaves (sound : p.Sound) (m : Machine) (data : Bytes) (size : Nat) :
    Leaves m none (p.constructFrom m data size).2.1 (p.constructFrom m data size).2.2 := by
  unfold constructFrom
  split
  · exact (leaves_refl sound m).insertResult _
  · exact (leaves_refl sound m).note _

theorem sound_take (sound : p.Sound) {h : Handle} {b : Buffer} (taken : p.take h = some (b, q)) :
    q.Sound := by
  obtain ⟨⟨c, arena⟩, removed, same⟩ := Option.map_eq_some_iff.1 taken
  cases same
  exact ⟨Arena.sound_remove sound.arena removed, sound.driver⟩

theorem destruct_leaves (sound : p.Sound) (m : Machine) (h : Handle) :
    Leaves m none (p.destruct m h).1 (p.destruct m h).2 := by
  unfold destruct
  split
  · next removed =>
    exact ⟨⟨Arena.sound_remove sound.arena removed, sound.driver⟩, .refl m⟩
  · exact (leaves_refl sound m).note _

theorem sound_set (sound : p.Sound) (h : Handle) (b : Buffer) :
    Sound { p with arena := p.arena.set h b } := ⟨Arena.sound_set sound.arena h b, sound.driver⟩

theorem sound_edit (sound : p.Sound) {h : Handle} {f : Buffer → Except Error Buffer}
    (edited : p.edit h f = .ok q) : q.Sound := by
  unfold edit at edited
  cases hg : p.get h with
  | error e =>
    rw [hg] at edited
    cases edited
  | ok b =>
    cases hf : f b with
    | error e =>
      simp only [hg, bind, Except.bind, hf] at edited
      cases edited
    | ok c =>
      simp only [hg, bind, Except.bind, hf] at edited
      cases edited
      exact sound_set sound h c

theorem resize_leaves (sound : p.Sound) (m : Machine) (h : Handle) (size : Nat) :
    Leaves m none (p.resize m h size).2.1 (p.resize m h size).2.2 := by
  have kept : ((p.resizeBuffer h size).toOption.getD p).Sound := by
    cases hr : p.resizeBuffer h size with
    | error e => exact sound
    | ok q => exact sound_edit sound hr
  exact (leaves_refl kept m).succeeded "resize" _

theorem sound_overwrite? (sound : p.Sound) {h : Handle} {pos : Nat} {bytes : Bytes}
    (written : p.overwrite? h pos bytes = some q) : q.Sound := by
  unfold overwrite? at written
  obtain ⟨b, -, rest⟩ := Option.bind_eq_some_iff.1 written
  obtain ⟨c, -, same⟩ := Option.bind_eq_some_iff.1 rest
  cases same
  exact sound_set sound h c

theorem sound_fill (sound : p.Sound) {h : Handle} {byte : UInt8}
    (filled : p.fill h byte = some q) : q.Sound := by
  obtain ⟨b, -, same⟩ := Option.map_eq_some_iff.1 filled
  cases same
  exact sound_set sound h _

/-! ## Files -/

theorem readFile_leaves (sound : p.Sound) (orderly : m.schedule.Orderly) (path : Path) :
    Leaves m none (p.readFile m path).2.1 (p.readFile m path).2.2 := by
  have read : Leaves m none { p with driver := (p.driver.readFile m path).driver }
      (p.driver.readFile m path).machine :=
    ⟨⟨sound.arena, Driver.settled_readFile sound.driver orderly path⟩,
      Driver.keeps_readFile sound.driver orderly path⟩
  unfold readFile
  simp only
  split
  · exact read
  · exact read.insertResult _
  · exact read.insertResult _

theorem writeFile_leaves (sound : p.Sound) (orderly : m.schedule.Orderly) (path : Path)
    (h : Handle) :
    Leaves m (some path) (p.writeFile m path h).2.1 (p.writeFile m path h).2.2 := by
  unfold writeFile
  cases p.get h with
  | error e => exact (leaves_refl sound m).succeeded "write_file" _
  | ok b =>
    have wrote : Leaves m (some path)
        { p with driver := (p.driver.writeFile m path b.bytes).driver }
        (p.driver.writeFile m path b.bytes).machine :=
      ⟨⟨sound.arena, Driver.settled_writeFile sound.driver orderly path b.bytes⟩,
        Driver.keeps_writeFile sound.driver orderly path b.bytes⟩
    exact wrote.succeeded "write_file" _

end WholeFile.Platform
