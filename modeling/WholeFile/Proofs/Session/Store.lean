import WholeFile.Proofs.Session.Operations

/-!
# What sessions read and write

Whatever drivers and platforms a session has, and whatever it has done with them, reading a file
gives what it holds, and it holds what was written to it last.
-/

namespace WholeFile

/-! ## What commands ask for -/

def HandleCommand.reads? : HandleCommand → Option Path
  | read p => some p
  | _ => none

/-- The file that a command reads. -/
def Command.reads? : Command → Option Path
  | readWith _ p => some p
  | readWithin _ p => some p
  | onPlatform _ _ c => c.reads?
  | _ => none

/-- The bytes that a reading command came to. There are none if it gave the invalid handle. -/
def Reply.contents? : Reply → Option Bytes
  | contents bytes => some bytes
  | created _ _ held h => if h.isNull then none else held
  | _ => none

def Reply.succeeded : Reply → Bool
  | done => true
  | flag answer => answer
  | _ => false

theorem Scope.writeFile_of_bytes (s : Scope) (p : Path) {payload : Payload} {bytes : Bytes}
    (held : payload.bytes = .ok bytes) :
    s.writeFile p payload =
      let (result, t) := s.performCurrent fun d m => d.writeFile m p bytes
      (result.mapError .error, t) := by
  unfold writeFile
  rw [held]

namespace Session

/-- The file that a command writes, and the bytes that it writes to it. -/
def writes? (s : Session) : Command → Option (Path × Bytes)
  | .writeWith _ p bytes => some (p, bytes)
  | .writeWithin _ p payload ranges =>
    match payload.restrictAll ranges with
    | .error _ => none
    | .ok payload => payload.bytes.toOption.map (p, ·)
  | .onPlatform platform handle (.write p) =>
    ((s.platform platform).data (s.handle handle)).map (p, ·)
  | _ => none

/-! ## Commands that succeed -/

variable {s : Session} {c : Command} {p : Path} {bytes : Bytes}

theorem contents?_readReply {result : Except Failure Buffer}
    (h : (readReply result).contents? = some bytes) : ∃ b, result = .ok b ∧ b.bytes = bytes := by
  cases result with
  | error cause => cases h
  | ok b =>
    cases h
    exact ⟨b, rfl, rfl⟩

theorem succeeded_writeReply {result : Except Failure Unit}
    (h : (writeReply result).succeeded = true) : result = .ok () := by
  cases result with
  | error cause => cases h
  | ok u => rfl

theorem ok_of_mapError {ε ε' α : Type} {result : Except ε α} {f : ε → ε'} {a : α}
    (h : result.mapError f = .ok a) : result = .ok a := by
  cases result with
  | error e => cases h
  | ok b =>
    cases h
    rfl

theorem readFile_data {q : Platform} (sound : q.Sound) {m : Machine} {h : Handle} {r : Platform}
    {n : Machine} (read : q.readFile m p = (.ok h, r, n)) (real : h.isNull = false)
    (data : r.data h = some bytes) :
    ∃ b, (q.driver.readFile m p).result = .ok b ∧ b.bytes = bytes ∧
      n = (q.driver.readFile m p).machine := by
  unfold Platform.readFile at read
  cases hr : (q.driver.readFile m p).result with
  | error cause =>
    cases cause with
    | abort a =>
      simp only [hr] at read
      cases read
    | error e =>
      simp only [hr, Platform.insertResult] at read
      cases read
      cases real
  | ok b =>
    simp only [hr, Platform.insertResult, Platform.insert] at read
    cases read
    have there := Arena.get?_insert_self sound.arena b
    unfold Platform.data at data
    rw [there] at data
    cases data
    exact ⟨b, rfl, rfl, rfl⟩

theorem writeFile_data {q : Platform} {m : Machine} {h : Handle}
    (data : q.data h = some bytes) (ok : (q.writeFile m p h).1 = true) :
    (q.driver.writeFile m p bytes).result = .ok () ∧
      (q.writeFile m p h).2.2 = (q.driver.writeFile m p bytes).machine := by
  obtain ⟨b, there, rfl⟩ := Option.map_eq_some_iff.1 data
  have got : q.get h = .ok b := by
    unfold Platform.get
    rw [there]
    rfl
  simp only [Platform.writeFile, got] at ok ⊢
  cases hr : (q.driver.writeFile m p b.bytes).result with
  | error e =>
    rw [hr] at ok
    cases ok
  | ok u => exact ⟨rfl, rfl⟩

theorem runHandle_read (sound : s.Sound) {name variableName : String}
    (answered : (s.runHandle name variableName (.read p)).1.contents? = some bytes) :
    ∃ (d : Driver) (b : Buffer), d.Settled ∧ (d.readFile s.machine p).result = .ok b ∧
      b.bytes = bytes ∧
      (s.runHandle name variableName (.read p)).2.machine = (d.readFile s.machine p).machine := by
  have usable := sound_platform sound name
  simp only [runHandle] at answered ⊢
  cases read : (s.platform name).readFile s.machine p with
  | mk answer rest =>
    obtain ⟨q, n⟩ := rest
    rw [read] at answered
    cases answer with
    | error cause => cases answered
    | ok h =>
      have kept : ((s.withPlatform name q).withMachine n).platform name = q :=
        platform_withPlatform s name q
      simp only [keepFrom, keep, Reply.contents?, kept] at answered
      split at answered
      · cases answered
      · next real =>
        obtain ⟨b, result, same, machine⟩ :=
          readFile_data usable read (Bool.eq_false_iff.2 real) answered
        exact ⟨_, b, usable.driver, result, same, machine⟩

/-- A read that succeeds is that of a driver. -/
theorem run_read (sound : s.Sound) (reads : c.reads? = some p)
    (answered : (s.run c).1.contents? = some bytes) :
    ∃ (d : Driver) (b : Buffer), d.Settled ∧ (d.readFile s.machine p).result = .ok b ∧
      b.bytes = bytes ∧ (s.run c).2.machine = (d.readFile s.machine p).machine := by
  cases c with
  | readWith driver p =>
    cases reads
    simp only [run] at answered ⊢
    cases there : s.scope.drivers.find? driver with
    | none =>
      rw [there] at answered
      cases answered
    | some d =>
      rw [there] at answered
      obtain ⟨b, result, same⟩ := contents?_readReply answered
      exact ⟨d, b, sound.scope.drivers _ _ there, result, same, rfl⟩
  | readWithin names p =>
    cases reads
    obtain ⟨force, t, ran, machine, -⟩ :=
      s.scope.withinAll_run names fun scope => scope.readFile p
    obtain ⟨b, result, same⟩ := contents?_readReply answered
    refine ⟨_, b, Scope.settled_current (sound.scope.force force), ?_, same, ?_⟩
    · exact (congrArg Prod.fst ran).trans result
    · exact machine.trans (congrArg (Scope.machine ∘ Prod.snd) ran).symm
  | onPlatform platform handle c =>
    cases c with
    | read p =>
      cases reads
      exact runHandle_read (sound_named sound platform) answered
    | _ => cases reads
  | _ => cases reads

/-- A write that succeeds is that of a driver. -/
theorem run_write (sound : s.Sound) (writes : s.writes? c = some (p, bytes))
    (succeeded : (s.run c).1.succeeded = true) :
    ∃ d : Driver, d.Settled ∧ (d.writeFile s.machine p bytes).result = .ok () ∧
      (s.run c).2.machine = (d.writeFile s.machine p bytes).machine := by
  cases c with
  | writeWith driver p bytes =>
    cases writes
    simp only [run] at succeeded ⊢
    cases there : s.scope.drivers.find? driver with
    | none =>
      rw [there] at succeeded
      cases succeeded
    | some d =>
      rw [there] at succeeded
      have result := ok_of_mapError (succeeded_writeReply succeeded)
      exact ⟨d, sound.scope.drivers _ _ there, result, rfl⟩
  | writeWithin names p payload ranges =>
    simp only [writes?, run] at writes succeeded ⊢
    cases restricted : payload.restrictAll ranges with
    | error cause =>
      rw [restricted] at writes
      cases writes
    | ok payload =>
      simp only [restricted] at writes succeeded ⊢
      cases held : payload.bytes with
      | error cause =>
        rw [held] at writes
        cases writes
      | ok outer =>
        rw [held] at writes
        cases writes
        obtain ⟨force, t, ran, machine, -⟩ :=
          s.scope.withinAll_run names fun scope => scope.writeFile p payload
        have wrote := (Scope.writeFile_of_bytes { s.scope with inForce := force } p held).symm.trans ran
        have result := succeeded_writeReply succeeded
        refine ⟨_, Scope.settled_current (sound.scope.force force), ?_, ?_⟩
        · exact ok_of_mapError ((congrArg Prod.fst wrote).trans result)
        · exact machine.trans (congrArg (Scope.machine ∘ Prod.snd) wrote).symm
  | onPlatform platform handle c =>
    cases c with
    | write p =>
      obtain ⟨held, data, same⟩ := Option.map_eq_some_iff.1 writes
      cases same
      have there : ((s.withPlatform platform (s.platform platform)).platform platform).data
          (s.handle handle) = some bytes := by
        rw [platform_withPlatform]
        exact data
      obtain ⟨result, machine⟩ := writeFile_data there succeeded
      exact ⟨_, (sound_platform (sound_named sound platform) platform).driver, result, machine⟩
    | _ => cases writes
  | _ => cases writes

/-! ## The next command -/

theorem target?_of_reads? (reads : c.reads? = some p) : c.target? = none := by
  cases c with
  | onPlatform platform handle c =>
    cases c with
    | read p => rfl
    | _ => cases reads
  | readWith | readWithin => rfl
  | _ => cases reads

theorem orderly_of_reads? (reads : c.reads? = some p) : c.Orderly := by
  cases c with
  | setSchedule => cases reads
  | _ => trivial

theorem orderly_of_target? (writes : c.target? = some p) : c.Orderly := by
  cases c with
  | setSchedule => cases writes
  | _ => trivial

theorem target?_of_writes? (writes : s.writes? c = some (p, bytes)) : c.target? = some p := by
  cases c with
  | writeWith => cases writes; rfl
  | writeWithin names q payload ranges =>
    simp only [writes?] at writes
    split at writes
    · cases writes
    · obtain ⟨held, -, same⟩ := Option.map_eq_some_iff.1 writes
      cases same
      rfl
  | onPlatform platform handle c =>
    cases c with
    | write q =>
      obtain ⟨held, -, same⟩ := Option.map_eq_some_iff.1 writes
      cases same
      rfl
    | _ => cases writes
  | _ => cases writes

theorem writes?_afresh (s : Session) (c : Command) : s.afresh.writes? c = s.writes? c := by
  cases c with
  | onPlatform platform handle c => cases c <;> rfl
  | _ => rfl

theorem step_read (sound : s.Sound) (reads : c.reads? = some p)
    (answered : (s.step c).1.reply.contents? = some bytes)
    (uncut : Uncut (s.machine.files.content p) (s.step c).1.journal.deeds) :
    s.machine.files.Holds p bytes := by
  have fresh := sound_afresh sound
  obtain ⟨d, b, settled, result, same, machine⟩ := run_read fresh reads answered
  have orderly : s.afresh.machine.schedule.Orderly := fresh.scope.orderly
  rw [← same]
  refine Driver.readFile_holds (settled.ready orderly) orderly.steady result ?_
  rw [← machine]
  exact uncut

theorem step_write (sound : s.Sound) (writes : s.writes? c = some (p, bytes))
    (succeeded : (s.step c).1.reply.succeeded = true) :
    (s.step c).2.machine.files.content p = bytes := by
  have fresh := sound_afresh sound
  rw [← writes?_afresh] at writes
  obtain ⟨d, settled, result, machine⟩ := run_write fresh writes succeeded
  have orderly : s.afresh.machine.schedule.Orderly := fresh.scope.orderly
  have ended : (s.step c).2.machine = (d.writeFile s.afresh.machine p bytes).machine := machine
  rw [ended]
  exact Driver.content_writeFile (settled.ready orderly) bytes result

/-- What can be said of the files of a session, whatever command comes next. -/
structure Stores (s : Session) : Prop where
  /-- Reading changes no file. -/
  reading : ∀ c p, c.reads? = some p → (s.step c).2.machine.files = s.machine.files
  /-- Writing to a file changes no other. -/
  others : ∀ c p, c.target? = some p →
    ∀ q, q ≠ p → (s.step c).2.machine.files.find? q = s.machine.files.find? q
  /-- What is read is what the file holds. -/
  read : ∀ c p bytes, c.reads? = some p → (s.step c).1.reply.contents? = some bytes →
    Uncut (s.machine.files.content p) (s.step c).1.journal.deeds → s.machine.files.Holds p bytes
  /-- What is read is what was written last. -/
  written : ∀ c p bytes, s.writes? c = some (p, bytes) → (s.step c).1.reply.succeeded = true →
    ∀ between : List Command, (∀ c ∈ between, c.Orderly ∧ c.target? ≠ some p) →
      let t := ((s.step c).2.steps between).2
      ∀ c' bytes', c'.reads? = some p → (t.step c').1.reply.contents? = some bytes' →
        Uncut bytes (t.step c').1.journal.deeds → bytes' = bytes

theorem Sound.stores (sound : s.Sound) : s.Stores where
  reading c p reads := by
    have moved := step_moves sound (orderly_of_reads? reads)
    rw [target?_of_reads? reads] at moved
    exact moved.files
  others c p writes := by
    have moved := step_moves sound (orderly_of_target? writes)
    rw [writes] at moved
    exact moved.files
  read c p bytes reads answered uncut := step_read sound reads answered uncut
  written c p bytes writes succeeded between kept := by
    intro t c' bytes' reads answered uncut
    have orderly : ∀ c ∈ between, c.Orderly := fun c mem => (kept c mem).1
    have first := (step_moves sound (orderly_of_target? (target?_of_writes? writes))).sound
    have untouched := find?_steps first orderly fun c mem => (kept c mem).2
    -- The node at `p` is the one that the write has left there.
    have there : t.machine.files.content p = bytes := by
      rw [← step_write sound writes succeeded]
      exact congrArg (fun node => node.elim [] Node.content) untouched
    rw [← there] at uncut ⊢
    exact (step_read (sound_steps first orderly) reads answered uncut).content.symm

/-- In every session, reading a file gives what it holds, which is what was written to it last. -/
theorem steps_stores {m : Machine} (orderly : m.schedule.Orderly) {history : List Command}
    (kept : ∀ c ∈ history, c.Orderly) : (steps { scope := { machine := m } } history).2.Stores :=
  (sound_steps (sound_new orderly) kept).stores

/-- A ring and a platform, with wrong sizes, short answers and signals. -/
theorem steps_stores_short_and_late :
    let m : Machine :=
      { schedule.openFile := [some .interrupted]
        schedule.size := [{ size := some 1 }, { size := some 40 }]
        schedule.read := [{ short := some 1 }, { errno := some .interrupted }, { short := some 2 }]
        schedule.write := [{ short := some 1 }]
        schedule.enter := [{ take := false }, { errno := some .interrupted, post := false }] }
    let history : List Command :=
      [.putFile [0x61] { content := [9, 9, 9, 9] },
        .makeDriver "ring" (.options { driver := .ring }),
        .makePlatform "main" .blocking,
        .writeWith "ring" [0x61] [1, 2, 3],
        .onPlatform "main" "h" (.read [0x61]),
        .setSchedule { read := [{ short := some 1 }] },
        .onPlatform "main" "h" (.write [0x62])]
    m.schedule.Orderly ∧ (∀ c ∈ history, c.Orderly) ∧
      (steps { scope := { machine := m } } history).2.Stores := by
  intro m history
  have orderly : m.schedule.Orderly := by
    refine ⟨⟨?_, ?_, ?_⟩, ?_⟩
    · simp [m, Schedule.Strayless]
    · simp [m, Errno.interrupted]
    · simp [m]
    · simp [m, Schedule.Steady]
  have later : Schedule.Orderly { read := [{ short := some 1 }] } := by
    refine ⟨⟨?_, ?_, ?_⟩, ?_⟩
    · simp [Schedule.Strayless]
    · simp
    · simp
    · simp [Schedule.Steady]
  have kept : ∀ c ∈ history, c.Orderly := by
    simp [history, Command.Orderly, later]
  exact ⟨orderly, kept, steps_stores orderly kept⟩

end Session

end WholeFile
