import WholeFile.Driver.Scope

/-!
# Code whose calls name their driver

A call on a file inside blocks is a call on the driver of the innermost block around it, and
outside all blocks a call on a new blocking driver. To see that, code is run a second time, where
nothing is in force: each call is handed the driver it goes to, as an argument that comes down from
the blocks around it.
-/

namespace WholeFile

/-- A machine and its drivers by name. Nothing is in force. -/
structure Stock where
  machine : Machine
  drivers : Table String Driver

namespace Stock

/-- The driver that a name stands for, and a new blocking one without a name. -/
def driver (s : Stock) : Option String → Driver
  | none => ⟨.blocking, 0o666⟩
  | some name => (s.drivers.find? name).getD ⟨.blocking, 0o666⟩

/-- The drivers after the one of that name was used. One without a name is gone. -/
def keep (s : Stock) (on : Option String) (d : Driver) : Table String Driver :=
  on.elim s.drivers fun name => s.drivers.insert name d

def readFile (s : Stock) (on : Option String) (p : Path) : Except Failure Buffer × Stock :=
  let run := (s.driver on).readFile s.machine p
  (run.result, ⟨run.machine, s.keep on run.driver⟩)

def writeFile (s : Stock) (on : Option String) (p : Path) (payload : Payload) :
    Except Failure Unit × Stock :=
  match payload.bytes with
  | .error cause => (.error (.abort cause), s)
  | .ok bytes =>
    let run := (s.driver on).writeFile s.machine p bytes
    (run.result.mapError .error, ⟨run.machine, s.keep on run.driver⟩)

end Stock

/-- Runs code inside a block for `on`, or outside all blocks. Each call gets its driver as an
argument. -/
def Program.runOn : Program → Option String → Stock → Ending × Stock
  | read p, on, s =>
    let (result, s) := s.readFile on p
    (⟨[.read result], abortOf result⟩, s)
  | write p payload, on, s =>
    let (result, s) := s.writeFile on p payload
    (⟨[.written result], abortOf result⟩, s)
  | abort cause, _, s => (⟨[], some cause⟩, s)
  | within driver body, on, s =>
    match s.drivers.find? driver with
    | none => body.runOn on s
    | some _ => body.runOn (some driver) s
  | both first second, on, s =>
    match first.runOn on s with
    | (⟨results, some cause⟩, s) => (⟨results, some cause⟩, s)
    | (⟨results, none⟩, s) =>
      let (ending, s) := second.runOn on s
      (⟨results ++ ending.results, ending.aborted⟩, s)
  | caught body, on, s =>
    let (ending, s) := body.runOn on s
    (⟨ending.results, none⟩, s)

/-! ## Which names have a driver -/

namespace Stock

variable {s t : Stock} {on : Option String}

/-- A call has a driver to go to. -/
def Serves (s : Stock) (on : Option String) : Prop :=
  ∀ name, on = some name → (s.drivers.find? name).isSome

/-- The same names have a driver, whatever has become of the drivers. -/
def SameNames (s t : Stock) : Prop :=
  ∀ name, (t.drivers.find? name).isSome = (s.drivers.find? name).isSome

theorem SameNames.refl (s : Stock) : s.SameNames s := fun _ => rfl

theorem SameNames.trans {u : Stock} (first : s.SameNames t) (second : t.SameNames u) :
    s.SameNames u :=
  fun name => (second name).trans (first name)

theorem SameNames.serves (same : s.SameNames t) (serves : s.Serves on) : t.Serves on :=
  fun name h => (same name).trans (serves name h)

theorem sameNames_keep (serves : s.Serves on) (d : Driver) (m : Machine) :
    s.SameNames ⟨m, s.keep on d⟩ := by
  intro name
  cases on with
  | none => rfl
  | some used =>
    by_cases h : name = used
    · subst h
      simp only [keep, Option.elim, Table.find?_insert_self, serves name rfl, Option.isSome_some]
    · simp only [keep, Option.elim, Table.find?_insert_of_ne _ _ h]

theorem sameNames_readFile (serves : s.Serves on) (p : Path) : s.SameNames (s.readFile on p).2 :=
  sameNames_keep serves _ _

theorem sameNames_writeFile (serves : s.Serves on) (p : Path) (payload : Payload) :
    s.SameNames (s.writeFile on p payload).2 := by
  unfold writeFile
  split
  · exact .refl s
  · exact sameNames_keep serves _ _

end Stock

theorem Program.sameNames_runOn (program : Program) {on : Option String} {s : Stock}
    (serves : s.Serves on) : s.SameNames (program.runOn on s).2 := by
  induction program generalizing on s with
  | read p => exact s.sameNames_readFile serves p
  | write p payload => exact s.sameNames_writeFile serves p payload
  | abort cause => exact .refl s
  | within driver body ih =>
    rw [runOn]
    split
    · exact ih serves
    · next known =>
      refine ih fun name h => ?_
      cases h
      rw [known]
      rfl
  | both first second ihFirst ihSecond =>
    have first' := ihFirst serves
    rw [runOn]
    split
    · next ran =>
      rw [ran] at first'
      exact first'
    · next ran =>
      rw [ran] at first'
      exact first'.trans (ihSecond (first'.serves serves))
  | caught body ih => exact ih serves

/-! ## What is in force -/

namespace Scope

/-- The machine and the drivers, with nothing in force. -/
def stock (s : Scope) : Stock := ⟨s.machine, s.drivers⟩

/-- The machine and the drivers of `t` with what is in force in `s`. -/
def restock (s : Scope) (t : Stock) : Scope := ⟨t.machine, t.drivers, s.inForce⟩

@[simp] theorem stock_restock (s : Scope) (t : Stock) : (s.restock t).stock = t := rfl

@[simp] theorem restock_restock (s : Scope) (t u : Stock) :
    (s.restock t).restock u = s.restock u := rfl

/-- What is in force is in force as long as it has a driver. -/
theorem current_fst (s : Scope) :
    s.current.1 = s.inForce.filter fun name => (s.drivers.find? name).isSome := by
  unfold current
  cases s.inForce with
  | none => rfl
  | some name => cases h : s.drivers.find? name <;> simp [h, Option.filter]

theorem current_inForce {s : Scope} {name : String} {d : Driver}
    (known : s.drivers.find? name = some d) :
    ({ s with inForce := some name } : Scope).current.1 = some name := by
  rw [current_fst]
  simp [known]

theorem current_snd (s : Scope) : s.current.2 = s.stock.driver s.current.1 := by
  unfold current
  cases s.inForce with
  | none => rfl
  | some name => cases h : s.drivers.find? name <;> simp [h, Stock.driver, stock, Driver.blocking,
      defaultFileMode]

theorem serves_current (s : Scope) : s.stock.Serves s.current.1 := by
  intro name h
  rw [current_fst, Option.filter_eq_some_iff] at h
  exact h.2

theorem current_restock {s : Scope} {t : Stock} (same : s.stock.SameNames t) :
    (s.restock t).current.1 = s.current.1 := by
  rw [current_fst, current_fst]
  exact congrArg s.inForce.filter (funext same)

theorem readFile_eq (s : Scope) (p : Path) :
    s.readFile p = ((s.stock.readFile s.current.1 p).1,
      s.restock (s.stock.readFile s.current.1 p).2) := by
  unfold readFile performCurrent perform Stock.readFile
  rw [current_snd]
  cases s.current.1 <;> rfl

theorem writeFile_eq (s : Scope) (p : Path) (payload : Payload) :
    s.writeFile p payload = ((s.stock.writeFile s.current.1 p payload).1,
      s.restock (s.stock.writeFile s.current.1 p payload).2) := by
  unfold writeFile performCurrent perform Stock.writeFile
  cases payload.bytes with
  | error cause => rfl
  | ok bytes =>
    rw [current_snd]
    cases s.current.1 <;> rfl

theorem within_of_none {α : Type} {s : Scope} {name : String} {body : Scope → α × Scope}
    (unknown : s.drivers.find? name = none) : s.within name body = body s := by
  rw [within, unknown]

theorem within_of_some {α : Type} {s : Scope} {name : String} {d : Driver}
    {body : Scope → α × Scope} (known : s.drivers.find? name = some d) :
    s.within name body = ((body { s with inForce := some name }).1,
      { (body { s with inForce := some name }).2 with inForce := s.inForce }) := by
  rw [within, known]

end Scope

namespace Program

theorem runOn_within_of_none {body : Program} {on : Option String} {name : String} {s : Stock}
    (unknown : s.drivers.find? name = none) : (within name body).runOn on s = body.runOn on s := by
  rw [runOn, unknown]

theorem runOn_within_of_some {body : Program} {on : Option String} {name : String} {s : Stock}
    {d : Driver} (known : s.drivers.find? name = some d) :
    (within name body).runOn on s = body.runOn (some name) s := by
  rw [runOn, known]

theorem run_eq_runOn (program : Program) (s : Scope) :
    program.run s = ((program.runOn s.current.1 s.stock).1,
      s.restock (program.runOn s.current.1 s.stock).2) := by
  induction program generalizing s with
  | read p =>
    rw [run, s.readFile_eq]
    rfl
  | write p payload =>
    rw [run, s.writeFile_eq]
    rfl
  | abort cause => rfl
  | within driver body ih =>
    cases known : s.drivers.find? driver with
    | none =>
      rw [run, Scope.within_of_none known, runOn_within_of_none known]
      exact ih s
    | some d =>
      -- The block leaves behind what the code in it does, and puts back what was in force.
      have ran := ih { s with inForce := some driver }
      rw [Scope.current_inForce known] at ran
      rw [run, Scope.within_of_some known, runOn_within_of_some known, ran]
      rfl
  | both first second ihFirst ihSecond =>
    have same := first.sameNames_runOn s.serves_current
    rw [run, runOn, ihFirst]
    cases ran : first.runOn s.current.1 s.stock with
    | mk ending t =>
      obtain ⟨results, aborted⟩ := ending
      rw [ran] at same
      cases aborted with
      | some cause => rfl
      | none =>
        have inForce : (s.restock t).current.1 = s.current.1 := Scope.current_restock same
        have ran' := ihSecond (s.restock t)
        rw [inForce] at ran'
        simp only [ran']
        rfl
  | caught body ih =>
    rw [run, ih]
    rfl

/-- Code with blocks inside blocks, left in any way, does what it does with each call handed the
driver of the innermost block around it, and outside all blocks a new blocking one. What was in
force before is in force again afterwards, and nothing is if nothing was. -/
theorem run_innermost (program : Program) (s : Scope) :
    (∃ ending t, program.runOn s.current.1 s.stock = (ending, t) ∧
      program.run s =
        (ending, { machine := t.machine, drivers := t.drivers, inForce := s.inForce })) ∧
    (program.run s).2.current.1 = s.current.1 ∧
    (s.inForce = none → ∃ ending t, program.runOn none s.stock = (ending, t) ∧
      program.run s = (ending, { machine := t.machine, drivers := t.drivers, inForce := none })) := by
  have ran := program.run_eq_runOn s
  refine ⟨⟨_, _, rfl, ran⟩, ?_, fun outside => ?_⟩
  · rw [ran]
    exact Scope.current_restock (program.sameNames_runOn s.serves_current)
  · have inForce : s.current.1 = none := by
      rw [Scope.current_fst, outside]
      rfl
    refine ⟨_, _, rfl, ?_⟩
    rw [ran, inForce, Scope.restock, outside]

/-- The block is left by an abort, and the file that is written afterwards does not get the mode
that new files have inside the block. -/
example :
    let s : Scope := { machine := {}, drivers := ⟨[("private", ⟨.blocking, 0o600⟩)]⟩ }
    let inside := (write [0x61] (.fixed [1])).both (abort .outOfBounds)
    let program := (caught (within "private" inside)).both (write [0x62] (.fixed [2]))
    let files := (program.run s).2.machine.files
    (files.find? [0x61]).map Node.mode = some 0o600 ∧
      (files.find? [0x62]).map Node.mode = some 0o644 := by
  decide +kernel

end Program

/-! ## Blocks for several names -/

namespace Scope

/-- The driver of the innermost block inside blocks for these names, up to the first name without
a driver. -/
def innermost (s : Scope) (names : List String) : Option String :=
  (names.takeWhile fun name => (s.drivers.find? name).isSome).getLast?.or s.current.1

theorem innermost_cons {s : Scope} {name : String} {d : Driver} (names : List String)
    (known : s.drivers.find? name = some d) :
    s.innermost (name :: names) = ({ s with inForce := some name } : Scope).innermost names := by
  have named : (s.drivers.find? name).isSome = true := by
    rw [known]
    rfl
  rw [innermost, innermost, current_inForce known, List.takeWhile_cons, if_pos named,
    List.getLast?_cons]
  cases (names.takeWhile _).getLast? <;> rfl

/-- What is done inside blocks for several names goes to the driver of the innermost one. -/
theorem withinAll_eq {α : Type} {body : Scope → α × Scope}
    (direct : Option String → Stock → α × Stock)
    (h : ∀ s : Scope, body s =
      ((direct s.current.1 s.stock).1, s.restock (direct s.current.1 s.stock).2))
    (s : Scope) (names : List String) :
    s.withinAll names body = ((direct (s.innermost names) s.stock).1,
      s.restock (direct (s.innermost names) s.stock).2) := by
  induction names generalizing s with
  | nil => exact h s
  | cons name names ih =>
    unfold withinAll
    cases known : s.drivers.find? name with
    | none =>
      have ended : s.innermost (name :: names) = s.current.1 := by simp [innermost, known]
      rw [ended]
      exact h s
    | some d =>
      rw [innermost_cons names known]
      change s.within name _ = _
      rw [within_of_some known, ih]
      rfl

theorem readFile_withinAll (s : Scope) (names : List String) (p : Path) :
    s.withinAll names (fun s => s.readFile p) =
      ((s.stock.readFile (s.innermost names) p).1,
        s.restock (s.stock.readFile (s.innermost names) p).2) :=
  withinAll_eq (fun on t => t.readFile on p) (fun s => s.readFile_eq p) s names

theorem writeFile_withinAll (s : Scope) (names : List String) (p : Path) (payload : Payload) :
    s.withinAll names (fun s => s.writeFile p payload) =
      ((s.stock.writeFile (s.innermost names) p payload).1,
        s.restock (s.stock.writeFile (s.innermost names) p payload).2) :=
  withinAll_eq (fun on t => t.writeFile on p payload) (fun s => s.writeFile_eq p payload) s names

end Scope

end WholeFile
