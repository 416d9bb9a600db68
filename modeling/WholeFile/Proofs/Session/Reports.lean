import WholeFile.Proofs.Driver.Making
import WholeFile.Proofs.Platform.Reports
import WholeFile.Proofs.Session.Keeping
import WholeFile.Proofs.Session.Selection

/-!
# What sessions report

Whatever is done in a session, and whatever its kernel answers, an error that callers are not told
of is reported, once, and a file is reported as read or written if it was. Nothing else is reported.
-/

namespace WholeFile

/-- The platform that a command uses, and the operation that it carries out there. -/
def Command.operation? (s : Session) : Command → Option (String × Operation)
  | .onPlatform platform handle hc =>
    (hc.operation? (s.handle handle)).map fun op => (platform, op)
  | _ => none

/-- Only platforms report for themselves. -/
theorem Machine.platformReports_keeping :
    Keeping fun m n => n.journal.reports .platform = m.journal.reports .platform where
  refl _ := rfl
  trans first second := second.trans first
  readFile d m p := d.reports_readFile_of_ne m p (by decide)
  writeFile d m p bytes := d.reports_writeFile_of_ne m p bytes (by decide)
  closedRing m := m.reports_record _
  refiled _ _ := rfl
  rescheduled _ _ := rfl

theorem Machine.platformReports_founding :
    Founding fun m n => n.journal.reports .platform = m.journal.reports .platform where
  refl _ := rfl
  trans first second := second.trans first
  setup m entries := by
    unfold setup
    exact reports_record ..
  probe m := by
    unfold probe
    exact reports_record ..
  closedRing m := m.reports_record _
  learnt _ _ := rfl
  told m _ other message := m.reports_log_of_ne other _ message

namespace Session

variable {s : Session} {c : Command}

/-! ## Single commands -/

/-- What a command reports on behalf of a platform. -/
structure Reports (s : Session) (c : Command) : Prop where
  /-- The reply is what came of the operation, and the report is that of the operation. -/
  operation : ∀ name op, c.operation? s = some (name, op) →
    let p := s.platform name
    let m := s.afresh.machine
    (p.step m op).1.Shows (s.step c).1.reply ∧
      (s.step c).1.journal = (p.step m op).2.2.journal ∧ p.Reports m op
  other : c.operation? s = none → (s.step c).1.journal.reports .platform = []

theorem step_operates {name : String} {op : Operation}
    (operates : c.operation? s = some (name, op)) :
    s.afresh.Operates name op (s.step c).1.reply (s.step c).2 := by
  cases c with
  | onPlatform target handle hc =>
    obtain ⟨op', there, same⟩ := Option.map_eq_some_iff.1 operates
    cases same
    let t := s.afresh.withPlatform name (s.platform name)
    have known : t.platform name = s.platform name := platform_withPlatform_self s.afresh name name
    have ran : t.Operates name op (s.step (.onPlatform name handle hc)).1.reply
        (s.step (.onPlatform name handle hc)).2 := runHandle_of_operation there
    obtain ⟨reply, platform, machine⟩ := ran
    rw [known] at reply platform machine
    exact ⟨reply, platform, machine⟩
  | _ => cases operates

theorem reports_of_other (asks : c.operation? s = none) :
    (s.step c).1.journal.reports .platform = [] := by
  apply Machine.platformReports_keeping.run s.afresh c
  · exact fun o _ => Machine.platformReports_founding.createDriver s.afresh.machine o
  · rintro name handle hc rfl
    have none : hc.operation? (s.handle handle) = none := Option.map_eq_none_iff.1 asks
    exact congrArg (fun m => m.journal.reports .platform)
      (machine_runHandle_of_none (s := s.afresh.withPlatform name (s.platform name)) none)

theorem step_reports (bounded : s.platforms.All (·.arena.Bounded))
    (room : (s.step c).2.platforms.All fun p => p.count ≤ Arena.limit) : s.Reports c where
  operation name op operates := by
    obtain ⟨reply, platform, machine⟩ := step_operates operates
    have fits : ((s.platform name).step s.afresh.machine op).2.1.count ≤ Arena.limit := by
      have := all_platform room (fun _ => Nat.zero_le _) name
      rwa [platform] at this
    refine ⟨reply, congrArg Machine.journal machine, ?_⟩
    exact Platform.reports (all_platform bounded bounded_new name) op fits
  other asks := reports_of_other asks

/-! ## Sessions -/

/-- Whatever the kernel answers: what an operation of a platform does not tell its caller is
reported by the platform, once, and nothing else is. A file that was read or written is reported by
the driver, once, when nothing can go wrong any more. -/
theorem steps_reports {m : Machine} {history : List Command}
    (roomy : Roomy { scope := { machine := m } } history) :
    (∀ earlier c later, history = earlier ++ c :: later →
      (steps { scope := { machine := m } } earlier).2.Reports c) ∧
    ∀ (d : Driver) (m : Machine) (p : Path),
      d.ReportsRead m p ∧ ∀ bytes, d.ReportsWrite m p bytes := by
  refine ⟨?_, fun d m p => ⟨d.reportsRead m p, d.reportsWrite m p⟩⟩
  rintro earlier c later rfl
  refine step_reports (bounded_steps Table.all_empty fun before within => ?_) ?_
  · exact roomy before (within.trans (List.prefix_append _ _))
  · have after := roomy (earlier ++ [c]) ⟨later, List.append_assoc ..⟩
    rw [steps_snd_append] at after
    exact after

/-- Memory is refused, too little is given, a file is not there, and handles are used that name
nothing. -/
theorem steps_reports_refused :
    let start : Session := { scope := { machine := {} } }
    let history : List Command :=
      [.onPlatform "p" "h" (.construct (2 ^ 63)), .onPlatform "p" "h" (.construct 2),
        .onPlatform "p" "g" (.constructFrom [1] 2), .onPlatform "p" "g" (.read [0x61]),
        .onPlatform "p" "g" (.resize 4), .onPlatform "p" "h" .destruct,
        .onPlatform "p" "h" .destruct]
    start.Roomy history ∧
      (start.steps history).1.map (fun a => (a.journal.reports .platform).length) =
        [1, 0, 1, 1, 1, 0, 1] ∧
      (∀ earlier c later, history = earlier ++ c :: later →
        (start.steps earlier).2.Reports c) ∧
      ∀ (d : Driver) (m : Machine) (p : Path),
        d.ReportsRead m p ∧ ∀ bytes, d.ReportsWrite m p bytes := by
  intro start history
  have roomy : start.Roomy history := roomy_of_length {} (by decide)
  exact ⟨roomy, by decide +kernel, steps_reports roomy⟩

end Session

end WholeFile
