import WholeFile.Driver.Basic
import WholeFile.Proofs.Machine.Files

/-!
# Making drivers

Whatever is asked for, making a driver comes down to setting up rings, asking what they can do,
closing them again, and saying so. No file has to do with it.
-/

namespace WholeFile

/-- A relation to the machines that can come of a machine while a driver is made. -/
structure Machine.Founding (R : Machine → Machine → Prop) : Prop where
  refl (m : Machine) : R m m
  trans {m n o : Machine} : R m n → R n o → R m o
  setup (m : Machine) (entries : Nat) : R m (m.setup entries).2
  probe (m : Machine) : R m m.probe.2
  closedRing (m : Machine) : R m (m.record .ringClose)
  learnt (m : Machine) (known : Option Bool) : R m { m with ringSupport := known }
  /-- Only what a platform has to say is not said here. -/
  told (m : Machine) {source : LogSource} (other : source ≠ .platform) (message : String) :
    R m (m.log .debug source message)

namespace Machine.Founding

variable {R : Machine → Machine → Prop}

theorem createRing (founding : Founding R) (m : Machine) (entries : Nat) :
    R m (Ring.create m entries).2 := by
  have set := founding.setup m entries
  unfold Ring.create
  cases hs : m.setup entries with
  | mk answer n =>
    rw [hs] at set
    cases answer with
    | error e => exact set
    | ok r =>
      have probed := founding.trans set (founding.probe n)
      cases hp : n.probe with
      | mk answer' o =>
        rw [hp] at probed
        simp only [hp]
        cases answer' with
        | error e => exact founding.trans probed (founding.closedRing o)
        | ok operations =>
          simp only
          split
          · exact probed
          · exact founding.trans probed (founding.closedRing o)

theorem supported (founding : Founding R) (m : Machine) : R m (Ring.supported m).2 := by
  have tried := founding.createRing m 2
  unfold Ring.supported
  split
  · exact founding.refl m
  · cases hc : Ring.create m 2 with
    | mk answer n =>
      rw [hc] at tried
      cases answer with
      | error e =>
        exact founding.trans tried
          (founding.trans (founding.told n (by decide) _) (founding.learnt _ _))
      | ok r =>
        exact founding.trans tried (founding.trans (founding.closedRing n) (founding.learnt _ _))

theorem autoBackend (founding : Founding R) (m : Machine) (entries : Nat) :
    R m (Driver.autoBackend m entries).2 := by
  have asked := founding.supported m
  unfold Driver.autoBackend
  cases hs : Ring.supported m with
  | mk known n =>
    rw [hs] at asked
    cases known with
    | false => exact asked
    | true =>
      have made := founding.trans asked (founding.createRing n entries)
      cases hc : Ring.create n entries with
      | mk answer o =>
        rw [hc] at made
        simp only [hc]
        cases answer with
        | error e => exact founding.trans made (founding.told o (by decide) _)
        | ok r => exact made

theorem createDriver (founding : Founding R) (m : Machine) (o : Options) :
    R m (Driver.create m o).2 := by
  have chosen : R m (Driver.chooseBackend m o).2 := by
    unfold Driver.chooseBackend
    split
    · exact founding.refl m
    · exact founding.createRing m o.entries
    · exact founding.autoBackend m o.entries
  unfold Driver.create
  cases hc : Driver.chooseBackend m o with
  | mk answer n =>
    rw [hc] at chosen
    cases answer with
    | error e => exact chosen
    | ok backend => exact founding.trans chosen (founding.told n (by decide) _)

end Machine.Founding

theorem Machine.apart_founding : Founding Apart where
  refl := .refl
  trans := .trans
  setup := apart_setup
  probe := apart_probe
  closedRing m := (Apart.refl m).record _
  learnt m known := (Apart.refl m).learnt known
  told m _ _ _ := (Apart.refl m).log ..

namespace Driver

theorem apart_create (m : Machine) (o : Options) : m.Apart (create m o).2 :=
  Machine.apart_founding.createDriver m o

theorem apart_drop (d : Driver) (m : Machine) : m.Apart (d.drop m) := by
  unfold drop
  split
  · exact .refl m
  · exact Machine.apart_founding.closedRing m

end Driver

end WholeFile
