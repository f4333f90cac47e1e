import Golden.Proofs.Runner.Containment
import Golden.Proofs.Runner.Stored
import Golden.Proofs.Unit.Moments

/-! # Verdicts

A unit ends with a signal if it is not found, or if its load or its entry point stops
(`Surroundings.Stops`). A behaviour stops if it raises a signal, and does so too if it does not
catch the signal with which an import ends (`Stage.Stops`). The verdict on a unit that stops depends
on the signal only. The verdict on any other unit depends on what has been written, by itself and by
the units that it loads, whether their signals were caught or not.

* `Surroundings.stops_iff`: where the signal comes from with which a unit ends.
* `Runner.run_verdict`: the verdict of a run that compares. -/

namespace Golden

variable {σ ω : Type} [Sink ω]

/-! ### Signals -/

/-- **The behaviour stops with the signal**, now or later. It raises it, or an import that it
requires fails with it. -/
inductive Stage.Stops (importer : String → Run σ ω Signal Unit) (signal : Signal) :
    Stage σ ω → Prop where
  | raised {held : Bool} {w : World σ ω} : Stops importer signal ⟨.raise signal, held, w⟩
  | uncaught {name : String} {next : Behaviour σ} {held : Bool} {w : World σ ω} :
    (importer name w).1 = .error signal → Stops importer signal ⟨.require name next, held, w⟩
  | later {st st' : Stage σ ω} : st.next? importer = some st' → Stops importer signal st' →
    Stops importer signal st

/-- **What stops a behaviour is what comes of it.** -/
theorem Stage.stops_iff {importer : String → Run σ ω Signal Unit} {signal : Signal}
    {st : Stage σ ω} : st.Stops importer signal ↔ (st.result importer).1 = .error signal := by
  constructor
  · intro h
    induction h with
    | raised => rw [result, Behaviour.perform_raise]
    | uncaught h =>
      rw [result, Behaviour.require, Behaviour.perform_load, h]
      dsimp only [Behaviour.failure?]
      rw [Behaviour.perform_raise]
    | later hnext _ ih =>
      rw [result_next hnext]
      exact ih
  · intro h
    induction st using induction importer with
    | ended st hend =>
      obtain ⟨b, held, w⟩ := st
      cases b with
      | done =>
        rw [result, Behaviour.perform_done] at h
        cases h
      | offer entry =>
        rw [result, Behaviour.perform_offer] at h
        cases h
      | raise signal' =>
        rw [result, Behaviour.perform_raise] at h
        cases h
        exact .raised
      | finishCapture next => cases held <;> cases hend
      | _ => cases hend
    | step st st' hnext ih =>
      rw [result_next hnext] at h
      exact .later hnext (ih h)

theorem Stage.Stops.result_eq {importer : String → Run σ ω Signal Unit} {signal : Signal}
    {st : Stage σ ω} (h : st.Stops importer signal) :
    ∃ v, st.result importer = (.error signal, v) :=
  ⟨_, Prod.ext (stops_iff.mp h) rfl⟩

namespace Surroundings

variable {s : Surroundings σ} {u : UnitId} {w : World σ ω} {signal : Signal}

/-- **The unit ends with the signal**: the loader does not find it, or its load stops, or its entry
point. -/
inductive Stops (s : Surroundings σ) (u : UnitId) (w : World σ ω) (signal : Signal) : Prop where
  | loader : (s.loader.load u w.host).1 = .error signal → s.Stops u w signal
  | load {t : TestUnit σ} : (s.loader.load u w.host).1 = .ok t →
    (s.opening u t w).Stops (s.importing s.loader.nesting u) signal → s.Stops u w signal
  | entry {t : TestUnit σ} {entry : Behaviour σ} {v : World σ ω} :
    (s.loader.load u w.host).1 = .ok t →
    (s.opening u t w).result (s.importing s.loader.nesting u) = (.ok (some entry), v) →
    Stage.Stops (s.importing s.loader.nesting u) signal ⟨entry, false, v⟩ → s.Stops u w signal

/-- **Where the signal comes from** with which a unit ends. -/
theorem stops_iff : s.Stops u w signal ↔ (s.loadAndRun u w).1 = .error signal := by
  constructor
  · rintro (hload | ⟨ht, hstops⟩ | ⟨ht, hload, hstops⟩)
    · rw [loadAndRun_eq, Run.bind_error hload]
    · obtain ⟨v, hv⟩ := hstops.result_eq
      rw [loadAndRun_opening ht, whole_opening, hv]
    · obtain ⟨v, hv⟩ := hstops.result_eq
      rw [loadAndRun_opening ht, whole_opening, hload]
      dsimp only
      rw [hv]
  · intro h
    cases ht : (s.loader.load u w.host).1 with
    | error e =>
      rw [loadAndRun_eq, Run.bind_error ht] at h
      cases h
      exact .loader ht
    | ok t =>
      rw [loadAndRun_opening ht, whole_opening] at h
      rcases hload : (s.opening u t w).result (s.importing s.loader.nesting u) with
        ⟨e | _ | entry, v⟩ <;> rw [hload] at h
      · cases h
        exact .load ht (Stage.stops_iff.mpr (congrArg Prod.fst hload))
      · cases h
      · dsimp only at h
        rcases hentry : (⟨entry, false, v⟩ : Stage σ ω).result
          (s.importing s.loader.nesting u) with ⟨e | _, x⟩ <;> rw [hentry] at h
        · cases h
          exact .entry ht hload (Stage.stops_iff.mpr (congrArg Prod.fst hentry))
        · cases h

end Surroundings

/-! ### Runs -/

namespace Runner

variable {r : Runner σ} {u : UnitId} {w : World σ ω}

/-- The run compares: its output is captured, and is not to become what is expected. -/
structure Compares (r : Runner σ) (w : World σ ω) : Prop where
  captures : r.settings.verbose = 0
  keeps : r.settings.generate = false
  isOpen : w.Open

/-- **The output of a unit**: its name on a line, and what is written by itself, by its entry point
and by the units that it loads. -/
def output (r : Runner σ) (u : UnitId) (w : World σ ω) : Bytes :=
  utf8 u.baseline ++ r.surroundings.written u (begun u w)

/-- How the unit ends, and its output. -/
theorem Compares.execute_fst (hr : Sink.Reliable ω) (h : r.Compares w) :
    (r.execute u w).1 =
      .ok ((r.surroundings.loadAndRun u (begun u w)).1, some (r.output u w)) := by
  have hend := execute_captured r u h.captures h.isOpen (hr.flush _)
  have houtput := output_eq (congrArg Prod.fst hend)
  rw [hend, houtput]
  rfl

/-- **The run asks for no file.** It is the same whatever the files are. -/
def AsksNoFile (r : Runner σ) (u : UnitId) (w : World σ ω) : Prop :=
  ∀ fs fs' : FileSystem σ, @run σ ω fs _ r u w = @run σ ω fs' _ r u w

/-- No file is asked for if the unit ends with a signal. -/
theorem asksNoFile_of_signal {signal : Signal} {output : Option Bytes}
    (h : (r.execute u (ready u w)).1 = .ok (.error signal, output)) : r.AsksNoFile u w := by
  have hclass (fs : FileSystem σ) : @classify σ ω fs _ r u (ready u w) =
      r.report u signal (r.execute u (ready u w)).2 := classify_of_signal h
  intro fs fs'
  rw [@run_apply σ ω _ r u fs, @run_apply σ ω _ r u fs', hclass fs, hclass fs']

variable [FileSystem σ]

/-- With a sink that refuses nothing, what is found is what is returned. -/
theorem run_fst (hr : Sink.Reliable ω) : (r.run u w).1 = (r.classify u (ready u w)).1 := by
  obtain ⟨t, ht⟩ := run_of_scanned (r := r) (u := u) (w := w) fun _ => (r.scan_spec _).2.2 hr
  rw [ht]

/-- **The verdict of a run that compares**, if the sink refuses nothing. If the unit ends with a
signal, the verdict is that of the signal, and no file is asked for. Otherwise the output is
compared with what can be read, or with the name of the unit on a line if there is no file to read.
If reading fails in another way, the run fails with that. -/
theorem run_verdict (hr : Sink.Reliable ω) (h : r.Compares w) :
    (∀ signal, r.surroundings.Stops u (begun u (ready u w)) signal →
      (r.run u w).1 = signal.outcome ∧ r.AsksNoFile u w) ∧
    ((∀ signal, ¬ r.surroundings.Stops u (begun u (ready u w)) signal) →
      (r.run u w).1 =
        match FileSystem.read (r.execute u (ready u w)).2.host u.goldenPath with
        | .ok golden => .ok (verdict (r.output u (ready u w)) golden)
        | .error (.notFound _) => .ok (verdict (r.output u (ready u w)) (utf8 u.baseline))
        | .error e => .error (.fileSystem e)) := by
  have hready : r.Compares (ready u w) := ⟨h.captures, h.keeps, open_ready h.isOpen⟩
  have hend := hready.execute_fst (u := u) hr
  obtain ⟨-, -, hfound⟩ := classify_spec h.keeps hend
  have hresult := (run_fst hr).trans (hfound hr)
  simp only [Surroundings.stops_iff]
  refine ⟨fun signal hsignal => ?_, fun hnone => ?_⟩
  · rw [hsignal] at hend hresult
    exact ⟨hresult, asksNoFile_of_signal hend⟩
  · cases hload : (r.surroundings.loadAndRun u (begun u (ready u w))).1 with
    | error signal => exact absurd hload (hnone signal)
    | ok _ =>
      rw [hload] at hresult
      rw [hresult]
      unfold finding expected
      rcases FileSystem.read (r.execute u (ready u w)).2.host u.goldenPath with
        (_ | _) | golden <;> rfl

/-! ### A helper that fails -/

/-- A helper that writes a line and fails. One test goes on when it fails, and has an entry point
that writes another line. The other test does not go on. -/
def lenient : Registry Shelf :=
  ⟨[("helper", fun _ => .print "two" (.raise (.failure "no"))),
    ("test_a", fun _ => .print "one" (.load "helper" fun _ => .offer (.print "three" .done))),
    ("test_b", fun _ => .print "one" (.require "helper" .done))]⟩

/-- A runner of these tests. -/
def lenientRunner : Runner Shelf := ⟨lenient.loader, default, none⟩

/-- Of the first test, three lines are expected. -/
def lenientWorld : World Shelf Memory :=
  .start ⟨[(⟨"t/output/test_a"⟩, utf8 "test_a\none\ntwo\nthree\n")]⟩ .empty

/-- The verdicts on the two tests. -/
theorem run_verdict_lenient :
    (lenientRunner.run ⟨"test_a", ⟨"t"⟩⟩ lenientWorld).1 = .ok .passed ∧
      (lenientRunner.run ⟨"test_b", ⟨"t"⟩⟩ lenientWorld).1 = .ok (.failed "no") ∧
      lenientRunner.AsksNoFile ⟨"test_b", ⟨"t"⟩⟩ lenientWorld := by
  have hcompares : lenientRunner.Compares lenientWorld := ⟨rfl, rfl, rfl⟩
  obtain ⟨-, hends⟩ := run_verdict (u := ⟨"test_a", ⟨"t"⟩⟩) Memory.reliable hcompares
  obtain ⟨hstops, -⟩ := run_verdict (u := ⟨"test_b", ⟨"t"⟩⟩) Memory.reliable hcompares
  refine ⟨?_, hstops (.failure "no") ?_⟩
  · have hload : (lenientRunner.surroundings.loadAndRun ⟨"test_a", ⟨"t"⟩⟩
        (begun ⟨"test_a", ⟨"t"⟩⟩ (ready ⟨"test_a", ⟨"t"⟩⟩ lenientWorld))).1 = .ok () := by
      decide +kernel
    rw [hends fun signal h => by cases hload.symm.trans (Surroundings.stops_iff.mp h)]
    decide +kernel
  · rw [Surroundings.stops_iff]
    decide +kernel

end Runner

end Golden
