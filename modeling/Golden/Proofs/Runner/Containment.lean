import Golden.Proofs.Files
import Golden.Proofs.Runner.Ends
import Golden.Proofs.Unit.Written

/-! # Output is contained

The output of a unit is captured unless the run is verbose. While a capture is active that somebody
else holds, the world is sealed: whatever a unit does, the sink stays as it is. So all that a run
adds to the sink is what the runner has to say, and that depends on how the unit ended only.

* `Stage.sealed_result`: a behaviour that holds no capture keeps the seal, step by step.
* `Runner.stream_execute`: the stream after a unit has been loaded and run.
* `Runner.stream_run_of_signal`: two runs that end with the same signal show the same.
* `Runner.run_contained`: captures and sinks at every end of a run. -/

namespace Golden

variable {σ ω : Type}

/-- **A sealed world**: a capture is active, and the sink is `k`. -/
def World.Sealed (k : ω) (w : World σ ω) : Prop :=
  w.stream.isCapturing = true ∧ w.stream.sink = k

/-- The stream of a sealed world. -/
theorem World.Sealed.stream_eq {k : ω} {w : World σ ω} (h : w.Sealed k) :
    ∃ kept, w.stream = ⟨k, some kept⟩ := by
  obtain ⟨hcapturing, rfl⟩ := h
  obtain ⟨kept, hkept⟩ := Option.isSome_iff_exists.mp hcapturing
  exact ⟨kept, by rw [← hkept]⟩

theorem World.sealed_of_stream {k : ω} {w : World σ ω} (kept : Bytes)
    (h : w.stream = ⟨k, some kept⟩) : w.Sealed k := by
  rw [World.Sealed, h]
  exact ⟨rfl, rfl⟩

variable [Sink ω]

namespace Stage

variable {importer : String → Run σ ω Signal Unit} {st st' : Stage σ ω} {k : ω}

/-! ### Units -/

/-- **No step breaks the seal** of a capture that the behaviour does not hold. -/
theorem sealed_next (himp : ∀ name, Run.Keeps (World.Sealed k) (importer name))
    (h : st.next? importer = some st') (hheld : st.held = false) (hw : st.world.Sealed k) :
    st'.held = false ∧ st'.world.Sealed k := by
  obtain ⟨kept, hstream⟩ := hw.stream_eq
  obtain ⟨hheld', ⟨name, -, hworld⟩ | hstream'⟩ := stream_next (fun _ _ => []) h hheld hstream
  · exact ⟨hheld', hworld ▸ himp name st.world hw⟩
  · exact ⟨hheld', World.sealed_of_stream _ hstream'⟩

theorem sealed_result (himp : ∀ name, Run.Keeps (World.Sealed k) (importer name))
    (st : Stage σ ω) (hheld : st.held = false) (hw : st.world.Sealed k) :
    (st.result importer).2.Sealed k := by
  induction st using induction importer with
  | ended st h =>
    rw [result_end h, hheld]
    exact hw
  | step st st' h ih =>
    obtain ⟨hheld', hw'⟩ := sealed_next himp h hheld hw
    rw [result_next h]
    exact ih hheld' hw'

end Stage

/-- **The load of a test keeps the seal.** -/
theorem Surroundings.sealed_loadAndRun (s : Surroundings σ) (u : UnitId) (k : ω) :
    Run.Keeps (World.Sealed k) (s.loadAndRun u) :=
  keeps_loadAndRun_of_perform (I := World.Sealed) (B := fun _ => True) (fun _ _ _ h => h)
    (fun _ _ _ h => h) (fun _ _ _ h => h) (fun _ _ _ _ _ => True.intro)
    (fun _ himp k b _ v hv => Stage.sealed_result (himp k) ⟨b, false, v⟩ rfl hv)
    (fun _ _ _ _ _ _ _ _ _ => True.intro) u k

namespace Runner

variable {r r' : Runner σ} {u : UnitId} {w w' : World σ ω}

/-! ### Execution -/

/-- **The stream after a unit has been loaded and run** is the one from before, except that its sink
was flushed once, unless there was a capture already. -/
theorem stream_execute (hv : r.settings.verbose = 0) :
    (r.execute u w).2.stream = ⟨w.stream.begin.2.sink, w.stream.captured⟩ := by
  rcases execute_cases r u w with ⟨v, hv'⟩ | ⟨-, e, hb, he⟩
  · cases hv' with
    | free hv' => exact absurd hv hv'
    | captured _ hw hf =>
      have hbegin : w.stream.begin.2.sink = (Sink.flush w.stream.sink).2 := by
        rw [Stream.begin_free hw.captured]
        rcases Sink.flush w.stream.sink with ⟨_ | _, _⟩ <;> rfl
      have hsealed := r.surroundings.sealed_loadAndRun u (Sink.flush w.stream.sink).2
        (begun u w) ⟨rfl, rfl⟩
      rw [execute_captured r u hv hw hf, hbegin, hw.captured, ← hsealed.2]
      rfl
  · rw [he, ← Stream.captured_begin hb]

/-! ### What the runner says -/

/-- Worlds with the same stream. -/
def SameStream (w w' : World σ ω) : Prop := w.stream = w'.stream

/-- An action that does the same to the stream, and returns the same, whatever else is different. -/
def Speaks {α : Type} (x : Run σ ω RunError α) : Prop := Run.Agree SameStream x x

omit [Sink ω] in
theorem Speaks.bind {α β : Type} {x : Run σ ω RunError α} {f : α → Run σ ω RunError β}
    (hx : Speaks x) (hf : ∀ a, Speaks (f a)) : Speaks (x >>= f) :=
  fun w w' h => Run.bind_agree (hx w w' h) fun a _ => hf a _ _ (hx w w' h).2

omit [Sink ω] in
theorem speaks_pure {α : Type} (a : α) : Speaks (pure a : Run σ ω RunError α) :=
  fun _ _ h => ⟨rfl, h⟩

theorem speaks_sayText (text : String) : Speaks (sayText text : Run σ ω RunError Unit) := by
  intro w w' h
  rw [sayText, Run.mapError_apply, Run.mapError_apply, Run.write_apply, Run.write_apply]
  unfold SameStream at h ⊢
  rw [h]
  exact ⟨rfl, rfl⟩

theorem speaks_flush : Speaks (flush : Run σ ω RunError Unit) := by
  intro w w' h
  rw [flush, Run.mapError_apply, Run.mapError_apply, Run.flush_apply, Run.flush_apply]
  unfold SameStream at h ⊢
  rw [h]
  exact ⟨rfl, rfl⟩

theorem spoken_speaks : Spoken fun {α} (x : Run σ ω RunError α) => Speaks x where
  pure := speaks_pure
  bind := Speaks.bind
  sayText := speaks_sayText
  flush := speaks_flush

theorem speaks_say (line : String) : Speaks (say line : Run σ ω RunError Unit) :=
  spoken_speaks.say line

/-- The report of a signal depends on nothing but the signal. -/
theorem speaks_report (r : Runner σ) (u : UnitId) (signal : Signal) :
    Speaks (r.report u signal : Run σ ω RunError Outcome) :=
  spoken_speaks.report (fun _ _ h => ⟨rfl, h⟩) r u signal

/-! ### Leftovers -/

/-- An action that goes well and leaves the stream alone. -/
def Quiet (x : Run σ ω RunError PUnit) : Prop := ∀ w, (x w).1 = .ok ⟨⟩ ∧ SameStream (x w).2 w

omit [Sink ω] in
theorem Quiet.before {x y z : Run σ ω RunError PUnit} (hx : Quiet x)
    (h : Run.Agree SameStream y z) : Run.Agree SameStream (x >>= fun _ => y) z := by
  intro w w' hw
  obtain ⟨hok, hsame⟩ := hx w
  rw [Run.bind_ok hok]
  exact h _ _ (hsame.trans hw)

omit [Sink ω] in
theorem Quiet.after {x y z : Run σ ω RunError PUnit} (hx : Quiet x)
    (h : Run.Agree SameStream y z) : Run.Agree SameStream (y >>= fun _ => x) z := by
  intro w w' hw
  obtain ⟨hresult, hsame⟩ := h w w' hw
  rw [Run.bind_apply]
  cases hy : (y w).1 with
  | error e => exact ⟨hy.symm.trans hresult, hsame⟩
  | ok _ =>
    obtain ⟨hok, hsame'⟩ := hx (y w).2
    exact ⟨(hok.trans hy.symm).trans hresult, hsame'.trans hsame⟩

omit [Sink ω] in
theorem quiet_notes (found : List String) :
    Quiet (found.forM fun item => Run.note (.leaked item) : Run σ ω RunError PUnit) := by
  intro w
  obtain ⟨t, ht⟩ := Run.forM_note (ε := RunError) Event.leaked found w
  rw [ht]
  exact ⟨rfl, rfl⟩

/-- What the search for leftovers finds. -/
def leftovers (r : Runner σ) (host : σ) : List String :=
  match r.detector with
  | none => []
  | some d => (d.detect host).1

/-- What the runner says about leftovers. -/
def warn (settings : Settings) (found : List String) : Run σ ω RunError Unit :=
  if found ≠ [] then
    say (settings.painter.paint .notice
      ("Warning: test created " ++ toString found.length ++ " uncollectable object(s)."))
  else pure ()

theorem speaks_warn (settings : Settings) (found : List String) :
    Speaks (warn settings found : Run σ ω RunError Unit) := by
  unfold warn
  split_ifs
  · exact speaks_say _
  · exact speaks_pure _

/-- The search for leftovers says what was found, and leaves the stream alone otherwise. -/
theorem scan_warns (r : Runner σ) (w : World σ ω) :
    (r.scan w).1 = (warn r.settings (r.leftovers w.host) w).1 ∧
      SameStream (r.scan w).2 (warn r.settings (r.leftovers w.host) w).2 := by
  have hleaked (found : List String) : Quiet (σ := σ) (ω := ω)
      (Run.update fun w => ((), { w with leaked := w.leaked ++ found })) := fun _ => ⟨rfl, rfl⟩
  unfold scan leftovers warn
  cases r.detector with
  | none => exact ⟨rfl, rfl⟩
  | some d =>
    simp only [Run.update_bind]
    split_ifs
    · exact (quiet_notes _).before ((hleaked _).after (speaks_say _)) _ w rfl
    · exact (quiet_notes _).before (speaks_pure _) _ w rfl
    · exact (hleaked _).after (speaks_say _) _ w rfl
    · exact ⟨rfl, rfl⟩

/-- Searches for leftovers that find the same say the same. -/
theorem scan_agree (hsettings : r'.settings = r.settings) (hw : SameStream w' w)
    (hfound : r'.leftovers w'.host = r.leftovers w.host) :
    (r'.scan w').1 = (r.scan w).1 ∧ SameStream (r'.scan w').2 (r.scan w).2 := by
  obtain ⟨hresult, hsame⟩ := r.scan_warns w
  obtain ⟨hresult', hsame'⟩ := r'.scan_warns w'
  rw [hsettings, hfound] at hresult' hsame'
  obtain ⟨hwarn, hstream⟩ := speaks_warn r.settings (r.leftovers w.host) w' w hw
  exact ⟨hresult'.trans (hwarn.trans hresult.symm), hsame'.trans (hstream.trans hsame.symm)⟩

/-! ### Whole runs -/

variable [FileSystem σ]

/-- The outcome of a unit that ended with a signal is that of the report. -/
theorem classify_of_signal {signal : Signal} {output : Option Bytes}
    (hend : (r.execute u w).1 = .ok (.error signal, output)) :
    r.classify u w = r.report u signal (r.execute u w).2 := by
  rw [classify_apply, hend]

omit [FileSystem σ] in
theorem report_congr (hsettings : r'.settings = r.settings) (signal : Signal) :
    (r'.report u signal : Run σ ω RunError Outcome) = r.report u signal := by
  cases signal <;> simp only [report, hsettings]

/-- **Two runs whose units end with the same signal show the same**, if they find the same
leftovers. -/
theorem stream_run_of_signal {signal : Signal} {output output' : Option Bytes}
    (hsettings : r'.settings = r.settings) (hw : w'.stream = w.stream)
    (hv : r.settings.verbose = 0)
    (hend : (r.execute u (ready u w)).1 = .ok (.error signal, output))
    (hend' : (r'.execute u (ready u w')).1 = .ok (.error signal, output'))
    (hfound : signal ≠ .interrupt → r'.leftovers (r'.execute u (ready u w')).2.host =
      r.leftovers (r.execute u (ready u w)).2.host) :
    (r'.run u w').2.stream = (r.run u w).2.stream := by
  have hexecuted : SameStream (r'.execute u (ready u w')).2 (r.execute u (ready u w)).2 := by
    rw [SameStream, stream_execute hv, stream_execute (hsettings ▸ hv), stream_ready, stream_ready,
      hw]
  have hclass := classify_of_signal hend
  have hclass' := classify_of_signal hend'
  rw [report_congr hsettings] at hclass'
  obtain ⟨hresult, hsame⟩ := speaks_report r u signal _ _ hexecuted
  rw [← hclass, ← hclass'] at hresult hsame
  rw [stream_run, stream_run]
  by_cases hi : (r.classify u (ready u w)).1 = .error .interrupted
  · rw [scanned_of_interrupted hi, scanned_of_interrupted (hresult.trans hi)]
    exact hsame
  · have hi' : (r'.classify u (ready u w')).1 ≠ .error .interrupted := fun h => hi (hresult ▸ h)
    rw [scanned_of_ne hi, scanned_of_ne hi']
    have hsignal : signal ≠ .interrupt := by
      rintro rfl
      exact hi (congrArg Prod.fst hclass)
    have hhost := ((shows_report r u signal).told (r.execute u (ready u w)).2).host
    have hhost' := ((shows_report r u signal).told (r'.execute u (ready u w')).2).host
    rw [← hclass] at hhost
    rw [← hclass'] at hhost'
    refine (scan_agree hsettings hsame ?_).2
    rw [hhost, hhost']
    exact hfound hsignal

/-- **Output is contained.** A capture is active after a run exactly if one was before. If the run
is not verbose, the sink after the load and the run of the unit is the one that was flushed when the
capture began, whatever the unit and those that it loads have written; and another run with the same
settings, begun with the same stream, adds the same to the sink, whatever its unit writes, if it
ends with the same signal and leaves the same behind. -/
theorem run_contained (r : Runner σ) (u : UnitId) (w : World σ ω) :
    (r.run u w).2.stream.isCapturing = w.stream.isCapturing ∧
      (r.settings.verbose = 0 →
        (r.execute u (ready u w)).2.stream.sink = w.stream.begin.2.sink ∧
        ∀ (r' : Runner σ) (w' : World σ ω) (signal : Signal) (output output' : Option Bytes),
          r'.settings = r.settings → w'.stream = w.stream →
          (r.execute u (ready u w)).1 = .ok (.error signal, output) →
          (r'.execute u (ready u w')).1 = .ok (.error signal, output') →
          (signal ≠ .interrupt → r'.leftovers (r'.execute u (ready u w')).2.host =
            r.leftovers (r.execute u (ready u w)).2.host) →
          (r'.run u w').2.stream = (r.run u w).2.stream) := by
  refine ⟨isCapturing_run r u w, fun hv => ⟨?_, ?_⟩⟩
  · rw [stream_execute hv, stream_ready]
  · intro r' w' signal output output' hsettings hw hend hend' hfound
    exact stream_run_of_signal hsettings hw hv hend hend' hfound

/-! ### Two units that fail alike -/

/-- A test that writes a line and fails. -/
def failing (line : String) : Registry Shelf :=
  ⟨[("test_a", fun _ => .print line (.raise (.failure "wrong")))]⟩

/-- A runner of this test. -/
def failingRunner (line : String) : Runner Shelf := ⟨(failing line).loader, default, none⟩

/-- The world in which the test is run. -/
def failingWorld : World Shelf Memory := .start .empty Memory.empty

/-- What the test writes is not seen. -/
theorem run_contained_failing :
    ((failingRunner "one").run ⟨"test_a", ⟨"t"⟩⟩ failingWorld).2.stream.isCapturing = false ∧
      ((failingRunner "one").execute ⟨"test_a", ⟨"t"⟩⟩
        (ready ⟨"test_a", ⟨"t"⟩⟩ failingWorld)).2.stream.sink = Memory.empty ∧
      ((failingRunner "two").run ⟨"test_a", ⟨"t"⟩⟩ failingWorld).2.stream =
        ((failingRunner "one").run ⟨"test_a", ⟨"t"⟩⟩ failingWorld).2.stream := by
  obtain ⟨hcapturing, hcontained⟩ :=
    run_contained (failingRunner "one") ⟨"test_a", ⟨"t"⟩⟩ failingWorld
  obtain ⟨hsink, hagain⟩ := hcontained rfl
  have hnone (line : String) (host : Shelf) : (failingRunner line).leftovers host = [] := rfl
  refine ⟨hcapturing, hsink, hagain (failingRunner "two") failingWorld (.failure "wrong")
    (some (utf8 "test_a\none\n")) (some (utf8 "test_a\ntwo\n")) rfl rfl ?_ ?_ fun _ => ?_⟩
  · decide +kernel
  · decide +kernel
  · rw [hnone, hnone]

end Runner

end Golden
