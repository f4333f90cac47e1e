import Golden.Proofs.Runner.Kept

/-! # Expected outputs, generated twice

A round of closed units that generates expected outputs can be repeated: another runner that begins
with the files which the first one has left finds the same outcomes, and leaves the same contents in
all files.

Both rounds keep the same outputs one after the other, since the units cannot tell the files apart.
What this does to the files is known from `Runner.keepAll_again`.

* `Runner.run_keeps`: the run of a unit that generates its expected output.
* `Runner.runAll_keeps`: a whole round keeps the outputs of its units.
* `Runner.runAll_regenerated`: the second round. -/

namespace Golden.Runner

open FileSystem

variable {σ ω τ : Type} [FileSystem σ] [Sink ω] [Sink τ] {r r' : Runner σ} {E : σ → σ → Prop}
  {u : UnitId} {us : List UnitId} {w : World σ ω} {w' : World σ τ} {s t : σ}
  {x : Except Signal Unit × Option Bytes} {xs : List (Except Signal Unit × Option Bytes)}
  {outcomes : List Outcome}

/-! ### States with the same files -/

theorem keep_congr (hE : Congruence E) (h : E s t) (u : UnitId) (output : Bytes) :
    (keep u output s).1 = (keep u output t).1 ∧ E (keep u output s).2 (keep u output t).2 := by
  have hstored : (stored u output s).1 = (stored u output t).1 ∧
      E (stored u output s).2 (stored u output t).2 := by
    have hprepared : (prepared u s).1 = (prepared u t).1 ∧
        E (prepared u s).2 (prepared u t).2 := by
      unfold prepared
      cases u.goldenPath.parent? with
      | none => exact ⟨rfl, h⟩
      | some d => exact hE.makeDirectories h d
    rw [stored_eq, stored_eq, hprepared.1]
    cases (prepared u t).1 with
    | error e => exact ⟨rfl, hprepared.2⟩
    | ok _ => exact hE.write hprepared.2 _ _
  have hneeded : Needed u output s ↔ Needed u output t := by
    rw [Needed, Needed, hE.has h]
  by_cases hs : Needed u output s
  · rwa [keep_of_needed hs, keep_of_needed (hneeded.mp hs)]
  · rw [keep_of_not_needed hs, keep_of_not_needed (mt hneeded.mpr hs)]
    exact ⟨rfl, h⟩

theorem keepAll_congr (hE : Congruence E) : ∀ {es : List (UnitId × Bytes)} {s t : σ}, E s t →
    (keepAll es s).1 = (keepAll es t).1 ∧ E (keepAll es s).2 (keepAll es t).2
  | [], _, _, h => ⟨rfl, h⟩
  | (u, output) :: es, s, t, h => by
    obtain ⟨hresult, hkept⟩ := keep_congr hE h u output
    rw [keepAll, keepAll, hresult]
    cases (keep u output t).1 with
    | error e => exact ⟨rfl, hkept⟩
    | ok _ => exact keepAll_congr hE hkept

/-! ### What is kept -/

/-- What a runner keeps that generates expected outputs: the output of a unit that has ended without
a signal, if it was captured. -/
def kept (u : UnitId) : Except Signal Unit × Option Bytes → List (UnitId × Bytes)
  | (.ok (), some output) => [(u, output)]
  | _ => []

/-- The outcome of a unit whose output is kept. -/
def reached : Except Signal Unit × Option Bytes → Except RunError Outcome
  | (.error signal, _) => signal.outcome
  | (.ok (), _) => .ok .passed

/-- What is kept of several units. -/
def keptAll : List UnitId → List (Except Signal Unit × Option Bytes) → List (UnitId × Bytes)
  | u :: us, x :: xs => kept u x ++ keptAll us xs
  | _, _ => []

theorem mem_keptAll : ∀ {us : List UnitId} {xs : List (Except Signal Unit × Option Bytes)}
    {e : UnitId × Bytes}, e ∈ keptAll us xs → e.1 ∈ us
  | u :: us, x :: xs, e, he => by
    rcases List.mem_append.mp he with he | he
    · rcases x with ⟨_ | _, _ | output⟩ <;> simp_all [kept]
    · exact List.mem_cons_of_mem _ (mem_keptAll he)

/-- No expected output of a unit lies strictly under that of another one. -/
def GoldenLevel (us : List UnitId) : Prop :=
  ∀ u ∈ us, ∀ v ∈ us, u.goldenPath.components <+: v.goldenPath.components →
    u.goldenPath.same v.goldenPath

instance (us : List UnitId) : Decidable (GoldenLevel us) :=
  inferInstanceAs (Decidable (∀ u ∈ us, ∀ v ∈ us, _ → _))

theorem level_keptAll (h : GoldenLevel us) :
    ∀ e ∈ keptAll us xs, Level (keptAll us xs) e.1.goldenPath := by
  intro e he d hd
  by_cases hsame : d.1.goldenPath.same e.1.goldenPath = true
  · exact .inl hsame
  · have hsame' : ¬ e.1.goldenPath.same d.1.goldenPath = true := by
      simpa [Path.same, eq_comm] using hsame
    exact .inr ⟨mt (h _ (mem_keptAll he) _ (mem_keptAll hd)) hsame',
      mt (h _ (mem_keptAll hd) _ (mem_keptAll he)) hsame⟩

theorem keepAll_append (es es' : List (UnitId × Bytes)) (s : σ) : keepAll (es ++ es') s =
    match (keepAll es s).1 with
    | .error e => (.error e, (keepAll es s).2)
    | .ok () => keepAll es' (keepAll es s).2 := by
  induction es generalizing s with
  | nil => rfl
  | cons e es ih =>
    rw [List.cons_append, keepAll, keepAll]
    cases (keep e.1 e.2 s).1 with
    | error x => rfl
    | ok _ => exact ih _

theorem keepAll_append_eq_ok {es es' : List (UnitId × Bytes)} :
    (keepAll (es ++ es') s).1 = .ok () ↔
      (keepAll es s).1 = .ok () ∧ (keepAll es' (keepAll es s).2).1 = .ok () := by
  rw [keepAll_append]
  cases (keepAll es s).1 <;> simp

theorem keepAll_append_snd {es es' : List (UnitId × Bytes)} (h : (keepAll es s).1 = .ok ()) :
    (keepAll (es ++ es') s).2 = (keepAll es' (keepAll es s).2).2 := by
  rw [keepAll_append, h]

/-! ### One unit -/

/-- **A runner that generates expected outputs** of closed units. The relation says which states
hold the same files. -/
structure Regenerates (r : Runner σ) (E : σ → σ → Prop) : Prop where
  generates : r.settings.generate = true
  closed : r.loader.Closed
  files : Congruence E
  spares : ∀ d, r.detector = some d → d.Spares E

/-- **The outcome of a unit whose output is kept**, unless the sink refuses. -/
theorem classify_keeps (hgen : r.settings.generate = true) (hx : (r.execute u w).1 = .ok x) :
    ((r.classify u w).1 = ((keepAll (kept u x) (r.execute u w).2.host).1.mapError
        .fileSystem >>= fun _ => reached x) ∧
      (r.classify u w).2.host = (keepAll (kept u x) (r.execute u w).2.host).2) ∨
    (∃ reason, (r.classify u w).1 = .error (.io reason)) ∧ ¬ Sink.Reliable ω := by
  rw [classify_apply, hx]
  have hreport (signal : Signal) :
      ((r.report u signal (r.execute u w).2).1 = signal.outcome ∧
        (r.report u signal (r.execute u w).2).2.host = (r.execute u w).2.host) ∨
      (∃ reason, (r.report u signal (r.execute u w).2).1 = .error (.io reason)) ∧
        ¬ Sink.Reliable ω := by
    obtain ⟨htold, hresult, hsure⟩ := (shows_report r u signal).spec (r.execute u w).2
    by_cases hr : Sink.Reliable ω
    · exact .inl ⟨hsure hr, htold.host⟩
    · exact hresult.imp (fun h => ⟨h, htold.host⟩) fun h => ⟨h, hr⟩
  rcases x with ⟨signal | _, _ | output⟩
  · exact hreport signal
  · exact hreport signal
  · exact .inl ⟨rfl, rfl⟩
  · dsimp only [settle]
    rw [if_pos hgen]
    rcases generate_cases u output (r.execute u w).2 with ⟨hresult, hhost⟩ | ⟨hio, -, -, hsink⟩
    · left
      rw [hresult, hhost, kept, keepAll]
      cases (keep u output (r.execute u w).2.host).1 <;> exact ⟨rfl, rfl⟩
    · exact .inr ⟨hio, hsink⟩

/-- The result of a run is its outcome, unless the sink refuses when leftovers are reported. -/
theorem run_result (r : Runner σ) (u : UnitId) (w : World σ ω) :
    (r.run u w).1 = (r.classify u (ready u w)).1 ∨
      (∃ reason, (r.run u w).1 = .error (.io reason)) ∧ ¬ Sink.Reliable ω := by
  by_cases h : r.Scanned u w
  · obtain ⟨t, ht⟩ := run_of_scanned h
    exact .inl (by rw [ht])
  · obtain ⟨hne, hscan⟩ := Classical.not_imp.mp h
    obtain ⟨-, hresult, hsure⟩ := r.scan_spec (r.classify u (ready u w)).2
    obtain ⟨reason, hio⟩ := hresult.resolve_left hscan
    rw [run_of_ne hne, Run.bind_error hio]
    exact .inr ⟨⟨reason, rfl⟩, fun hr => hscan (hsure hr)⟩

/-- **The run of a unit keeps its output**, and this decides the outcome, unless the sink refuses.
Files may be replaced by the same files. -/
theorem run_keeps (hr : r.Regenerates E) (hw : w.Open) (hx : (r.execute u (ready u w)).1 = .ok x)
    (hs : E w.host s) :
    ((r.run u w).1 = ((keepAll (kept u x) s).1.mapError .fileSystem >>= fun _ => reached x) ∨
      (∃ reason, (r.run u w).1 = .error (.io reason)) ∧ ¬ Sink.Reliable ω) ∧
    ∀ o, (r.run u w).1 = .ok o → E (r.run u w).2.host (keepAll (kept u x) s).2 ∧
      (r.run u w).2.Open ∧ (r.run u w).2.modules =
        ((r.execute u (ready u w)).2.modules.unloadNew (ready u w).modules.names).2 := by
  have hready := open_ready (u := u) hw
  have hhost : (r.execute u (ready u w)).2.host = w.host := by
    rw [execute_host hr.closed, host_ready]
  obtain ⟨hsame, hkept⟩ : (keepAll (kept u x) w.host).1 = (keepAll (kept u x) s).1 ∧
      E (keepAll (kept u x) w.host).2 (keepAll (kept u x) s).2 := keepAll_congr hr.files hs
  have hclass := classify_keeps hr.generates hx
  rw [hhost, hsame] at hclass
  refine ⟨?_, fun o ho => ?_⟩
  · rcases run_result r u w with h | h
    · rw [h]
      exact hclass.imp_left And.left
    · exact .inr h
  · have hok := (run_eq_ok.mp ho).1
    have hsettled : (r.classify u (ready u w)).2.host = (keepAll (kept u x) w.host).2 := by
      rcases hclass with ⟨-, h⟩ | ⟨⟨reason, h⟩, -⟩
      · exact h
      · cases hok.symm.trans h
    have hfiles := hr.files.equivalence.symm
      (searched_spared hr.files.equivalence.refl hr.spares (keepAll (kept u x) w.host).2)
    obtain ⟨t, ht⟩ := run_snd ho
    obtain ⟨hscan, -⟩ := r.scan_spec (r.classify u (ready u w)).2
    have hopen := open_execute hready hx
    obtain ⟨host, htold⟩ := settled_classify r u (ready u w)
    refine ⟨?_, ?_, ?_⟩
    · rw [ht, hscan.host, hsettled]
      exact hr.files.equivalence.trans hfiles hkept
    · rw [ht]
      exact hscan.isOpen (htold.isOpen hopen)
    · rw [ht]
      exact congrArg (fun m => (ModuleTable.unloadNew m _).2) (hscan.modules.trans htold.modules)

/-- The error of a sink that refuses. -/
def OfSink : RunError → Prop
  | .io _ | .capture (.flush _) => True
  | _ => False

/-- If the output of a unit cannot be captured, the sink has refused. -/
theorem run_of_execute_error (hw : w.Open) {e : RunError}
    (hx : (r.execute u (ready u w)).1 = .error e) :
    (∃ e, (r.run u w).1 = .error e ∧ OfSink e) ∧ ¬ Sink.Reliable ω := by
  have hready := open_ready (u := u) hw
  have hsink : ¬ Sink.Reliable ω := by
    intro hr
    obtain ⟨x, hx'⟩ := execute_sure (r := r) (u := u) hr hready
    cases hx.symm.trans hx'
  refine ⟨?_, hsink⟩
  rcases run_result r u w with h | ⟨⟨reason, h⟩, -⟩
  · rw [h, classify_apply, hx]
    by_cases hv : r.settings.verbose = 0
    · cases hf : (Sink.flush (ready u w).stream.sink).1 with
      | ok _ =>
        rw [execute_captured r u hv hready hf] at hx
        cases hx
      | error reason =>
        rw [execute_refused r u hv hready hf] at hx
        cases hx
        exact ⟨_, rfl, trivial⟩
    · rw [execute_free r u hv] at hx
      cases hx
  · exact ⟨_, h, trivial⟩

/-! ### Rounds -/

/-- **How units end in turn**, when a runner runs one after the other. -/
inductive Ended (r : Runner σ) : World σ ω → List UnitId →
    List (Except Signal Unit × Option Bytes) → Prop where
  | nil (w : World σ ω) : Ended r w [] []
  | cons {w : World σ ω} {u : UnitId} {us : List UnitId} {x : Except Signal Unit × Option Bytes}
    {xs : List (Except Signal Unit × Option Bytes)} : (r.execute u (ready u w)).1 = .ok x →
    Ended r (r.run u w).2 us xs → Ended r w (u :: us) (x :: xs)

/-- **A round keeps the outputs of its units**, one after the other. -/
theorem runAll_keeps (hr : r.Regenerates E) : ∀ {us : List UnitId} {w : World σ ω} {s : σ}
    {outcomes : List Outcome}, w.Open → E w.host s → (r.runAll us w).1 = .ok outcomes →
    ∃ xs, r.Ended w us xs ∧ xs.map reached = outcomes.map .ok ∧
      (keepAll (keptAll us xs) s).1 = .ok () ∧
      E (r.runAll us w).2.host (keepAll (keptAll us xs) s).2
  | [], w, s, outcomes, _, hs, h => by
    obtain rfl := Except.ok.inj h
    exact ⟨[], .nil w, rfl, rfl, hs⟩
  | u :: us, w, s, outcomes, hw, hs, h => by
    obtain ⟨o, rest, ho, hrest, rfl, hend⟩ := runAll_cons_eq_ok h
    obtain ⟨x, hx⟩ := execute_of_classify (run_eq_ok.mp ho).1
    obtain ⟨hresult, hnext⟩ := run_keeps hr hw hx hs
    obtain ⟨hfiles, hopen, -⟩ := hnext o ho
    obtain ⟨xs, hended, houtcomes, hkept, hlast⟩ := runAll_keeps hr hopen hfiles hrest
    have hok : (keepAll (kept u x) s).1 = .ok () ∧ reached x = .ok o := by
      rcases hresult with h | ⟨⟨reason, h⟩, -⟩
      · rw [ho] at h
        cases hk : (keepAll (kept u x) s).1 with
        | error e =>
          rw [hk] at h
          cases h
        | ok _ =>
          rw [hk] at h
          exact ⟨rfl, h.symm⟩
      · cases ho.symm.trans h
    refine ⟨x :: xs, .cons hx hended, ?_, ?_, ?_⟩
    · rw [List.map_cons, List.map_cons, hok.2, houtcomes]
    · exact keepAll_append_eq_ok.mpr ⟨hok.1, hkept⟩
    · rw [hend, keptAll, keepAll_append_snd hok.1]
      exact hlast

/-- **Another round in which the units end in the same way** has the same outcomes and keeps the
same outputs, if they can be kept in the files it begins with. -/
theorem runAll_again_keeps (hr : r.Regenerates E) (hr' : r'.Regenerates E)
    (hs : r.surroundings = r'.surroundings)
    (hfirm : r.settings.verbose = 0 ∨ Sink.Reliable ω ∧ Sink.Reliable τ) :
    ∀ {us : List UnitId} {w : World σ ω} {w' : World σ τ} {s : σ}
      {xs : List (Except Signal Unit × Option Bytes)} {outcomes : List Outcome},
      w.Matched w' → E w'.host s → (r.runAll us w).1 = .ok outcomes → r.Ended w us xs →
      xs.map reached = outcomes.map .ok → (keepAll (keptAll us xs) s).1 = .ok () →
      ((r'.runAll us w').1 = .ok outcomes ∧
        E (r'.runAll us w').2.host (keepAll (keptAll us xs) s).2) ∨
      (∃ e, (r'.runAll us w').1 = .error e ∧ OfSink e) ∧ ¬ Sink.Reliable τ
  | [], _, _, _, _, _, _, hE, h, .nil _, _, _ => by
    obtain rfl := Except.ok.inj h
    exact .inl ⟨rfl, hE⟩
  | u :: us, w, w', s, _, _, hw, hE, h, .cons hx hended, hreached, hkeep => by
    obtain ⟨o, rest, ho, hrest, rfl, -⟩ := runAll_cons_eq_ok h
    obtain ⟨hreachedx, hreachedxs⟩ := List.cons.inj hreached
    obtain ⟨hkeepx, hkeepxs⟩ := keepAll_append_eq_ok.mp hkeep
    obtain ⟨-, hopen, hmodules⟩ := (run_keeps hr hw.left hx (hr.files.equivalence.refl _)).2 o ho
    rw [runAll_cons, keptAll, keepAll_append_snd hkeepx]
    have hready := matched_ready (u := u) hw
    cases hx' : (r'.execute u (ready u w')).1 with
    | error e =>
      obtain ⟨⟨e', he, hsink⟩, hr⟩ := run_of_execute_error hw.right hx'
      exact .inr ⟨⟨e', by rw [Run.bind_error he], hsink⟩, hr⟩
    | ok x' =>
      obtain ⟨rfl, hmatched⟩ := execute_agree hs hr.closed hfirm hready hx hx'
      obtain ⟨hresult, hnext⟩ := run_keeps hr' hw.right hx' hE
      rw [hkeepx] at hresult
      rcases hresult with ho' | ⟨⟨reason, hio⟩, hr⟩
      · replace ho' : (r'.run u w').1 = .ok o := ho'.trans hreachedx
        obtain ⟨hfiles, hopen', hmodules'⟩ := hnext o ho'
        have hmatched' : (r.run u w).2.Matched (r'.run u w').2 := by
          refine ⟨?_, hopen, hopen'⟩
          rw [hmodules, hmodules', ← hready.modules.names]
          exact hmatched.modules.unloadNew _
        rw [Run.bind_ok ho']
        rcases runAll_again_keeps hr hr' hs hfirm hmatched' hfiles hrest hended hreachedxs hkeepxs
          with ⟨hok, hlast⟩ | ⟨⟨e, he, hsink⟩, hr⟩
        · rw [Run.bind_ok hok]
          exact .inl ⟨rfl, hlast⟩
        · rw [Run.bind_error he]
          exact .inr ⟨⟨e, rfl, hsink⟩, hr⟩
      · exact .inr ⟨⟨.io reason, by rw [Run.bind_error hio], trivial⟩, hr⟩

/-- **Regeneration is idempotent.** If a round goes well that generates expected outputs, then so
does another one from the files that it leaves, unless the sink of the latter refuses. It has the
same outcomes, and the contents of all files stay as they are. -/
theorem runAll_regenerated (hr : r.Regenerates E) (hr' : r'.Regenerates E)
    (hs : r.surroundings = r'.surroundings) (hl : Lasting σ) (hlevel : GoldenLevel us)
    (hfirm : r.settings.verbose = 0 ∨ Sink.Reliable ω ∧ Sink.Reliable τ) {host : σ} {sink : ω}
    (h : (r.runAll us (.start host sink)).1 = .ok outcomes) (sink' : τ) :
    let files := r.filesAfter us host sink
    let again := r'.runAll us (.start files sink')
    (again.1 = .ok outcomes ∧ ∀ q, contents again.2.host q = contents files q) ∨
      (∃ e, again.1 = .error e ∧ OfSink e) ∧ ¬ Sink.Reliable τ := by
  intro files again
  have hw : (World.start host sink).Matched (World.start files sink') := ⟨⟨rfl, rfl⟩, rfl, rfl⟩
  obtain ⟨xs, hended, hreached, hkept, hlast⟩ :=
    runAll_keeps hr hw.left (hr.files.equivalence.refl host) h
  obtain ⟨hagain, hcontents⟩ := keepAll_again hl (level_keptAll hlevel) hkept
  refine (runAll_again_keeps hr hr' hs hfirm hw hlast h hended hreached hagain).imp_left ?_
  rintro ⟨hok, hend⟩
  refine ⟨hok, fun q => ?_⟩
  have hread {s t : σ} (hE : E s t) : contents s q = contents t q :=
    congrArg Except.toOption (hr.files.read hE q)
  rw [hread hend, hcontents q, ← hread hlast]
  rfl

/-- The two tests, and the first of them again. -/
def repeatedUnits : List UnitId := helpedUnits ++ [⟨"test_a", ⟨"t"⟩⟩]

/-- The first test has output to store at first, and later only what is expected anyhow. -/
theorem runAll_regenerated_repeated :
    let files := (helpedRunner true).filesAfter repeatedUnits .empty Memory.empty
    let again := (helpedRunner true).runAll repeatedUnits (.start files Memory.empty)
    again.1 = .ok [.passed, .passed, .passed] ∧
      ∀ q, contents again.2.host q = contents files q := by
  have hr : (helpedRunner true).Regenerates Eq :=
    ⟨rfl, closed_helped, congruence_eq, fun _ h => by cases h⟩
  have hlevel : GoldenLevel repeatedUnits := by decide +kernel
  have h : ((helpedRunner true).runAll repeatedUnits (.start .empty Memory.empty)).1 =
      .ok [.passed, .passed, .passed] := by decide +kernel
  exact (runAll_regenerated hr hr rfl Shelf.lasting hlevel (.inl rfl) h
    Memory.empty).resolve_right fun hsink => hsink.2 Memory.reliable

/-- What is expected anyhow is stored where there is a file. -/
example :
    let files := (helpedRunner true).filesAfter repeatedUnits .empty Memory.empty
    contents files ⟨"t/output/test_a"⟩ = some (utf8 "test_a\n") ∧
      contents files ⟨"t/output/test_b"⟩ = none := by
  decide +kernel

end Golden.Runner
