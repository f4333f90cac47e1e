import Golden.Proofs.Memo
import Golden.Proofs.Suite.Steps
import Golden.Proofs.Suite.Turns
import Golden.Proofs.Text.Utf8

/-! # The memo that a run saves

What lies around a run changes while its units run (`Suite.left`), and then once more, when the memo
is saved. The memo can be read, and holds what the run returned.

* `Suite.host_runTests`: the loops of a run change nothing but what the units change.
* `Memo.parse_of_plain`: a memo without NUL is read back.
* `Suite.run_saved`: the last change of a run that returns a result, and what can be read then. -/

namespace Golden

/-! ### Memos without NUL -/

/-- A memo in whose names there is no NUL comes back as it was. -/
theorem Memo.parse_of_plain {m : Memo} (h : ∀ s, ∀ n ∈ m.names s, '\x00' ∉ n.toList) :
    Memo.parse m.render = .ok m := by
  have hnames (s : Section) : (m.names s).map Memo.rereadName = m.names s := by
    have hsame : (m.names s).map Memo.rereadName = (m.names s).map id := by
      refine List.map_congr_left fun n hn => Memo.rereadName_eq_self.mpr fun d _ hpair => ?_
      exact h s n hn (hpair.subset List.mem_cons_self)
    rw [hsame, List.map_id]
  have hm : m.reread = m := Memo.ext_names fun s => by rw [Memo.names_reread, hnames]
  rw [Memo.parse_render, hm]

/-- How a unit is shown has no NUL if its name and its root have none. -/
theorem UnitId.plain_display {u : UnitId} (hname : '\x00' ∉ u.name.toList)
    (hroot : '\x00' ∉ u.root.spelling.toList) (severalRoots : Bool) :
    '\x00' ∉ (u.display severalRoots).toList := by
  unfold UnitId.display
  split_ifs
  · simp [hname, hroot]
  · exact hname

/-- A file system in which what was written is read back. -/
def FileSystem.KeepsWritten (σ : Type) [FileSystem σ] : Prop :=
  ∀ (host : σ) p bs, (write host p bs).1 = .ok () → read (write host p bs).2 p = .ok bs

theorem FileSystem.Faithful.keepsWritten {σ : Type} [FileSystem σ] (h : FileSystem.Faithful σ) :
    FileSystem.KeepsWritten σ := h.written

namespace Suite

variable {σ ω : Type} [Sink ω] [FileSystem σ] {s : Suite σ}

/-! ### The changes of the units -/

/-- **What the units leave** that have their turns: what lies around the run after the last of
them. -/
def left (s : Suite σ) (ts : List (Turn σ ω)) (host : σ) : σ :=
  ts.foldl (fun _ t => (s.after t).host) host

theorem left_append (ts us : List (Turn σ ω)) (host : σ) :
    s.left (ts ++ us) host = s.left us (s.left ts host) :=
  List.foldl_append

/-- The loop over roots changes what its units change. -/
theorem host_runIn {name : String} {later : List UnitId} : ∀ {roots : List Path}
    {records : List (UnitId × Outcome)} {found : Bool} {w : World σ ω}
    {r : List (UnitId × Outcome) × Visit}, (s.runIn name roots records found w).1 = .ok r →
      (s.runIn name roots records found w).2.host = s.left (s.turnsIn name later roots w) w.host
  | [], _, _, _, _, _ => rfl
  | root :: roots, records, found, w, r, h => by
    obtain ⟨ts, end', hts, hend, hvisit⟩ := s.visit name later root roots records found w
    rw [hend] at h ⊢
    rw [hts]
    cases hvisit with
    | stopped _ => rfl
    | missing => exact host_runIn h
    | refused e v => cases h
    | ran o ho => exact host_runIn h
    | interrupted _ => rfl
    | failed e _ _ => cases h

/-- **The loop over tests changes what its units change.** -/
theorem host_runTests {p : Plan} : ∀ {names : List String} {index : Nat}
    {records : List (UnitId × Outcome)} {w : World σ ω} {tally : Tally},
    (s.runTests p index names records w).1 = .ok tally →
      (s.runTests p index names records w).2.host =
        s.left (s.turnsOf p index names records w) w.host
  | [], _, _, _, _, _ => rfl
  | name :: names, index, records, w, tally, h => by
    have hroots {r : List (UnitId × Outcome) × Visit} {v : World σ ω}
        (hr : s.runIn name (candidates p name) records false (reached index w) = (.ok r, v)) :
        v.host = s.left (s.turnsIn name (sought p names) (candidates p name) (reached index w))
          w.host := by
      have hhost : (s.runIn name (candidates p name) records false (reached index w)).2.host =
          s.left (s.turnsIn name (sought p names) (candidates p name) (reached index w)) w.host :=
        host_runIn (congrArg Prod.fst hr)
      rwa [hr] at hhost
    obtain ⟨ts, end', hts, hend, hpass⟩ := s.pass p index name names records w
    rw [hend] at h ⊢
    rw [hts]
    cases hpass with
    | failed e v _ => cases h
    | interrupted r v hr _ => exact hroots hr
    | passed r v hr _ =>
      have hremark := (noted_remark p name r.2.found v).told.host
      rw [host_runTests h, left_append, hremark, hroots hr]

/-! ### The end of a run -/

/-- A run that ends well has saved its memo, and has changed nothing else since its last test. -/
theorem host_closing {result r : SuiteResult} {w : World σ ω}
    (h : (s.closing result w).1 = .ok r) :
    s.recorded result w.host = (.ok (), (s.closing result w).2.host) := by
  have hhost := ((s.shows_summarize result).told w).host
  obtain ⟨t, ht⟩ := s.keepMemo_apply result (s.summarize result w).2
  rw [closing_eq] at h ⊢
  obtain ⟨_, hsummary, h⟩ := Run.bind_eq_ok.mp h
  obtain ⟨_, hkeep, -⟩ := Run.bind_eq_ok.mp h
  rw [ht, hhost] at hkeep
  rw [Run.bind_ok hsummary, Run.bind_ok (by rw [ht, hhost]; exact hkeep), ht, hhost]
  cases hrecorded : s.recorded result w.host with
  | mk saved host =>
    rw [hrecorded] at hkeep
    cases saved with
    | error e => cases hkeep
    | ok _ => rfl

/-- **What a run that returns a result leaves**: what its units leave, with the memo in it. -/
theorem host_run {w : World σ ω} {result : SuiteResult} (h : (s.run w).1 = .ok result) :
    s.recorded result (s.left (s.turns w) w.host) = (.ok (), (s.run w).2.host) := by
  obtain ⟨p, tally, hopening, hplan, hrun, hresult⟩ := s.run_eq_ok h
  have hbefore := (s.plan_opening w).2.host
  have htests := host_runTests hrun
  have hadvance := (noted_advance (σ := σ) (ω := ω) .reconciling
    (s.runTests p 0 p.tests [] (s.plan (s.opening w).2).2).2).told.host
  rw [turns_of_planned hopening hplan, ← hbefore, ← htests, ← hadvance]
  rw [run_eq, Run.bind_ok hopening, Run.bind_ok hplan, Run.bind_ok hrun,
    Run.bind_ok (ok_advance _ _), ← hresult] at h ⊢
  exact host_closing h

/-- Whether a result shows roots depends on the roots that are searched. -/
theorem severalRoots_run {w : World σ ω} {result : SuiteResult} (h : (s.run w).1 = .ok result) :
    result.severalRoots = decide (1 < (s.rootsAt w.host).length) := by
  obtain ⟨p, tally, -, hplan, -, rfl⟩ := s.run_eq_ok h
  have hplanned := (s.plan_opening w).1
  rw [hplan] at hplanned
  have hroots : p.roots = s.rootsAt w.host := by
    unfold planned at hplanned
    cases htests : s.selectedAt w.host with
    | error e =>
      rw [htests] at hplanned
      cases hplanned
    | ok tests =>
      rw [htests] at hplanned
      rw [Except.ok.inj hplanned]
  change (Tally.result _ _).severalRoots = _
  rw [Tally.severalRoots_result, hroots]

theorem ascending_run {w : World σ ω} {result : SuiteResult} (h : (s.run w).1 = .ok result)
    (k : Section) : UnitId.Ascending (result.units k) := by
  obtain ⟨p, tally, -, -, -, rfl⟩ := s.run_eq_ok h
  rw [units_resultOf]
  exact UnitId.ascending_sort _

/-- **The memo that is saved is the result.** A run that returns a result, interrupted or not, writes
its memo to the given path when the units have run, and changes nothing else after them. What can be
read at the path then is a memo with the units of the result, in ascending order, and with their
roots exactly if more than one root is searched. -/
theorem run_saved (hkeeps : FileSystem.KeepsWritten σ) {w : World σ ω} {result : SuiteResult}
    (h : (s.run w).1 = .ok result) {path : Path} (hmemo : s.options.memo = some path)
    (hplain : ∀ k, ∀ u ∈ result.units k,
      '\x00' ∉ u.name.toList ∧ '\x00' ∉ u.root.spelling.toList) :
    ∃ text : String,
      FileSystem.write (s.left (s.turns w) w.host) path (utf8 text) =
        (.ok (), (s.run w).2.host) ∧
      FileSystem.read (s.run w).2.host path = .ok (utf8 text) ∧
      Utf8.decode? (utf8 text) = some text ∧
      (∃ memo, Memo.parse text = .ok memo ∧ ∀ k, memo.names k =
        (result.units k).map (·.display (1 < (s.rootsAt w.host).length))) ∧
      ∀ k, UnitId.Ascending (result.units k) := by
  have hwrite : FileSystem.write (s.left (s.turns w) w.host) path
      (utf8 (Memo.ofResult result).render) = (.ok (), (s.run w).2.host) := by
    rw [← host_run h, recorded, hmemo]
  have hread := hkeeps (s.left (s.turns w) w.host) path (utf8 (Memo.ofResult result).render)
    (congrArg Prod.fst hwrite)
  rw [hwrite] at hread
  have hnames (k : Section) : (Memo.ofResult result).names k =
      (result.units k).map (·.display (1 < (s.rootsAt w.host).length)) := by
    rw [← severalRoots_run h]
    cases k <;> rfl
  refine ⟨_, hwrite, hread, Utf8.decode?_encode _, ⟨_, Memo.parse_of_plain fun k n hn => ?_, hnames⟩,
    ascending_run h⟩
  rw [hnames] at hn
  obtain ⟨u, hu, rfl⟩ := List.mem_map.mp hn
  exact UnitId.plain_display (hplain k u hu).1 (hplain k u hu).2 _

/-- A name that needs escapes. -/
def awkwardName : String := "test_\"a\\\n"

/-- Two roots are searched. The test that both of them have fails in the second one, and the other
test is interrupted. -/
def cutSuite : Suite Shelf where
  options := { Options.none with
    tests := [awkwardName, "test_b"], broad := true, memo := some ⟨"memo"⟩ }
  config := ⟨⟨[⟨"t"⟩, ⟨"u"⟩], "py", [], []⟩, defaultPlatform⟩
  loader := Registry.loader
    ⟨[(awkwardName, fun c => if c.unit.root = ⟨"t"⟩ then .done else .raise (.failure "no")),
      ("test_b", fun _ => .raise .interrupt)]⟩
  detector := none
  entropy := 0

/-- The world in which the tests are. -/
def cutWorld : World Shelf Memory :=
  .start ⟨[(⟨"t/test_\"a\\\n.py"⟩, []), (⟨"u/test_\"a\\\n.py"⟩, []), (⟨"u/test_b.py"⟩, [])]⟩ .empty

/-- The result up to the interruption. -/
def cutResult : SuiteResult where
  good := [⟨awkwardName, ⟨"t"⟩⟩]
  bad := [⟨awkwardName, ⟨"u"⟩⟩]
  skipped := []
  interrupted := true
  severalRoots := true

/-- The memo of an interrupted run shows the roots of its units. -/
theorem run_saved_cutSuite : ∃ text memo,
    FileSystem.read (cutSuite.run cutWorld).2.host ⟨"memo"⟩ = .ok (utf8 text) ∧
      Memo.parse text = .ok memo ∧
      memo.names .good = ["[t]test_\"a\\\n"] ∧ memo.names .bad = ["[u]test_\"a\\\n"] := by
  have hrun : (cutSuite.run cutWorld).1 = .ok cutResult := by decide +kernel
  have hmemo : cutSuite.options.memo = some ⟨"memo"⟩ := rfl
  have hplain : ∀ k, ∀ u ∈ cutResult.units k,
      '\x00' ∉ u.name.toList ∧ '\x00' ∉ u.root.spelling.toList := by
    intro k u hu
    cases k with
    | good =>
      obtain rfl := List.mem_singleton.mp hu
      decide +kernel
    | bad =>
      obtain rfl := List.mem_singleton.mp hu
      decide +kernel
    | skipped => cases hu
  obtain ⟨text, -, hread, -, ⟨memo, hparse, hnames⟩, -⟩ :=
    run_saved Shelf.faithful.keepsWritten hrun hmemo hplain
  refine ⟨text, memo, hread, hparse, (hnames .good).trans ?_, (hnames .bad).trans ?_⟩
  · decide +kernel
  · decide +kernel

end Suite

end Golden
