import Golden.Proofs.Runner.Presentation
import Golden.Proofs.Suite.Results

/-! # How runs of suites are shown

Being quiet and being colored are a matter of presentation: they decide about what the operator sees,
and about nothing else. What a colored run shows is what a plain one shows, with colors.

* `Presents.summary`: a summary is written in either manner.
* `Suite.agree_run`: the run of a suite, shown in two manners.
* `Suite.run_shown`: the result and all files are the same, and the outputs differ in colors only. -/

namespace Golden

variable {σ : Type}

/-! ### Summaries -/

section Summaries
variable {R : Bytes → Bytes → Prop} {p p' : Painter} {quiet : Bool}
  (hR : Stream.Extends R) (hpaint : ∀ s text, Stream.Interchange R (p.paint s text) (p'.paint s text))
include hR hpaint

namespace Summary

omit hpaint in
theorem interchange_same (ls : List String) : List.Forall₂ (Stream.Interchange R) ls ls :=
  List.forall₂_same.mpr fun l _ => .refl hR l

/-- The lines of a summary are painted in either manner. -/
theorem interchange_lines (verbose : Nat) (e : ExpectedSkips) (r : SuiteResult) :
    List.Forall₂ (Stream.Interchange R) (lines ⟨verbose, quiet, p⟩ e r)
      (lines ⟨verbose, quiet, p'⟩ e r) := by
  have hheaded (s : Style) (heading : String) (ls : List String) :
      List.Forall₂ (Stream.Interchange R) (p.paint s heading :: ls) (p'.paint s heading :: ls) :=
    .cons (hpaint s heading) (interchange_same hR ls)
  have hsurprise : List.Forall₂ (Stream.Interchange R) (surpriseLines ⟨verbose, quiet, p⟩ e r)
      (surpriseLines ⟨verbose, quiet, p'⟩ e r) := by
    unfold surpriseLines
    split
    · exact interchange_same hR _
    · exact hheaded _ _ _
    · exact interchange_same hR _
  refine List.rel_append (List.rel_append (List.rel_append ?_ ?_) ?_) ?_
  · unfold interruptedLines
    split_ifs
    · exact hheaded _ _ _
    · exact .nil
  · unfold goodLines
    split
    · exact .nil
    · exact hheaded _ _ _
  · unfold badLines
    split_ifs
    · exact .nil
    · exact hheaded _ _ _
  · unfold skippedLines
    split_ifs
    · exact .nil
    · exact .cons (hpaint _ _) (List.rel_append (interchange_same hR _) hsurprise)

end Summary
end Summaries

/-- **A summary is written in either manner.** -/
theorem Presents.summary {R : Bytes → Bytes → Prop} {p p' : Painter} {quiet quiet' : Bool}
    (hP : Presents R p p' quiet quiet') (verbose : Nat) (e : ExpectedSkips) (r : SuiteResult) :
    Stream.Interchange R (Summary.text ⟨verbose, quiet, p⟩ e r)
      (Summary.text ⟨verbose, quiet', p'⟩ e r) := by
  rcases hP.quiet with rfl | hR
  · exact .lines hP.extended (Summary.interchange_lines hP.extended hP.paint verbose e r)
  · exact fun _ _ _ => hR _ _

/-! ### Plans -/

theorem Selection.mute_discoverAll [FileSystem σ] (extension : String)
    (standard excluded : List String) : ∀ (roots : List Path) (found : List String),
      Run.Mute (discoverAll extension standard excluded found roots :
        Run σ Memory FileSystemError (List String))
  | [], _ => .pure _
  | root :: roots, found => by
    have hdiscover : Run.Mute (discover root extension standard excluded :
        Run σ Memory FileSystemError (List String)) :=
      Run.Mute.host.bind fun _ => (Run.Mute.ofResult _).bind fun _ =>
        (Run.Mute.note _).bind fun _ => .pure _
    exact hdiscover.bind fun _ => mute_discoverAll extension standard excluded roots _

namespace Suite

variable [FileSystem σ] (s : Suite σ)

theorem mute_select (roots : List Path) :
    Run.Mute (s.select roots : Run σ Memory RunError (List String)) := by
  have hall : Run.Mute (Selection.allTests roots s.config.discovery.extension s.names.standard
      s.names.excluded : Run σ Memory FileSystemError (List String)) :=
    (Selection.mute_discoverAll _ _ _ roots []).bind fun _ => .pure _
  unfold select
  dsimp only
  split_ifs
  · exact .pure _
  · exact hall.mapError _

/-- A plan is made without the stream. -/
theorem mute_plan : Run.Mute (s.plan : Run σ Memory RunError Plan) := by
  have hroots : Run.Mute (Selection.roots s.config.discovery.searchPath s.options.broad :
      Run σ Memory RunError (List Path)) :=
    Run.Mute.host.bind fun _ => (Run.Mute.forM (fun _ => .note _) _).bind fun _ => .pure _
  have horder (tests : List String) :
      Run.Mute (s.order tests : Run σ Memory RunError (List String)) := by
    unfold order
    split_ifs
    · exact (Run.Mute.note _).bind fun _ => .pure _
    · exact .pure _
  have hrest (roots : List Path) : Run.Mute (s.select roots >>= fun tests =>
      s.order tests >>= fun tests =>
        pure ({ tests, roots, oneOnly := s.oneOnly, explicit := s.names.named ≠ [] } : Plan) :
          Run σ Memory RunError Plan) :=
    (s.mute_select roots).bind fun tests => (horder tests).bind fun _ => .pure _
  unfold plan
  refine hroots.bind fun roots => ?_
  split_ifs
  · exact (Run.Mute.note _).bind fun _ => hrest roots
  · exact hrest roots

/-! ### Loops -/

/-- The same suite, with another manner of presentation. -/
def shown (s : Suite σ) (quiet color : Bool) : Suite σ :=
  { s with options := { s.options with quiet, color } }

section Agreement
variable {R : Bytes → Bytes → Prop} {quiet color foreign : Bool}
  (hP : Presents R ⟨s.options.color⟩ ⟨color⟩ s.options.quiet quiet)
include hP

omit [FileSystem σ] in
theorem agree_announce (name : String) : Run.Agree (World.Abreast (σ := σ) R foreign)
    (s.announce name) ((s.shown quiet color).announce name) := by
  unfold announce
  exact hP.unlessQuiet ((Runner.writes_sayText _).bind Runner.writes_flush)
    ((Runner.agree_say hP.extended (.refl hP.extended _)).bind fun _ => Runner.agree_flush)

theorem agree_runIn (name : String) : ∀ (roots : List Path) (records : List (UnitId × Outcome))
    (found : Bool), Run.Agree (World.Abreast (σ := σ) R foreign)
      (s.runIn name roots records found) ((s.shown quiet color).runIn name roots records found)
  | [], _, _ => (Run.Mute.pure _).agree_abreast
  | root :: roots, records, found => by
    intro w w' h
    have hsame : w'.interrupt = w.interrupt ∧ w'.host = w.host := by
      obtain ⟨⟨_, _, rfl⟩, _⟩ := h
      exact ⟨rfl, rfl⟩
    cases hstop : w.interrupt with
    | true =>
      rw [s.runIn_stopped hstop, (s.shown quiet color).runIn_stopped (hsame.1.trans hstop)]
      exact ⟨rfl, h⟩
    | false =>
      have hstop' := hsame.1.trans hstop
      cases hs : FileSystem.has w.host (s.source ⟨name, root⟩) with
      | false =>
        have hs' : FileSystem.has w'.host ((s.shown quiet color).source ⟨name, root⟩) = false :=
          hsame.2 ▸ hs
        rw [s.runIn_missing hstop hs, (s.shown quiet color).runIn_missing hstop' hs']
        exact agree_runIn name roots records found w w' h
      | true =>
        have hs' : FileSystem.has w'.host ((s.shown quiet color).source ⟨name, root⟩) = true :=
          hsame.2 ▸ hs
        rw [s.runIn_present hstop hs, (s.shown quiet color).runIn_present hstop' hs']
        refine ((s.agree_announce hP name).bind fun _ =>
          (s.runner.agree_run ⟨name, root⟩ hP).observe.bind fun outcome => ?_) w w' h
        rcases outcome with (_ | _ | _ | _ | _) | o
        · exact fun _ _ h => ⟨rfl, h⟩
        · exact fun _ _ h => ⟨rfl, h⟩
        · exact fun _ _ h => ⟨rfl, h⟩
        · exact (Run.Mute.pure _).agree_abreast
        · exact fun _ _ h => ⟨rfl, h⟩
        · exact agree_runIn name roots _ true

theorem agree_runTests (p : Plan) : ∀ (names : List String) (index : Nat)
    (records : List (UnitId × Outcome)), Run.Agree (World.Abreast (σ := σ) R foreign)
      (s.runTests p index names records) ((s.shown quiet color).runTests p index names records)
  | [], _, _ => (Run.Mute.pure _).agree_abreast
  | name :: names, index, records => by
    have hremark (found : Bool) : Run.Mute (remark p name found : Run σ Memory RunError Unit) := by
      unfold remark
      split_ifs
      · exact .note _
      · exact .pure _
    rw [runTests_cons, runTests_cons]
    refine Run.Agree.bind (Run.Mute.agree_abreast fun _ _ => rfl) fun _ => ?_
    refine (s.agree_runIn hP name _ records false).bind fun r => ?_
    split_ifs
    · exact (Run.Mute.pure _).agree_abreast
    · exact (hremark _).agree_abreast.bind fun _ => agree_runTests p names _ _

/-! ### Whole runs -/

omit hP [FileSystem σ] in
theorem mute_advance (phase : Phase) : Run.Mute (advance phase : Run σ Memory RunError Unit) :=
  fun _ _ => rfl

omit [FileSystem σ] in
theorem agree_opening : Run.Agree (World.Abreast (σ := σ) R foreign) s.opening
    (s.shown quiet color).opening := by
  have hadvance : Run.Agree (World.Abreast (σ := σ) R foreign)
      (advance .discovering : Run σ Memory RunError Unit) (advance .discovering) :=
    (mute_advance _).agree_abreast
  unfold opening
  refine ((Run.Mute.ofResult _).mapError _).agree_abreast.bind fun _ => ?_
  change Run.Agree _ (if s.options.findLeaks && s.detector.isNone then _ else _)
    (if s.options.findLeaks && s.detector.isNone then _ else _)
  split_ifs
  · exact (Runner.agree_say hP.extended (.refl hP.extended _)).bind fun _ => hadvance
  · exact hadvance

omit [FileSystem σ] in
theorem agree_summarize (result : SuiteResult) : Run.Agree (World.Abreast (σ := σ) R foreign)
    (s.summarize result) ((s.shown quiet color).summarize result) := by
  have htext : Run.Agree (World.Abreast (σ := σ) R foreign)
      (advance .reporting >>= fun _ => Runner.sayText
        (Summary.text s.manner (.ofPlatform s.config.platform) result) >>= fun _ => Runner.flush)
      (advance .reporting >>= fun _ => Runner.sayText
        (Summary.text (s.shown quiet color).manner (.ofPlatform s.config.platform) result) >>=
          fun _ => Runner.flush) :=
    (mute_advance _).agree_abreast.bind fun _ =>
      (Runner.agree_sayText (hP.summary s.options.verbose _ result)).bind fun _ =>
        Runner.agree_flush
  unfold summarize
  split_ifs
  · exact (Run.Mute.note _).agree_abreast.bind fun _ => htext
  · exact htext

omit hP in
theorem mute_keepMemo (result : SuiteResult) :
    Run.Mute (s.keepMemo result : Run σ Memory RunError Unit) := by
  unfold keepMemo saveMemo
  cases s.options.memo with
  | none => exact .pure _
  | some path => exact (Run.Mute.mapError _ fun _ _ => rfl).bind fun _ => .note _

theorem agree_closing (result : SuiteResult) : Run.Agree (World.Abreast (σ := σ) R foreign)
    (s.closing result) ((s.shown quiet color).closing result) := by
  rw [closing_eq, closing_eq]
  exact (s.agree_summarize hP result).bind fun _ => (s.mute_keepMemo result).agree_abreast.bind
    fun _ => (mute_advance _).agree_abreast.bind fun _ => (Run.Mute.pure _).agree_abreast

/-- **The run of a suite** goes the same way in both manners of presentation. -/
theorem agree_run :
    Run.Agree (World.Abreast (σ := σ) R foreign) s.run (s.shown quiet color).run := by
  rw [run_eq, run_eq]
  refine (s.agree_opening hP).bind fun _ => s.mute_plan.agree_abreast.bind fun p => ?_
  exact (s.agree_runTests hP p p.tests 0 []).bind fun tally =>
    (mute_advance _).agree_abreast.bind fun _ => s.agree_closing hP _

end Agreement

/-- **Presentation does not influence results.** Whether a run is quiet and whether it is colored, it
has the same result or the same error, and leaves the same world up to the stream; so it has made the
same directories and has written the same files, whatever a file system is. A colored run shows what
a plain one shows, with colors. -/
theorem run_shown (s : Suite σ) (quiet color : Bool) (w : World σ Memory) :
    ((s.shown quiet color).run w).1 = (s.run w).1 ∧
    (∃ stream, ((s.shown quiet color).run w).2 = { (s.run w).2 with stream }) ∧
    ∃ plain colored,
      ((s.shown quiet false).run w).2.stream.taken = w.stream.taken ++ plain ∧
      ((s.shown quiet true).run w).2.stream.taken = w.stream.taken ++ colored ∧
      (Paint.escape ∉ plain → Paint.uncolored colored = plain) := by
  have hany : Presents (fun _ _ => True) ⟨s.options.color⟩ ⟨color⟩ s.options.quiet quiet :=
    presents_any _ _ _ _
  have htinted : Presents (Tinted w.stream.taken) ⟨(s.shown quiet false).options.color⟩ ⟨true⟩
      (s.shown quiet false).options.quiet quiet := presents_tinted _ quiet
  have hstart : Tinted w.stream.taken w.stream.taken w.stream.taken :=
    ⟨[], [], (List.append_nil _).symm, (List.append_nil _).symm, .nil⟩
  obtain ⟨hresult, ⟨stream, -, hworld⟩, -⟩ := s.agree_run hany w w (.refl trivial)
  refine ⟨hresult.symm, ⟨stream, hworld⟩, ?_⟩
  obtain ⟨-, ⟨stream', hstream, hworld'⟩, hrest⟩ :=
    (s.shown quiet false).agree_run htinted w w (.refl hstart)
  obtain ⟨plain, colored, hplain, hcolored, h⟩ := hstream.taken hrest
  have hsame : (s.shown quiet true).run w = ((s.shown quiet false).shown quiet true).run w := rfl
  rw [hsame, hworld']
  exact ⟨plain, colored, hplain, hcolored, h.uncolored_eq⟩

omit [FileSystem σ] in
/-- The report of a failure is colored, and is the same without its colors. -/
theorem run_shown_sample :
    Paint.escape ∈ ((sample.shown false true).run sampleWorld).2.stream.taken ∧
    Paint.uncolored ((sample.shown false true).run sampleWorld).2.stream.taken =
      ((sample.shown false false).run sampleWorld).2.stream.taken := by
  obtain ⟨-, -, plain, colored, hplain, hcolored, h⟩ := run_shown sample false true sampleWorld
  have hstart : sampleWorld.stream.taken = [] := rfl
  rw [hstart, List.nil_append] at hplain hcolored
  have hescape : Paint.escape ∉
      ((sample.shown false false).run sampleWorld).2.stream.taken := by decide +kernel
  refine ⟨by decide +kernel, ?_⟩
  rw [hplain] at hescape ⊢
  rw [hcolored, h hescape]

end Suite

end Golden
