import Golden.Proofs.Diff.Report
import Golden.Proofs.Runner.Containment
import Golden.Proofs.Text.Utf8

/-! # Output that is not expected

Output is compared with what is expected octet by octet, but the report is one of two texts: on both
sides, a character that is not well encoded is read as a replacement. So a difference may not be
seen in the report. That is so exactly if both sides are read as the same text, which then has a
replacement in it.

* `Sink.Records`: sinks that keep what is written.
* `Runner.prints_judge`: what is printed when output is not expected.
* `Runner.run_mismatch`: what a run shows of output that is not expected.
* `Runner.run_unseen`: a run that fails, and shows no difference. -/

namespace Golden

variable {σ ω α β : Type} [Sink ω]

/-- **A kind of sink that takes everything**: it refuses nothing, and `seen` tells what a sink has
taken so far. -/
structure Sink.Records (seen : ω → Bytes) : Prop where
  reliable : Sink.Reliable ω
  write : ∀ sink bs, seen (Sink.write sink bs).2 = seen sink ++ bs
  flush : ∀ sink, seen (Sink.flush sink).2 = seen sink

theorem Memory.records : Sink.Records Memory.contents :=
  ⟨Memory.reliable, fun _ _ => rfl, fun _ => rfl⟩

namespace Runner

variable {seen : ω → Bytes} {r : Runner σ} {u : UnitId}

/-! ### Printing -/

/-- **An action that prints** the octets while no capture is active, and returns a value. -/
def Prints (seen : ω → Bytes) (x : Run σ ω RunError α) (a : α) (bs : Bytes) : Prop :=
  ∀ v : World σ ω, v.Open → (x v).1 = .ok a ∧ (x v).2.Open ∧
    seen (x v).2.stream.sink = seen v.stream.sink ++ bs

namespace Prints

variable {a : α} {b : β} {x : Run σ ω RunError α} {f : α → Run σ ω RunError β} {bs bs' : Bytes}

omit [Sink ω] in
theorem pure (a : α) : Prints seen (Pure.pure a : Run σ ω RunError α) a [] :=
  fun _ hv => ⟨rfl, hv, (List.append_nil _).symm⟩

omit [Sink ω] in
theorem bind (hx : Prints seen x a bs) (hf : Prints seen (f a) b bs') :
    Prints seen (x >>= f) b (bs ++ bs') := by
  intro v hv
  obtain ⟨hok, hopen, hseen⟩ := hx v hv
  obtain ⟨hok', hopen', hseen'⟩ := hf (x v).2 hopen
  rw [Run.bind_ok hok]
  exact ⟨hok', hopen', by rw [hseen', hseen, List.append_assoc]⟩

end Prints

theorem prints_sayText (hsink : Sink.Records seen) (text : String) :
    Prints seen (sayText text : Run σ ω RunError Unit) () (utf8 text) := by
  intro v hv
  have hshows := shows_sayText (σ := σ) (ω := ω) text
  refine ⟨hshows.sure hsink.reliable v, (hshows.told v).isOpen hv, ?_⟩
  rw [sayText, Run.mapError_apply, Run.write_apply, hv.stream_eq]
  exact hsink.write v.stream.sink (utf8 text)

theorem prints_say (hsink : Sink.Records seen) (line : String) :
    Prints seen (say line : Run σ ω RunError Unit) () (utf8 (line ++ "\n")) :=
  prints_sayText hsink (line ++ "\n")

/-- A flush prints nothing. -/
theorem prints_flush_bind (hsink : Sink.Records seen) {f : Unit → Run σ ω RunError β} {b : β}
    {bs : Bytes} (hf : Prints seen (f ()) b bs) : Prints seen (flush >>= f) b bs := by
  intro v hv
  have hseen : seen (flush v : Except RunError Unit × World σ ω).2.stream.sink =
      seen v.stream.sink := by
    rw [flush, Run.mapError_apply, Run.flush_apply, hv.stream_eq]
    exact hsink.flush v.stream.sink
  rw [Run.bind_ok (shows_flush.sure hsink.reliable v), ← hseen]
  exact hf _ ((shows_flush.told v).isOpen hv)

/-- What is said about leftovers. -/
def warning (settings : Settings) (found : List String) : String :=
  if found ≠ [] then
    settings.painter.paint .notice
      ("Warning: test created " ++ toString found.length ++ " uncollectable object(s).") ++ "\n"
  else ""

theorem prints_warn (hsink : Sink.Records seen) (settings : Settings) (found : List String) :
    Prints seen (warn settings found : Run σ ω RunError Unit) ()
      (utf8 (warning settings found)) := by
  unfold warn warning
  split_ifs
  · exact prints_say hsink _
  · exact .pure ()

/-- The line above the report of differences. -/
def heading (r : Runner σ) (u : UnitId) : String :=
  r.settings.painter.paint .failure ("test " ++ u.name ++ " produced unexpected output:") ++ "\n"

/-- The report of the differences between what is expected and what there is. -/
def differences (r : Runner σ) (golden output : Bytes) : String :=
  Diff.report r.settings.painter (Utf8.decodeLossy golden) (Utf8.decodeLossy output)

/-- **What is printed when output is not expected.** -/
theorem prints_judge (hsink : Sink.Records seen) {golden output : Bytes} (hne : output ≠ golden) :
    Prints seen (r.judge u output golden : Run σ ω RunError Outcome)
      (.failed "produced unexpected output")
      (utf8 (r.heading u) ++ utf8 (r.differences golden output)) := by
  unfold judge
  rw [if_neg hne, ← List.append_nil (utf8 (r.differences golden output))]
  refine (prints_say hsink _).bind (prints_flush_bind hsink ?_)
  exact (prints_sayText hsink _).bind (prints_flush_bind hsink (.pure _))

/-! ### Runs -/

variable [FileSystem σ] {w : World σ ω} {golden output : Bytes}

/-- **The output of a unit is not what is expected**, and is compared with it. -/
structure Mismatched (r : Runner σ) (u : UnitId) (w : World σ ω) (golden output : Bytes) :
    Prop where
  compares : r.settings.generate = false
  ended : (r.execute u (ready u w)).1 = .ok (.ok (), some output)
  expected : expected (r.execute u (ready u w)).2.host u = .ok golden
  differs : output ≠ golden

namespace Mismatched

/-- How the outcome is found. -/
theorem classify_eq (h : r.Mismatched u w golden output) :
    r.classify u (ready u w) = r.judge u output golden (r.execute u (ready u w)).2 := by
  have hsettle : (r.settle u (some output) : Run σ ω RunError Outcome) = r.compare u output := by
    rw [settle, h.compares]
    rfl
  rw [classify_apply, h.ended]
  dsimp only
  rw [hsettle, compare_apply, h.expected]

/-- What the unit has printed is not seen. -/
theorem seen_execute (hsink : Sink.Records seen) (h : r.Mismatched u w golden output) :
    (r.execute u (ready u w)).2.Open ∧
      seen (r.execute u (ready u w)).2.stream.sink = seen w.stream.sink := by
  obtain ⟨hverbose, hopen, -⟩ := captured_of_output h.ended
  refine ⟨open_execute hopen h.ended, ?_⟩
  have hbegin : w.stream.begin.2.sink = (Sink.flush w.stream.sink).2 := by
    rw [World.Open, stream_ready] at hopen
    rw [Stream.begin_free (World.Open.captured hopen)]
    rcases Sink.flush w.stream.sink with ⟨_ | _, _⟩ <;> rfl
  rw [stream_execute hverbose, stream_ready]
  dsimp only
  rw [hbegin, hsink.flush]

/-- **The run fails**, and this is printed. -/
theorem run_prints (hsink : Sink.Records seen) (h : r.Mismatched u w golden output) :
    (r.run u w).1 = .ok (.failed "produced unexpected output") ∧
      seen (r.run u w).2.stream.sink = seen w.stream.sink ++ utf8 (r.heading u) ++
        utf8 (r.differences golden output) ++
          utf8 (warning r.settings (r.leftovers (r.execute u (ready u w)).2.host)) := by
  obtain ⟨hopen, hseen⟩ := h.seen_execute hsink
  obtain ⟨hok, hopen', hjudged⟩ := prints_judge (r := r) (u := u) hsink h.differs _ hopen
  have hhost := ((shows_judge r u output golden).told (r.execute u (ready u w)).2).host
  rw [← h.classify_eq] at hok hopen' hjudged hhost
  obtain ⟨hscan, hstream⟩ := r.scan_warns (r.classify u (ready u w)).2
  obtain ⟨hwarn, -, hwarned⟩ :=
    prints_warn hsink r.settings (r.leftovers (r.classify u (ready u w)).2.host) _ hopen'
  refine ⟨run_eq_ok.mpr ⟨hok, hscan.trans hwarn⟩, ?_⟩
  have hne : (r.classify u (ready u w)).1 ≠ .error .interrupted := by simp [hok]
  rw [SameStream] at hstream
  rw [stream_run, scanned_of_ne hne, hstream, hwarned, hjudged, hseen, hhost]
  simp only [List.append_assoc]

end Mismatched

/-- Octets that are read as the same text are the same, if the text has no replacement in it. -/
theorem decodeLossy_ne_of_replacement {bs bs' : Bytes} (hne : bs' ≠ bs)
    (h : Utf8.replacement ∉ (Utf8.decodeLossy bs).toList ∨
      Utf8.replacement ∉ (Utf8.decodeLossy bs').toList) :
    Utf8.decodeLossy bs ≠ Utf8.decodeLossy bs' := by
  intro hsame
  rw [hsame, or_self] at h
  have hbs := Utf8.encode_decodeLossy (hsame ▸ h)
  exact hne ((Utf8.encode_decodeLossy h).symm.trans (hsame ▸ hbs))

/-- **Which differences are seen.** If the output of a unit is not what is expected, and the sink
takes everything, then the run fails and prints a report. The report has a line that is marked as
missing or as new exactly if the two are read as different texts. So it is if both are texts, or if
one of them is read without a replacement. Otherwise there is nothing between the rules. -/
theorem run_mismatch (hsink : Sink.Records seen) (h : r.Mismatched u w golden output) :
    (r.run u w).1 = .ok (.failed "produced unexpected output") ∧
    seen (r.run u w).2.stream.sink = seen w.stream.sink ++ utf8 (r.heading u) ++
      utf8 (r.differences golden output) ++
        utf8 (warning r.settings (r.leftovers (r.execute u (ready u w)).2.host)) ∧
    (Diff.HasChange r.settings.painter (r.differences golden output) ↔
      Utf8.decodeLossy golden ≠ Utf8.decodeLossy output) ∧
    ((∃ s t, golden = utf8 s ∧ output = utf8 t) ∨
        Utf8.replacement ∉ (Utf8.decodeLossy golden).toList ∨
        Utf8.replacement ∉ (Utf8.decodeLossy output).toList →
      Diff.HasChange r.settings.painter (r.differences golden output)) ∧
    (Utf8.decodeLossy golden = Utf8.decodeLossy output →
      Text.splitLines (r.differences golden output).toList =
        [Diff.rule, Diff.rule].map (·.toList ++ ['\n'])) := by
  obtain ⟨hresult, hprints⟩ := h.run_prints hsink
  have hseen := Diff.hasChange_report_iff r.settings.painter (Utf8.decodeLossy golden)
    (Utf8.decodeLossy output)
  refine ⟨hresult, hprints, hseen, fun hread => hseen.mpr ?_, fun hsame => ?_⟩
  · rcases hread with ⟨s, t, rfl, rfl⟩ | hread
    · rw [Utf8.decodeLossy_encode, Utf8.decodeLossy_encode]
      rintro rfl
      exact h.differs rfl
    · exact decodeLossy_ne_of_replacement h.differs hread
  · rw [differences, hsame, Diff.splitLines_report, Diff.reportLines_self]

/-! ### A unit that writes -/

/-- A runner of a test that writes. -/
def writingRunner (bs : Bytes) : Runner Shelf where
  loader := Registry.loader ⟨[("test_a", fun _ => .writeOrRaise bs .done)]⟩
  settings := default
  detector := none

/-- The test. -/
def writingUnit : UnitId := ⟨"test_a", ⟨"t"⟩⟩

/-- A line is not expected, and is seen. -/
theorem run_mismatch_line :
    let r := writingRunner (utf8 "one\n")
    let w : World Shelf Memory := .start .empty .empty
    r.Mismatched writingUnit w (utf8 "test_a\n") (utf8 "test_a\none\n") ∧
      (r.run writingUnit w).1 = .ok (.failed "produced unexpected output") ∧
      Diff.HasChange .plain (r.differences (utf8 "test_a\n") (utf8 "test_a\none\n")) := by
  intro r w
  have h : r.Mismatched writingUnit w (utf8 "test_a\n") (utf8 "test_a\none\n") :=
    ⟨rfl, by decide +kernel, by decide +kernel, by decide +kernel⟩
  obtain ⟨hresult, -, -, htexts, -⟩ := run_mismatch Memory.records h
  exact ⟨h, hresult, htexts (.inl ⟨_, _, rfl, rfl⟩)⟩

/-- **A difference that is not seen**: one octet is expected, and there is another. Neither is the
beginning of a character. -/
theorem run_unseen :
    let r := writingRunner [0xFF, 0x0A]
    let golden := utf8 "test_a\n" ++ [0xFE, 0x0A]
    let output := utf8 "test_a\n" ++ [0xFF, 0x0A]
    let w : World Shelf Memory := .start ⟨[(⟨"t/output/test_a"⟩, golden)]⟩ .empty
    r.Mismatched writingUnit w golden output ∧
      (r.run writingUnit w).1 = .ok (.failed "produced unexpected output") ∧
      (r.run writingUnit w).2.stream.sink.contents =
        utf8 (r.heading writingUnit ++ (Diff.rule ++ "\n" ++ (Diff.rule ++ "\n"))) ∧
      ¬ Diff.HasChange r.settings.painter (r.differences golden output) := by
  intro r golden output w
  have h : r.Mismatched writingUnit w golden output :=
    ⟨rfl, by decide +kernel, by decide +kernel, by decide +kernel⟩
  obtain ⟨hresult, hprints⟩ := h.run_prints Memory.records
  have hsame : Utf8.decodeLossy golden = Utf8.decodeLossy output := by decide +kernel
  have hreport : r.differences golden output = Diff.rule ++ "\n" ++ (Diff.rule ++ "\n") := by
    rw [differences, hsame, Diff.report, Diff.reportLines_self]
    simp
  have hnone : utf8 (warning r.settings (r.leftovers (r.execute writingUnit
      (ready writingUnit w)).2.host)) = [] := rfl
  refine ⟨h, hresult, ?_, fun hchange => (Diff.hasChange_report_iff _ _ _).mp hchange hsame⟩
  have hstart : w.stream.sink.contents = [] := rfl
  rw [hprints, hreport, hnone, hstart, List.nil_append, List.append_nil,
    utf8_append (r.heading writingUnit)]

end Runner

end Golden
