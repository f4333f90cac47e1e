import Golden.Proofs.Runner.Verdict
import Golden.Proofs.Text.Utf8
import Golden.Script
import Mathlib.Data.List.DropRight

/-! # Runs of scripts

A script is launched, and it ends. Its exit code, or what killed it, says what has become of it, and
the last line on its standard error that is not blank says why. A run adds the comparison of its
standard output with what is expected.

* `Text.lines_append`: what follows a line feed has lines of its own.
* `Script.explains_iff`: the reason that a script gives.
* `Script.becomes_iff`: every end of a script leads to one result, and to no other.
* `Script.loadAndRun_script`: what comes of the load of a script.
* `Runner.run_script`: the run of a script, from its launch to the result. -/

namespace Golden

/-! ### Blank lines -/

namespace Text

variable {cs l : List Char}

/-- White space throughout. -/
def Blank (cs : List Char) : Prop := ∀ c ∈ cs, isBlank c = true

theorem trim_eq_nil : trim cs = [] ↔ Blank cs := by
  rw [trim, trimEnd, List.reverse_eq_nil_iff, List.dropWhile_eq_nil_iff]
  simp only [List.mem_reverse]
  rw [← List.dropWhile_eq_nil_iff, List.dropWhile_idempotent, List.dropWhile_eq_nil_iff, Blank]

/-- **A line feed cuts a text**, whatever there is on both sides. -/
theorem splitLines_append_newline (cs ds : List Char) :
    splitLines (cs ++ '\n' :: ds) = splitLines (cs ++ ['\n']) ++ splitLines ds := by
  induction cs with
  | nil => simp [splitLines]
  | cons c cs ih =>
    simp only [List.cons_append, splitLines, ih]
    split_ifs
    · rfl
    · cases h : splitLines (cs ++ ['\n']) with
      | nil =>
        -- a text that ends in a line feed has a line
        have hflat := flatten_splitLines (cs ++ ['\n'])
        rw [h] at hflat
        simp at hflat
      | cons l ls => rfl

theorem lines_append {cs : List Char} (h : cs = [] ∨ cs.getLast? = some '\n') (ds : List Char) :
    lines (cs ++ ds) = lines cs ++ lines ds := by
  rcases h with rfl | h
  · rfl
  · obtain ⟨front, rfl⟩ := List.getLast?_eq_some_iff.mp h
    rw [List.append_assoc, List.singleton_append, lines, splitLines_append_newline, List.map_append]
    rfl

theorem blank_of_mem_lines (h : Blank cs) (hl : l ∈ lines cs) : Blank l := by
  obtain ⟨l', hl', rfl⟩ := List.mem_map.mp hl
  intro c hc
  have hmem : c ∈ l' := by
    unfold dropTerminator dropLast at hc
    split_ifs at hc
    · exact List.dropLast_subset _ (List.dropLast_subset _ hc)
    · exact List.dropLast_subset _ hc
    · exact hc
  refine h c ?_
  rw [← flatten_splitLines cs]
  exact List.mem_flatten.mpr ⟨l', hl', hmem⟩

end Text

namespace Script

variable {errors blanks : Bytes} {fallback reason : String}

/-! ### Reasons -/

/-- **The reason that a script gives**: the last line that is not blank, trimmed. If there is none,
another text takes its place. -/
inductive Explains (errors : Bytes) (fallback : String) : String → Prop where
  | line {front back : List (List Char)} {line : List Char} :
    Text.lines (Utf8.decodeLossy errors).toList = front ++ line :: back → ¬ Text.Blank line →
    (∀ l ∈ back, Text.Blank l) → Explains errors fallback (String.ofList (Text.trim line))
  | fallback : (∀ l ∈ Text.lines (Utf8.decodeLossy errors).toList, Text.Blank l) →
    Explains errors fallback fallback

/-- The search for the last line, as one among lines that are not trimmed. -/
theorem lastLine?_eq (text : String) : lastLine? text =
    ((Text.lines text.toList).reverse.find? fun l => Text.trim l ≠ []).map
      fun l => String.ofList (Text.trim l) := by
  rw [lastLine?, ← List.map_reverse, List.find?_map, Option.map_map]
  rfl

theorem explains_iff : Explains errors fallback reason ↔
    (lastLine? (Utf8.decodeLossy errors)).getD fallback = reason := by
  rw [lastLine?_eq]
  generalize hlines : Text.lines (Utf8.decodeLossy errors).toList = lines
  constructor
  · rintro (⟨hcut, hline, hback⟩ | hnone)
    · rw [hlines] at hcut
      rw [List.find?_eq_some_iff_append.mpr ⟨by simpa [Text.trim_eq_nil] using hline, _, _,
        by rw [hcut, List.reverse_append, List.reverse_cons, List.append_assoc]; rfl, ?_⟩]
      · rfl
      · simpa [Text.trim_eq_nil] using hback
    · rw [hlines] at hnone
      rw [List.find?_eq_none.mpr (by simpa [Text.trim_eq_nil] using hnone)]
      rfl
  · rintro rfl
    cases hfind : lines.reverse.find? fun l => Text.trim l ≠ [] with
    | none =>
      refine .fallback ?_
      rw [hlines]
      simpa [Text.trim_eq_nil] using hfind
    | some line =>
      obtain ⟨hline, back, front, hcut, hback⟩ := List.find?_eq_some_iff_append.mp hfind
      rw [← List.reverse_inj, List.reverse_reverse, List.reverse_append, List.reverse_cons,
        List.append_assoc] at hcut
      refine .line (hlines.trans hcut) ?_ ?_
      · simpa [Text.trim_eq_nil] using hline
      · simpa [Text.trim_eq_nil] using hback

/-- Blank lines at the end give no other reason. -/
theorem lastLine?_append {text : String} (h : text.toList = [] ∨ text.toList.getLast? = some '\n')
    {more : String} (hmore : Text.Blank more.toList) :
    lastLine? (text ++ more) = lastLine? text := by
  have hnone : (Text.lines more.toList).reverse.find? (fun l => Text.trim l ≠ []) = none := by
    rw [List.find?_eq_none]
    intro l hl
    simpa [Text.trim_eq_nil] using Text.blank_of_mem_lines hmore (List.mem_reverse.mp hl)
  rw [lastLine?_eq, lastLine?_eq, String.toList_append, Text.lines_append h, List.reverse_append,
    List.find?_append, hnone, Option.none_or]

/-- Blank lines behind what a script has written give no other reason. -/
theorem explains_append (herrors : errors = [] ∨ errors.getLast? = some 0x0A)
    (hblanks : Text.Blank (Utf8.decodeLossy blanks).toList) :
    Explains (errors ++ blanks) fallback reason ↔ Explains errors fallback reason := by
  have hends : (Utf8.decodeLossy errors).toList = [] ∨
      (Utf8.decodeLossy errors).toList.getLast? = some '\n' := by
    rw [Utf8.decodeLossy, String.toList_ofList]
    rcases herrors with rfl | h
    · rw [Utf8.scan]
      exact Or.inl rfl
    · obtain ⟨front, rfl⟩ := List.getLast?_eq_some_iff.mp h
      rw [Utf8.scan_append, Utf8.scan, List.map_append]
      exact Or.inr List.getLast?_concat
  rw [explains_iff, explains_iff, Utf8.decodeLossy_append herrors, lastLine?_append hends hblanks]

/-! ### Ends -/

/-- How a script ends, or why it cannot be launched, and what lies around the run then. -/
def launched {σ : Type} (l : Launcher σ) (interpreter : List String) (source : Path) (c : Context)
    (host : σ) : Except String Finished × σ :=
  let cmd := command interpreter source (environment c)
  if cmd.isPossible then l.launch cmd host else (.error "nul byte found in provided data", host)

theorem launched_of_isPossible {σ : Type} {l : Launcher σ} {interpreter : List String}
    {source : Path} {c : Context} {host : σ}
    (h : (command interpreter source (environment c)).isPossible = true) :
    launched l interpreter source c host =
      l.launch (command interpreter source (environment c)) host :=
  if_pos h

/-- The output that is expected of a unit, in view of what can be read. -/
def Expected (u : UnitId) (golden : Except FileSystemError Bytes) (bs : Bytes) : Prop :=
  golden = .ok bs ∨ (∃ p, golden = .error (.notFound p)) ∧ bs = utf8 (u.name ++ "\n")

/-- **What a run makes of a script**, in view of how it ended and of what can be read of its expected
output. -/
inductive Becomes (u : UnitId) (source : Path) (golden : Except FileSystemError Bytes) :
    Except String Finished → Except RunError Outcome → Prop where
  | unlaunched {reason : String} : Becomes u source golden (.error reason)
    (.ok (.skipped ("failed to launch " ++ source.spelling ++ ": " ++ reason)))
  | passed {output errors expected : Bytes} : Expected u golden expected →
    utf8 (u.name ++ "\n") ++ output = expected →
    Becomes u source golden (.ok ⟨.exited 0, output, errors⟩) (.ok .passed)
  | differs {output errors expected : Bytes} : Expected u golden expected →
    utf8 (u.name ++ "\n") ++ output ≠ expected →
    Becomes u source golden (.ok ⟨.exited 0, output, errors⟩)
      (.ok (.failed "produced unexpected output"))
  | unreadable {output errors : Bytes} {e : FileSystemError} : golden = .error e →
    (∀ p, e ≠ .notFound p) →
    Becomes u source golden (.ok ⟨.exited 0, output, errors⟩) (.error (.fileSystem e))
  | skipped {output errors : Bytes} {reason : String} : Explains errors "skipped by test" reason →
    Becomes u source golden (.ok ⟨.exited 77, output, errors⟩) (.ok (.skipped reason))
  | failed {output errors : Bytes} {reason : String} :
    Explains errors "test reported failure" reason →
    Becomes u source golden (.ok ⟨.exited 1, output, errors⟩) (.ok (.failed reason))
  | crashed {code : ℕ} {output errors : Bytes} {value : String} : code ∉ [0, 1, 77] →
    Explains errors "" value → Becomes u source golden (.ok ⟨.exited code, output, errors⟩)
      (.ok (.crashed ("exit status " ++ toString code) value))
  | interrupted {output errors : Bytes} :
    Becomes u source golden (.ok ⟨.killed 2, output, errors⟩) (.error .interrupted)
  | killed {signal : ℕ} {output errors : Bytes} : signal ≠ 2 →
    Becomes u source golden (.ok ⟨.killed signal, output, errors⟩)
      (.ok (.crashed "killed by signal" (toString signal)))

/-- The signal that a script ends with, if any. -/
def signalled (source : Path) : Except String Finished → Except Signal Unit
  | .error reason =>
    .error (.loadFailure ("failed to launch " ++ source.spelling ++ ": " ++ reason))
  | .ok finished => classify finished.ending (Utf8.decodeLossy finished.errors)

/-- What a script has written to its standard output. -/
def written : Except String Finished → Bytes
  | .error _ => []
  | .ok finished => finished.output

variable {σ : Type} [FileSystem σ] {u : UnitId} {source : Path} {host : σ}

theorem expected_iff {bs : Bytes} :
    Expected u (FileSystem.read host u.goldenPath) bs ↔ Runner.expected host u = .ok bs := by
  unfold Expected Runner.expected UnitId.baseline
  rcases FileSystem.read host u.goldenPath with (_ | _) | golden <;> simp [eq_comm]

theorem unreadable_iff {e : FileSystemError} :
    (FileSystem.read host u.goldenPath = .error e ∧ ∀ p, e ≠ .notFound p) ↔
      Runner.expected host u = .error e := by
  unfold Runner.expected
  rcases FileSystem.read host u.goldenPath with (_ | _) | golden
  · simpa using fun h => ⟨_, h.symm⟩
  · simp only [Except.error.injEq, and_iff_left_iff_imp]
    rintro rfl p h
    cases h
  · simp

theorem classify_exited {code : ℕ} (h : code ∉ [0, 1, 77]) (errors : String) :
    classify (.exited code) errors = .error (.fault ("exit status " ++ toString code)
      ((lastLine? errors).getD "") (unlessBlank errors)) := by
  simp only [List.mem_cons, List.not_mem_nil, or_false, not_or] at h
  cases code with
  | zero => exact absurd rfl h.1
  | succ n =>
    change (if n + 1 = 77 then _ else if n + 1 = 1 then _ else _) = _
    rw [if_neg h.2.2, if_neg h.2.1]

theorem classify_killed {signal : ℕ} (h : signal ≠ 2) (errors : String) :
    classify (.killed signal) errors =
      .error (.fault "killed by signal" (toString signal) (unlessBlank errors)) :=
  if_neg h

/-- What becomes of a script is what a run finds. -/
theorem Becomes.finding_eq {end? : Except String Finished} {x : Except RunError Outcome}
    (h : Becomes u source (FileSystem.read host u.goldenPath) end? x) :
    Runner.finding u host (signalled source end?, some (utf8 u.baseline ++ written end?)) = x := by
  cases h with
  | unlaunched => rfl
  | passed hexpected heq =>
    simp only [signalled, classify, Runner.finding, expected_iff.mp hexpected]
    exact congrArg Except.ok (if_pos heq)
  | differs hexpected hne =>
    simp only [signalled, classify, Runner.finding, expected_iff.mp hexpected]
    exact congrArg Except.ok (if_neg hne)
  | unreadable he hfound =>
    simp only [signalled, classify, Runner.finding, unreadable_iff.mp ⟨he, hfound⟩]
  | skipped h =>
    rw [← explains_iff.mp h]
    rfl
  | failed h =>
    rw [← explains_iff.mp h]
    rfl
  | crashed hcode h =>
    rw [signalled, classify_exited hcode, ← explains_iff.mp h]
    rfl
  | interrupted => rfl
  | killed hsignal =>
    rw [signalled, classify_killed hsignal]
    rfl

/-- A script that ends with success has the result that its output has. -/
theorem becomes_exited_zero (output errors : Bytes) :
    Becomes u source (FileSystem.read host u.goldenPath) (.ok ⟨.exited 0, output, errors⟩)
      (Runner.finding u host (.ok (), some (utf8 u.baseline ++ output))) := by
  simp only [Runner.finding]
  cases hexpected : Runner.expected host u with
  | error e =>
    obtain ⟨he, hfound⟩ := unreadable_iff.mpr hexpected
    exact .unreadable he hfound
  | ok expected =>
    dsimp only [Runner.verdict]
    split_ifs with heq
    · exact .passed (expected_iff.mpr hexpected) heq
    · exact .differs (expected_iff.mpr hexpected) heq

/-- Every end of a script leads to what a run finds. -/
theorem becomes_finding (end? : Except String Finished) :
    Becomes u source (FileSystem.read host u.goldenPath) end?
      (Runner.finding u host (signalled source end?, some (utf8 u.baseline ++ written end?))) := by
  rcases end? with reason | ⟨code | signal, output, errors⟩
  · exact .unlaunched
  · by_cases hcode : code ∉ [0, 1, 77]
    · rw [signalled, classify_exited hcode]
      exact .crashed hcode (explains_iff.mpr rfl)
    simp only [List.mem_cons, List.not_mem_nil, or_false, not_not] at hcode
    rcases hcode with rfl | rfl | rfl
    · exact becomes_exited_zero output errors
    · exact .failed (explains_iff.mpr rfl)
    · exact .skipped (explains_iff.mpr rfl)
  · by_cases hsignal : signal = 2
    · subst hsignal
      exact .interrupted
    · rw [signalled, classify_killed hsignal]
      exact .killed hsignal

/-- **Every end of a script leads to one result**, and to no other. -/
theorem becomes_iff {end? : Except String Finished} {x : Except RunError Outcome} :
    Becomes u source (FileSystem.read host u.goldenPath) end? x ↔
      Runner.finding u host
        (signalled source end?, some (utf8 u.baseline ++ written end?)) = x :=
  ⟨Becomes.finding_eq, fun h => h ▸ becomes_finding end?⟩

omit [FileSystem σ] in
/-- Blank lines behind what a script has written lead to no other result. -/
theorem Becomes.append {golden : Except FileSystemError Bytes} {f : Finished}
    {x : Except RunError Outcome} (h : Becomes u source golden (.ok f) x)
    (herrors : f.errors = [] ∨ f.errors.getLast? = some 0x0A)
    (hblanks : Text.Blank (Utf8.decodeLossy blanks).toList) :
    Becomes u source golden (.ok { f with errors := f.errors ++ blanks }) x := by
  cases h with
  | passed hexpected heq => exact .passed hexpected heq
  | differs hexpected hne => exact .differs hexpected hne
  | unreadable he hfound => exact .unreadable he hfound
  | skipped h => exact .skipped ((explains_append herrors hblanks).mpr h)
  | failed h => exact .failed ((explains_append herrors hblanks).mpr h)
  | crashed hcode h => exact .crashed hcode ((explains_append herrors hblanks).mpr h)
  | interrupted => exact .interrupted
  | killed hsignal => exact .killed hsignal

/-! ### Loads -/

/-- What comes of a script that has been launched. -/
def sequel (source : Path) (c : Context) : Except String Finished × σ → Behaviour σ
  | (.error reason, host) => .change host <|
    .raise (.loadFailure ("failed to launch " ++ source.spelling ++ ": " ++ reason))
  | (.ok finished, host) => .change host <| .writeOrRaise finished.output <|
    let errors := Utf8.decodeLossy finished.errors
    let ended : Behaviour σ := .check (classify finished.ending errors) .done
    if c.verbose ≠ 0 ∧ errors ≠ "" then .complain (utf8 errors) ended else ended

variable {ω : Type} [Sink ω] {s : Surroundings σ} {l : Launcher σ} {interpreter : List String}
  {extension : String} {c : Context} {w : World σ ω} {kept : Bytes}

omit [FileSystem σ] in
/-- A script that has been launched ends with a signal or not, and its output is kept if a capture
is active. -/
theorem perform_sequel (importer : String → Run σ ω Signal Unit) (hverbose : c.verbose = 0)
    (hw : w.stream.captured = some kept) (ended : Except String Finished × σ) :
    (sequel source c ended).perform importer false w =
      ((signalled source ended.1).map fun _ => none, { w with
        host := ended.2
        stream := ⟨w.stream.sink, some (kept ++ written ended.1)⟩ }) := by
  have hsilent (errors : String) : ¬ (c.verbose ≠ 0 ∧ errors ≠ "") := fun h => h.1 hverbose
  have hstream : w.stream = ⟨w.stream.sink, some kept⟩ := by rw [← hw]
  rcases ended with ⟨reason | finished, host⟩
  · rw [sequel, Behaviour.perform_change, Behaviour.perform_raise, written, List.append_nil,
      ← hstream]
    rfl
  · have hwrite : w.stream.write finished.output =
        (.ok (), ⟨w.stream.sink, some (kept ++ finished.output)⟩) := by
      rw [Stream.write, hw]
    rw [sequel, Behaviour.perform_change, Behaviour.writeOrRaise, Behaviour.perform_write,
      Run.write_apply]
    dsimp only
    rw [hwrite, if_neg (hsilent _)]
    dsimp only [Behaviour.failure?, signalled, written]
    cases classify finished.ending (Utf8.decodeLossy finished.errors) <;> rfl

omit [FileSystem σ] in
/-- A script has no entry point, so its load is all there is. -/
theorem whole_unit (l : Launcher σ) (interpreter : List String) (u : UnitId) (source : Path)
    (hverbose : s.verbose = 0) (hw : w.stream.captured = some kept) :
    let ended := launched l interpreter source (s.context u) w.host
    ∃ t, s.whole u (unit l interpreter source) w = (signalled source ended.1, { w with
      host := ended.2
      stream := ⟨w.stream.sink, some (kept ++ written ended.1)⟩
      trail := t }) := by
  intro ended
  set importer : String → Run σ ω Signal Unit := s.importing s.loader.nesting u
  set event : Event := .launching (command interpreter source (environment (s.context u))).describe
  let launching : World σ ω := { w with trail := w.trail ++ [.event event] }
  have hunit : (unit l interpreter source (s.context u)).perform importer false w =
      (sequel source (s.context u) ended).perform importer false launching := rfl
  rw [perform_sequel (c := s.context u) (w := launching) importer hverbose hw] at hunit
  refine ⟨w.trail ++ [.event event], ?_⟩
  rw [Surroundings.whole, Run.bind_apply, hunit]
  cases signalled source ended.1 <;> rfl

/-- **What comes of the load of a script** while a capture is active. -/
theorem loadAndRun_script (hl : s.loader = loader l interpreter extension)
    (hverbose : s.verbose = 0) (hhas : FileSystem.has w.host (u.source extension) = true)
    (hfile : FileSystem.isDirectory w.host (u.source extension) = false)
    (hw : w.stream.captured = some kept) :
    let ended := launched l interpreter (u.source extension) (s.context u) w.host
    (s.loadAndRun u w).1 = signalled (u.source extension) ended.1 ∧
      (s.loadAndRun u w).2.host = ended.2 ∧
      (s.loadAndRun u w).2.stream.captured = some (kept ++ written ended.1) := by
  intro ended
  have hload : s.loader.load u w.host = (.ok (unit l interpreter (u.source extension)), w.host) := by
    rw [hl, loader]
    dsimp only
    rw [hhas, hfile]
    rfl
  set loading : World σ ω := { w with modules := w.modules.beginLoading u }
  obtain ⟨t, ht⟩ := whole_unit (w := loading) l interpreter u (u.source extension) hverbose hw
  rw [Surroundings.loadAndRun_eq, Run.bind_ok (by rw [Surroundings.find_apply, hload]),
    Surroundings.find_apply, hload, Run.bind_apply, Surroundings.whileLoading_apply]
  dsimp only
  rw [ht]
  dsimp only
  cases hsignal : signalled (u.source extension) ended.1 <;> exact ⟨rfl, rfl, rfl⟩

end Script

/-! ### Runs -/

namespace Runner

variable {σ ω : Type} [FileSystem σ] [Sink ω] {r : Runner σ} {u : UnitId} {w : World σ ω}
  {l : Script.Launcher σ} {interpreter : List String} {extension : String}

/-- **How a script ends when it is run**, what it has written, and what lies around the run then. -/
theorem execute_script (hr : Sink.Reliable ω) (h : r.Compares w)
    (hl : r.loader = Script.loader l interpreter extension)
    (hhas : FileSystem.has w.host (u.source extension) = true)
    (hfile : FileSystem.isDirectory w.host (u.source extension) = false) :
    let source := u.source extension
    let ended := Script.launched l interpreter source (r.surroundings.context u) w.host
    (r.execute u w).1 = .ok (Script.signalled source ended.1,
        some (utf8 u.baseline ++ Script.written ended.1)) ∧
      (r.execute u w).2.host = ended.2 := by
  intro source ended
  obtain ⟨hresult, hhost, houtput⟩ := Script.loadAndRun_script (s := r.surroundings)
    (w := begun u w) hl h.captures hhas hfile rfl
  rw [execute_captured r u h.captures h.isOpen (hr.flush _), hresult, houtput]
  exact ⟨rfl, hhost⟩

/-- **The result of a run** is what becomes of the script. -/
theorem run_fst_script (hr : Sink.Reliable ω) (h : r.Compares w)
    (hl : r.loader = Script.loader l interpreter extension)
    (hhas : FileSystem.has w.host (u.source extension) = true)
    (hfile : FileSystem.isDirectory w.host (u.source extension) = false)
    (x : Except RunError Outcome) :
    let source := u.source extension
    let ended := Script.launched l interpreter source (r.surroundings.context u) w.host
    (r.run u w).1 = x ↔
      Script.Becomes u source (FileSystem.read ended.2 u.goldenPath) ended.1 x := by
  intro source ended
  have hhost := host_ready u w
  obtain ⟨hexecute, hend⟩ := execute_script hr ⟨h.captures, h.keeps, open_ready h.isOpen⟩ hl
    (hhost ▸ hhas) (hhost ▸ hfile)
  rw [hhost] at hexecute hend
  obtain ⟨-, -, hfound⟩ := classify_spec h.keeps hexecute
  rw [run_fst hr, hfound hr, hend, Script.becomes_iff]

/-- A run does not begin while a capture is active. -/
theorem run_fst_of_not_open (hr : Sink.Reliable ω) (hverbose : r.settings.verbose = 0)
    (hw : ¬ w.Open) : (r.run u w).1 = .error (.capture .alreadyActive) := by
  rcases execute_cases r u (ready u w) with ⟨v, hv⟩ | ⟨-, e, he, hend⟩
  · cases hv with
    | free hfree => exact absurd hverbose hfree
    | captured _ hopen _ => exact absurd (by rwa [World.Open, stream_ready] at hopen) hw
  · rw [run_fst hr, classify_apply, hend]
    obtain ⟨kept, hkept⟩ := Option.isSome_iff_exists.mp ((Bool.not_eq_false _).mp hw)
    rw [stream_ready, Stream.begin_captured hkept] at he
    cases he
    rfl

/-- **The run of a script**, from its launch to the result, if the sink refuses nothing. The script
is launched in the files that the run finds, and its output is compared with what can be read when
it has ended. Every end has its result (`Script.Becomes`). Blank lines at the end of what the script
writes to standard error change nothing. If a capture is active already, the script is not
launched. -/
theorem run_script (hr : Sink.Reliable ω) (hverbose : r.settings.verbose = 0)
    (hgen : r.settings.generate = false)
    (hl : r.loader = Script.loader l interpreter extension)
    (hhas : FileSystem.has w.host (u.source extension) = true)
    (hfile : FileSystem.isDirectory w.host (u.source extension) = false) :
    let source := u.source extension
    let ended (l : Script.Launcher σ) :=
      Script.launched l interpreter source (r.surroundings.context u) w.host
    (w.Open → ∀ x, (r.run u w).1 = x ↔
      Script.Becomes u source (FileSystem.read (ended l).2 u.goldenPath) (ended l).1 x) ∧
    (¬ w.Open → (r.run u w).1 = .error (.capture .alreadyActive)) ∧
    ∀ (r' : Runner σ) (l' : Script.Launcher σ) (f : Script.Finished) (host : σ) (blanks : Bytes),
      r'.settings = r.settings → r'.loader = Script.loader l' interpreter extension →
      ended l = (.ok f, host) → ended l' = (.ok { f with errors := f.errors ++ blanks }, host) →
      f.errors = [] ∨ f.errors.getLast? = some 0x0A →
      Text.Blank (Utf8.decodeLossy blanks).toList → (r'.run u w).1 = (r.run u w).1 := by
  intro source ended
  have hresult (hw : w.Open) := run_fst_script hr ⟨hverbose, hgen, hw⟩ hl hhas hfile
  refine ⟨hresult, run_fst_of_not_open hr hverbose,
    fun r' l' f host blanks hs hl' hended hended' herrors hblanks => ?_⟩
  by_cases hw : w.Open
  · have hcontext : r'.surroundings.context u = r.surroundings.context u := by
      simp only [Surroundings.context, surroundings, hs]
    have hbecomes : Script.Becomes u source (FileSystem.read (ended l).2 u.goldenPath) (ended l).1
        (r.run u w).1 := (hresult hw _).mp rfl
    rw [hended] at hbecomes
    refine (run_fst_script hr ⟨hs ▸ hverbose, hs ▸ hgen, hw⟩ hl' hhas hfile _).mpr ?_
    rw [hcontext]
    change Script.Becomes u source (FileSystem.read (ended l').2 u.goldenPath) (ended l').1 _
    rw [hended']
    exact hbecomes.append herrors hblanks
  · exact (run_fst_of_not_open hr (hs ▸ hverbose) hw).trans
      (run_fst_of_not_open hr hverbose hw).symm

/-! ### A script that crashes -/

/-- Launches scripts all of which end in the same way and write to standard error only. -/
def crashing (errors : String) : Script.Launcher Shelf :=
  ⟨fun _ host => (.ok ⟨.exited 3, [], utf8 errors⟩, host)⟩

/-- A runner of these scripts. -/
def crashRunner (errors : String) : Runner Shelf :=
  ⟨Script.loader (crashing errors) ["sh"] "sh", default, none⟩

/-- A shelf with one script. -/
def crashWorld : World Shelf Memory := .start ⟨[(⟨"t/test_a.sh"⟩, [])]⟩ .empty

theorem launched_crashing (errors : String) (u : UnitId) (c : Context)
    (h : (Script.command ["sh"] (u.source "sh") (Script.environment c)).isPossible = true) :
    Script.launched (crashing errors) ["sh"] (u.source "sh") c crashWorld.host =
      (.ok ⟨.exited 3, [], utf8 errors⟩, crashWorld.host) :=
  Script.launched_of_isPossible h

/-- The last line says what went wrong, and blank lines behind it say nothing. -/
theorem run_script_crashRunner :
    ((crashRunner "one\n no \n").run ⟨"test_a", ⟨"t"⟩⟩ crashWorld).1 =
        .ok (.crashed "exit status 3" "no") ∧
      ((crashRunner "one\n no \n\t\n\n").run ⟨"test_a", ⟨"t"⟩⟩ crashWorld).1 =
        .ok (.crashed "exit status 3" "no") := by
  obtain ⟨hresult, -, hblanks⟩ := run_script (r := crashRunner "one\n no \n")
    (u := ⟨"test_a", ⟨"t"⟩⟩) (w := crashWorld) Memory.reliable rfl rfl rfl (by decide +kernel)
    (by decide +kernel)
  dsimp only at hresult hblanks
  have hended (errors : String) := launched_crashing errors ⟨"test_a", ⟨"t"⟩⟩
    ((crashRunner "one\n no \n").surroundings.context ⟨"test_a", ⟨"t"⟩⟩) (by decide +kernel)
  have hcrashed : ((crashRunner "one\n no \n").run ⟨"test_a", ⟨"t"⟩⟩ crashWorld).1 =
      .ok (.crashed "exit status 3" "no") := by
    refine (hresult rfl _).mpr ?_
    rw [hended]
    refine .crashed (by decide) ?_
    rw [Script.explains_iff, Utf8.decodeLossy_encode]
    decide +kernel
  refine ⟨hcrashed, ?_⟩
  rw [← hcrashed]
  refine hblanks (crashRunner "one\n no \n\t\n\n") _ _ _ (utf8 "\t\n\n") rfl rfl
    (hended _) (hended _) (Or.inr (by decide +kernel)) ?_
  rw [Utf8.decodeLossy_encode]
  refine List.all_eq_true.mp ?_
  decide +kernel

end Runner

end Golden
