import Golden.Program
import Golden.Proofs.ArgumentFile
import Golden.Proofs.Files
import Golden.Proofs.Reading
import Golden.Proofs.Resource
import Golden.Proofs.Suite.Refusal
import Mathlib.Data.List.Basic

/-! # Exit codes

The program is used wrongly if its arguments, its command line, or the configuration file that the
operator has named cannot be read, if a resource is requested that does not exist, or if expected
output is to be written in a verbose run (`Program.Misused`). All of this is found out before the
suite begins to run (`Program.prepared`).

* `Program.misused_iff`: the preparation fails exactly if the program is used wrongly.
* `Program.run_of_not_prepared`, `Program.run_of_prepared`: the program, in view of its preparation.
* `Program.exitCode_run`: what each of the exit codes tells. -/

namespace Golden

variable {σ ω : Type}

theorem Options.exists_validate_error {o : Options} :
    (∃ e, o.validate = .error e) ↔ o.generate = true ∧ o.verbose ≠ 0 := by
  unfold validate captures
  split_ifs with h
  · simpa using h
  · simpa using h

theorem SuiteResult.exitCode_eq_zero {r : SuiteResult} : r.exitCode = 0 ↔ r.bad = [] := by
  unfold exitCode isSuccess
  split_ifs with h
  · simpa using h
  · simpa using h

theorem SuiteResult.exitCode_eq (r : SuiteResult) : r.exitCode = 0 ∨ r.exitCode = 1 := by
  unfold exitCode
  split_ifs
  · exact Or.inl rfl
  · exact Or.inr rfl

namespace Program

/-! ### Preparation -/

section Preparation
variable [FileSystem σ]

/-- The command line that words make. -/
def commandLine (i : Invocation) (words : List String) : Except ProgramError CommandLine :=
  match CommandLine.parse words with
  | .error r => .error (.refused r)
  | .ok c => withEnvironment i c

/-- What the operator asks for. -/
def requested (i : Invocation) (host : σ) : Except ProgramError CommandLine :=
  match ArgumentFile.expansion host i.arguments with
  | .error e => .error (.usage e)
  | .ok words => commandLine i words

/-- The configuration in the usual place. A file that is missing or of no use sets nothing. -/
def usual (i : Invocation) (host : σ) : Configuration :=
  match i.usualFile with
  | none => .none
  | some path =>
    if FileSystem.has host path then
      match Configuration.readFile host path with
      | .ok f => f
      | .error _ => .none
    else .none

/-- The configuration. A file that the operator has named has to be of use. -/
def configuration (i : Invocation) (c : CommandLine) (host : σ) :
    Except ProgramError Configuration :=
  if c.noConfig then .ok .none
  else
    match c.configFile with
    | some path => (Configuration.readFile host path).mapError (.configuration path)
    | none => .ok (usual i host)

/-- The options and the configuration of the suite, which have to go together. -/
def chosen (i : Invocation) (c : CommandLine) (host : σ) :
    Except ProgramError (Options × Configuration) :=
  match c.options (colored i c.color) with
  | .error e => .error (.usage e)
  | .ok o =>
    match configuration i c host with
    | .error e => .error e
    | .ok f =>
      match o.validate with
      | .error e => .error (.usage e)
      | .ok _ => .ok (o, f)

/-- All that is known before the suite runs, unless the program is used wrongly. -/
def prepared (i : Invocation) (host : σ) :
    Except ProgramError (CommandLine × Options × Configuration) :=
  match requested i host with
  | .error e => .error e
  | .ok c => (chosen i c host).map (Prod.mk c)

/-! ### Mistakes -/

/-- The operator asks for help or for the version. -/
def Curious (i : Invocation) (host : σ) : Prop :=
  ∃ words, ArgumentFile.expansion host i.arguments = .ok words ∧
    (CommandLine.parse words = .error .help ∨ CommandLine.parse words = .error .version)

/-- **Mistakes in the use of the program.** -/
inductive Misused (i : Invocation) (host : σ) : Prop where
  /-- An argument file that cannot be read, or in which a quote is left open. -/
  | argumentFile {arg : String} {file : Path} : arg ∈ i.arguments →
    ArgumentFile.file? arg = some file → ArgumentFile.Unusable host file → Misused i host
  /-- A command line that cannot be read. -/
  | commandLine {words : List String} {e : ProgramError} :
    ArgumentFile.expansion host i.arguments = .ok words → commandLine i words = .error e →
    Misused i host
  /-- A request for resources with a word that is not understood. -/
  | resource {c : CommandLine} {request : String} {word : List Char} : requested i host = .ok c →
    request ∈ c.requests → word ∈ request.toList.splitOn ',' →
    Resources.Word.ofText? word = none → Misused i host
  /-- A configuration file that is named and of no use. -/
  | configuration {c : CommandLine} {path : Path} {e : Configuration.Failure} :
    requested i host = .ok c → c.noConfig = false → c.configFile = some path →
    Configuration.readFile host path = .error e → Misused i host
  /-- Expected output that is to be written in a verbose run. -/
  | generate {c : CommandLine} : requested i host = .ok c → c.generate = true → c.verbose ≠ 0 →
    c.quiet = false → Misused i host

variable {i : Invocation} {host : σ} {c : CommandLine}

omit [FileSystem σ] in
theorem commandLine_eq {words : List String} :
    commandLine i words = (CommandLine.parse words).mapError .refused >>= withEnvironment i := by
  unfold commandLine
  cases CommandLine.parse words <;> rfl

theorem requested_eq : requested i host =
    (ArgumentFile.expansion host i.arguments).mapError .usage >>= commandLine i := by
  unfold requested
  cases ArgumentFile.expansion host i.arguments <;> rfl

theorem chosen_eq : chosen i c host = (c.options (colored i c.color)).mapError .usage >>= fun o =>
    configuration i c host >>= fun f => o.validate.mapError .usage >>= fun _ => .ok (o, f) := by
  unfold chosen
  cases c.options (colored i c.color) with
  | error e => rfl
  | ok o =>
    cases configuration i c host with
    | error e => rfl
    | ok f => cases h : o.validate <;> simp [h, bind, Except.bind, Except.mapError]

theorem prepared_eq : prepared i host = requested i host >>= fun c =>
    chosen i c host >>= fun x => .ok (c, x) := by
  unfold prepared
  cases requested i host with
  | error e => rfl
  | ok c => cases h : chosen i c host <;> simp [h, bind, Except.bind, Except.map]

theorem exists_requested_error : (∃ e, requested i host = .error e) ↔
    (∃ e, ArgumentFile.expansion host i.arguments = .error e) ∨
      ∃ words e, ArgumentFile.expansion host i.arguments = .ok words ∧
        commandLine i words = .error e := by
  unfold requested
  cases ArgumentFile.expansion host i.arguments <;> simp

omit [FileSystem σ] in
theorem options_eq_ok {color : Bool} {o : Options} (h : c.options color = .ok o) :
    o.generate = c.generate ∧ o.verbose = if c.quiet then 0 else c.verbose := by
  unfold CommandLine.options at h
  cases hr : Resources.none.useAll c.requests with
  | error e =>
    rw [hr] at h
    cases h
  | ok rs =>
    rw [hr] at h
    cases h
    exact ⟨rfl, rfl⟩

omit [FileSystem σ] in
theorem exists_options_error {color : Bool} : (∃ e, c.options color = .error e) ↔
    ∃ request ∈ c.requests, ∃ word ∈ request.toList.splitOn ',',
      Resources.Word.ofText? word = none := by
  rw [← @Resources.exists_useAll_error c.requests .none]
  unfold CommandLine.options
  cases Resources.none.useAll c.requests <;> simp [bind, Except.bind, pure, Except.pure]

theorem exists_configuration_error : (∃ e, configuration i c host = .error e) ↔
    c.noConfig = false ∧ ∃ path, c.configFile = some path ∧
      ∃ e, Configuration.readFile host path = .error e := by
  unfold configuration
  cases c.noConfig with
  | true => simp
  | false =>
    cases c.configFile with
    | none => simp
    | some path => cases h : Configuration.readFile host path <;> simp [h, Except.mapError]

omit [FileSystem σ] in
/-- Options do not go together if output is asked for and expected output is to be written. -/
theorem exists_validate_error {color : Bool} {o : Options} (h : c.options color = .ok o) :
    (∃ e, o.validate = .error e) ↔ c.generate = true ∧ c.verbose ≠ 0 ∧ c.quiet = false := by
  obtain ⟨hgenerate, hverbose⟩ := options_eq_ok h
  rw [Options.exists_validate_error, hgenerate, hverbose]
  cases c.quiet <;> simp

theorem exists_chosen_error : (∃ e, chosen i c host = .error e) ↔
    (∃ e, c.options (colored i c.color) = .error e) ∨ (∃ e, configuration i c host = .error e) ∨
      c.generate = true ∧ c.verbose ≠ 0 ∧ c.quiet = false := by
  unfold chosen
  cases ho : c.options (colored i c.color) with
  | error e => simp
  | ok o =>
    rw [← exists_validate_error ho]
    dsimp only
    cases configuration i c host with
    | error e => simp
    | ok f =>
      dsimp only
      cases o.validate <;> simp

/-- **The preparation fails exactly if the program is used wrongly.** -/
theorem misused_iff : Misused i host ↔ ∃ e, prepared i host = .error e := by
  unfold prepared
  cases hc : requested i host with
  | error e =>
    refine ⟨fun _ => ⟨e, rfl⟩, fun _ => ?_⟩
    obtain herror | ⟨words, e, hwords, herror⟩ := exists_requested_error.mp ⟨e, hc⟩
    · obtain ⟨arg, harg, file, hfile, hbad⟩ := ArgumentFile.exists_expansion_error.mp herror
      exact .argumentFile harg hfile hbad
    · exact .commandLine hwords herror
  | ok c =>
    have hread : ¬ ∃ e, requested i host = .error e := by simp [hc]
    have hchosen : (∃ e, (chosen i c host).map (Prod.mk c) = .error e) ↔
        ∃ e, chosen i c host = .error e := by
      cases chosen i c host <;> simp [Except.map]
    rw [hchosen, exists_chosen_error]
    constructor
    · intro h
      cases h with
      | argumentFile harg hfile hbad =>
        exact absurd (exists_requested_error.mpr (Or.inl
          (ArgumentFile.exists_expansion_error.mpr ⟨_, harg, _, hfile, hbad⟩))) hread
      | commandLine hwords herror =>
        exact absurd (exists_requested_error.mpr (Or.inr ⟨_, _, hwords, herror⟩)) hread
      | resource hc' hrequest hword hnone =>
        cases hc.symm.trans hc'
        exact Or.inl (exists_options_error.mpr ⟨_, hrequest, _, hword, hnone⟩)
      | configuration hc' hconfig hpath hbad =>
        cases hc.symm.trans hc'
        exact Or.inr (Or.inl (exists_configuration_error.mpr ⟨hconfig, _, hpath, _, hbad⟩))
      | generate hc' hgenerate hverbose hquiet =>
        cases hc.symm.trans hc'
        exact Or.inr (Or.inr ⟨hgenerate, hverbose, hquiet⟩)
    · rintro (h | h | ⟨hgenerate, hverbose, hquiet⟩)
      · obtain ⟨request, hrequest, word, hword, hnone⟩ := exists_options_error.mp h
        exact .resource hc hrequest hword hnone
      · obtain ⟨hconfig, path, hpath, e, hbad⟩ := exists_configuration_error.mp h
        exact .configuration hc hconfig hpath hbad
      · exact .generate hc hgenerate hverbose hquiet

/-- The program was used wrongly, and nothing is written to the stream because of that. -/
def ProgramError.IsMistake (e : ProgramError) : Prop :=
  e.exitCode = ProgramError.usageCode ∧ e.output = ""

theorem isMistake_requested {e : ProgramError} (h : requested i host = .error e)
    (hplain : ¬ Curious i host) : e.IsMistake := by
  rw [requested_eq, Except.bind_eq_error] at h
  obtain h | ⟨words, hwords, h⟩ := h
  · obtain ⟨cause, -, rfl⟩ := Except.mapError_eq_error.mp h
    exact ⟨rfl, rfl⟩
  rw [Except.mapError_eq_ok] at hwords
  rw [commandLine_eq, Except.bind_eq_error] at h
  obtain h | ⟨c, -, h⟩ := h
  · obtain ⟨r, hparse, rfl⟩ := Except.mapError_eq_error.mp h
    cases r with
    | help => exact absurd ⟨words, hwords, Or.inl hparse⟩ hplain
    | version => exact absurd ⟨words, hwords, Or.inr hparse⟩ hplain
    | _ => exact ⟨rfl, rfl⟩
  · unfold withEnvironment at h
    split at h <;> cases h
    exact ⟨rfl, rfl⟩

theorem isMistake_configuration {e : ProgramError} (h : configuration i c host = .error e) :
    e.IsMistake := by
  unfold configuration at h
  split_ifs at h
  split at h
  · obtain ⟨cause, -, rfl⟩ := Except.mapError_eq_error.mp h
    exact ⟨rfl, rfl⟩
  · cases h

/-- Why a suite is not chosen. -/
theorem chosen_eq_error {e : ProgramError} : chosen i c host = .error e ↔
    (∃ cause, c.options (colored i c.color) = .error cause ∧ .usage cause = e) ∨
      ∃ o, c.options (colored i c.color) = .ok o ∧ (configuration i c host = .error e ∨
        ∃ f, configuration i c host = .ok f ∧
          ∃ cause, o.validate = .error cause ∧ .usage cause = e) := by
  simp [chosen_eq, Except.bind_eq_error, Except.mapError_eq_error, Except.mapError_eq_ok]

theorem chosen_eq_ok {o : Options} {f : Configuration} : chosen i c host = .ok (o, f) ↔
    c.options (colored i c.color) = .ok o ∧ configuration i c host = .ok f ∧
      o.validate = .ok () := by
  simp only [chosen_eq, Except.bind_eq_ok, Except.mapError_eq_ok]
  constructor
  · rintro ⟨_, ho, _, hf, _, hv, h⟩
    cases h
    exact ⟨ho, hf, hv⟩
  · rintro ⟨ho, hf, hv⟩
    exact ⟨o, ho, f, hf, (), hv, rfl⟩

theorem prepared_eq_ok {o : Options} {f : Configuration} : prepared i host = .ok (c, o, f) ↔
    requested i host = .ok c ∧ chosen i c host = .ok (o, f) := by
  simp only [prepared_eq, Except.bind_eq_ok]
  constructor
  · rintro ⟨_, hc, _, hchosen, h⟩
    cases h
    exact ⟨hc, hchosen⟩
  · rintro ⟨hc, hchosen⟩
    exact ⟨c, hc, (o, f), hchosen, rfl⟩

theorem prepared_eq_error {e : ProgramError} : prepared i host = .error e ↔
    requested i host = .error e ∨ ∃ c, requested i host = .ok c ∧ chosen i c host = .error e := by
  simp [prepared_eq, Except.bind_eq_error]

/-- Errors of the preparation are mistakes, unless help or the version is asked for. -/
theorem isMistake_prepared {e : ProgramError} (h : prepared i host = .error e)
    (hplain : ¬ Curious i host) : e.IsMistake := by
  obtain h | ⟨c, -, h⟩ := prepared_eq_error.mp h
  · exact isMistake_requested h hplain
  obtain ⟨cause, -, rfl⟩ | ⟨o, -, hf | ⟨f, -, cause, -, rfl⟩⟩ := chosen_eq_error.mp h
  · exact ⟨rfl, rfl⟩
  · exact isMistake_configuration hf
  · exact ⟨rfl, rfl⟩

end Preparation

/-! ### Steps -/

section Steps
variable [FileSystem σ] (i : Invocation) (c : CommandLine)

theorem readCommandLine_apply (w : World σ ω) :
    ∃ t, (readCommandLine i : Run σ ω ProgramError CommandLine) w =
      (requested i w.host, { w with trail := t }) := by
  obtain ⟨t, ht⟩ := ArgumentFile.expand_apply i.arguments w
  rw [readCommandLine, Run.bind_apply, Run.mapError_apply, ht, requested]
  cases ArgumentFile.expansion w.host i.arguments with
  | error e => exact ⟨t, rfl⟩
  | ok words =>
    refine ⟨[], ?_⟩
    dsimp only [Except.mapError]
    rw [Run.update_bind, Run.bind_apply, Run.ofResult_apply, commandLine]
    cases CommandLine.parse words <;> rfl

theorem loadFrom_apply (path : Path) (explicit : Bool) (w : World σ ω) :
    ∃ t, (Configuration.loadFrom path explicit : Run σ ω ProgramError Configuration.Loaded) w =
      (.ok (match Configuration.readFile w.host path with
        | .ok f => ⟨f, some path, none, explicit⟩
        | .error e => ⟨.none, some path, some e, explicit⟩), { w with trail := t }) := by
  refine ⟨w.trail ++ [.event (.loadingConfiguration path)], ?_⟩
  rw [Configuration.loadFrom, Run.note_bind, Run.host_bind]
  cases Configuration.readFile w.host path <;> rfl

theorem readConfiguration_apply (w : World σ ω) :
    ∃ t, (readConfiguration i c : Run σ ω ProgramError Configuration) w =
      (configuration i c w.host, { w with trail := t }) := by
  unfold readConfiguration Configuration.load configuration usual
  cases c.noConfig with
  | true => exact ⟨w.trail, rfl⟩
  | false =>
    rw [if_neg Bool.false_ne_true, if_neg Bool.false_ne_true]
    cases c.configFile with
    | some path =>
      obtain ⟨t, ht⟩ := loadFrom_apply path true w
      dsimp only
      rw [Run.bind_apply, ht]
      cases Configuration.readFile w.host path <;> exact ⟨t, rfl⟩
    | none =>
      cases i.usualFile with
      | none => exact ⟨w.trail, rfl⟩
      | some path =>
        obtain ⟨t, ht⟩ := loadFrom_apply path false w
        dsimp only
        rw [bind_assoc, Run.host_bind]
        split_ifs
        · rw [Run.bind_apply, ht]
          cases Configuration.readFile w.host path <;> exact ⟨_, rfl⟩
        · exact ⟨w.trail, rfl⟩

end Steps

/-! ### The suite -/

section Suites
variable [FileSystem σ]

/-- The suite that a command line and a configuration describe. -/
def suiteOf (m : Machine σ) (i : Invocation) (c : CommandLine) (o : Options) (f : Configuration) :
    Suite (Watched σ) where
  options := o
  config := f.suiteConfig c
  detector := f.scratchDirectory.map fun d => Watched.detector (m.present ⟨d⟩)
  loader := Script.loader (Watched.launcher m.launcher) f.scriptInterpreter
    (f.suiteConfig c).discovery.extension
  entropy := i.entropy

/-- What is known of leftovers when the suite begins to run. -/
def watching (m : Machine σ) (f : Configuration) (s : Watched σ) : Watched σ :=
  match f.scratchDirectory with
  | none => s
  | some d => { s with leftovers := .start (m.present ⟨d⟩ s.host) }

/-- Begins to watch the scratch directory, if there is one. -/
def watchScratch (m : Machine σ) (f : Configuration) :
    Run (Watched σ) ω ProgramError (Option (LeakDetector (Watched σ))) := do
  match f.scratchDirectory with
  | none => pure none
  | some d => do
    Watched.watch (m.present ⟨d⟩) ⟨d⟩
    pure (some (Watched.detector (m.present ⟨d⟩)))

omit [FileSystem σ] in
theorem watchScratch_apply (m : Machine σ) (f : Configuration) (w : World (Watched σ) ω) :
    ∃ t, watchScratch m f w =
      (.ok (f.scratchDirectory.map fun d => Watched.detector (m.present ⟨d⟩)),
        { w with host := watching m f w.host, trail := t }) := by
  unfold watchScratch watching
  cases f.scratchDirectory with
  | none => exact ⟨w.trail, rfl⟩
  | some d => exact ⟨_, rfl⟩

variable [Sink ω] {m : Machine σ} {i : Invocation} {c : CommandLine} {o : Options}
  {f : Configuration} {w : World (Watched σ) ω}

theorem runSuite_eq (ho : c.options (colored i c.color) = .ok o) :
    (runSuite m i c : Run (Watched σ) ω ProgramError SuiteResult) =
      readConfiguration i c >>= fun f => watchScratch m f >>= fun detector =>
        Run.mapError .ofRunError { suiteOf m i c o f with detector }.run := by
  rw [runSuite, ho]
  refine congrArg (readConfiguration i c >>= ·) (funext fun f => ?_)
  unfold watchScratch
  cases f.scratchDirectory <;> rfl

/-- The suite begins to run when its options and its configuration are known, whatever the
launcher. -/
theorem runSuite_of_ok (ho : c.options (colored i c.color) = .ok o)
    (hf : configuration i c w.host = .ok f) :
    ∃ t, ∀ l : Script.Launcher σ, runSuite { m with launcher := l } i c w =
      Run.mapError .ofRunError (suiteOf { m with launcher := l } i c o f).run
        { w with host := watching m f w.host, trail := t } := by
  obtain ⟨t, ht⟩ := readConfiguration_apply i c w
  obtain ⟨t', ht'⟩ := watchScratch_apply m f { w with trail := t }
  rw [hf] at ht
  refine ⟨t', fun l => ?_⟩
  have hwatch : watchScratch { m with launcher := l } f { w with trail := t } = _ := ht'
  rw [runSuite_eq ho, Run.bind_ok (by rw [ht]), ht, Run.bind_ok (by rw [hwatch]), hwatch]
  rfl

/-! ### Whole runs -/

omit [FileSystem σ] [Sink ω] in
/-- **Worlds that differ in the trail, and in what is known of leftovers,** at most. Nothing has been
shown, and no unit and no file has been touched. -/
def Untouched (w v : World (Watched σ) ω) : Prop :=
  ∃ leftovers trail, v = { w with host := { w.host with leftovers }, trail }

/-- **Without options and a configuration** the suite does not run, whatever the launcher. -/
theorem runSuite_of_not_chosen {e : ProgramError} (h : chosen i c w.host = .error e) :
    ∃ v, Untouched w v ∧ ∀ l : Script.Launcher σ,
      runSuite { m with launcher := l } i c w = (.error e, v) := by
  obtain ⟨cause, ho, rfl⟩ | ⟨o, ho, hf | ⟨f, hf, cause, hv, rfl⟩⟩ := chosen_eq_error.mp h
  · refine ⟨w, ⟨w.host.leftovers, w.trail, rfl⟩, fun l => ?_⟩
    rw [runSuite, ho]
    rfl
  · obtain ⟨t, ht⟩ := readConfiguration_apply i c w
    rw [hf] at ht
    refine ⟨_, ⟨w.host.leftovers, t, rfl⟩, fun l => ?_⟩
    rw [runSuite_eq ho, Run.bind_error (by rw [ht]), ht]
  · obtain ⟨t, ht⟩ := runSuite_of_ok (m := m) ho hf
    refine ⟨{ w with host := watching m f w.host, trail := t }, ?_, fun l => ?_⟩
    · unfold watching
      cases f.scratchDirectory <;> exact ⟨_, t, rfl⟩
    · have hinvalid : (suiteOf { m with launcher := l } i c o f).options.validate =
          .error cause := hv
      rw [ht, Run.mapError_apply, Suite.run_of_invalid hinvalid]
      rfl

omit [FileSystem σ] in
/-- The end of the program when its suite has been run. -/
def ended (c : CommandLine) :
    Except ProgramError SuiteResult × World (Watched σ) ω → Ended × World (Watched σ) ω
  | (.error e, w) => fail e (Console.renderAll c w.trail) w
  | (.ok r, w) => (⟨r.exitCode, Console.renderAll c w.trail⟩, w)

theorem run_of_requested (hc : requested i w.host = .ok c) :
    ∃ t, ∀ m : Machine σ, run m i w = ended c (runSuite m i c { w with trail := t }) := by
  obtain ⟨t, ht⟩ := readCommandLine_apply i w
  refine ⟨t, fun m => ?_⟩
  rw [run, ht, hc]
  dsimp only
  rcases runSuite m i c { w with trail := t } with ⟨_ | _, _⟩ <;> rfl

/-- **If the preparation fails**, the program ends with the error, whatever the launcher. -/
theorem run_of_not_prepared {e : ProgramError} (h : prepared i w.host = .error e) :
    ∃ shown v, Untouched w v ∧
      ∀ l : Script.Launcher σ, run { m with launcher := l } i w = fail e shown v := by
  obtain hc | ⟨c, hc, hchosen⟩ := prepared_eq_error.mp h
  · obtain ⟨t, ht⟩ := readCommandLine_apply i w
    exact ⟨[], _, ⟨w.host.leftovers, t, rfl⟩, fun l => by rw [run, ht, hc]⟩
  · obtain ⟨t, hrun⟩ := run_of_requested hc
    obtain ⟨v, ⟨leftovers, trail, rfl⟩, hsuite⟩ :=
      runSuite_of_not_chosen (m := m) (w := { w with trail := t }) hchosen
    exact ⟨_, _, ⟨leftovers, trail, rfl⟩, fun l => by rw [hrun, hsuite, ended]⟩

/-- **If the preparation goes well**, the program ends as the run of its suite does. -/
theorem run_of_prepared (h : prepared i w.host = .ok (c, o, f)) :
    ∃ t, run m i w = ended c (Run.mapError .ofRunError (suiteOf m i c o f).run
      { w with host := watching m f w.host, trail := t }) := by
  obtain ⟨hc, hchosen⟩ := prepared_eq_ok.mp h
  obtain ⟨ho, hf, -⟩ := chosen_eq_ok.mp hchosen
  obtain ⟨t, hrun⟩ := run_of_requested hc
  obtain ⟨t', ht'⟩ := runSuite_of_ok (m := m) (w := { w with trail := t }) ho hf
  exact ⟨t', (hrun m).trans (congrArg (ended c) (ht' m.launcher))⟩

/-- The run of a suite with options that go together ends the program with 0 or 1, and the program
adds nothing to what the suite leaves. -/
theorem ended_run {s : Suite (Watched σ)} (hv : s.options.validate = .ok ())
    (v : World (Watched σ) ω) :
    (ended c (Run.mapError .ofRunError s.run v)).2 = (s.run v).2 ∧
      ((ended c (Run.mapError .ofRunError s.run v)).1.code = 0 ↔
        ∃ result, (s.run v).1 = .ok result ∧ result.bad = []) ∧
      ((ended c (Run.mapError .ofRunError s.run v)).1.code = 0 ∨
        (ended c (Run.mapError .ofRunError s.run v)).1.code = 1) := by
  rw [Run.mapError_apply]
  rcases hrun : s.run v with ⟨e | result, v'⟩
  · have hother (cause : ConfigError) : e ≠ .configuration cause := by
      rintro rfl
      have hinvalid := Suite.run_eq_configuration.mp (congrArg Prod.fst hrun)
      rw [hv] at hinvalid
      cases hinvalid
    cases e with
    | configuration cause => exact absurd rfl (hother cause)
    | _ => exact ⟨rfl, by simp [ended, fail, ProgramError.ofRunError, ProgramError.exitCode,
        Except.mapError], Or.inr rfl⟩
  · refine ⟨rfl, ?_, result.exitCode_eq⟩
    simpa [ended, Except.mapError] using result.exitCode_eq_zero

/-- **A program that is used wrongly** ends with 2, and has touched nothing, whatever the
launcher. -/
theorem run_of_misused (h : Misused i w.host) (hplain : ¬ Curious i w.host) :
    ∃ errors v, Untouched w v ∧
      ∀ l : Script.Launcher σ, run { m with launcher := l } i w = (⟨2, errors⟩, v) := by
  obtain ⟨e, he⟩ := misused_iff.mp h
  obtain ⟨hcode, hsilent⟩ := isMistake_prepared he hplain
  obtain ⟨shown, v, hv, hrun⟩ := run_of_not_prepared (m := m) he
  refine ⟨shown ++ utf8 e.text, v, hv, fun l => ?_⟩
  rw [hrun, fail, if_pos hsilent, hcode]
  rfl

/-- **A program that is not used wrongly** runs its suite. -/
theorem run_of_not_misused (m : Machine σ) (h : ¬ Misused i w.host) :
    ∃ c o f t, prepared i w.host = .ok (c, o, f) ∧
      let v := { w with host := watching m f w.host, trail := t }
      (run m i w).2 = ((suiteOf m i c o f).run v).2 ∧
      ((run m i w).1.code = 0 ↔
        ∃ result, ((suiteOf m i c o f).run v).1 = .ok result ∧ result.bad = []) ∧
      ((run m i w).1.code = 0 ∨ (run m i w).1.code = 1) := by
  rw [misused_iff] at h
  cases hp : prepared i w.host with
  | error e => exact absurd ⟨e, hp⟩ h
  | ok x =>
    obtain ⟨c, o, f⟩ := x
    obtain ⟨t, hrun⟩ := run_of_prepared (m := m) hp
    have hv : (suiteOf m i c o f).options.validate = .ok () :=
      (chosen_eq_ok.mp (prepared_eq_ok.mp hp).2).2.2
    rw [hrun]
    exact ⟨c, o, f, t, rfl, ended_run hv _⟩

/-- **What the exit code tells**, if neither help nor the version is asked for. It is 2 exactly if the
program is used wrongly, and then nothing has been touched, whatever the launcher. Otherwise the
suite runs. Then 0 tells that it returned a result without bad units, and all else is told by 1. -/
theorem exitCode_run (m : Machine σ) (hplain : ¬ Curious i w.host) :
    ((run m i w).1.code = 2 ↔ Misused i w.host) ∧
    (Misused i w.host → ∃ errors v, Untouched w v ∧
      ∀ l : Script.Launcher σ, run { m with launcher := l } i w = (⟨2, errors⟩, v)) ∧
    (¬ Misused i w.host → ∃ c o f t, prepared i w.host = .ok (c, o, f) ∧
      let v := { w with host := watching m f w.host, trail := t }
      (run m i w).2 = ((suiteOf m i c o f).run v).2 ∧
      ((run m i w).1.code = 0 ↔
        ∃ result, ((suiteOf m i c o f).run v).1 = .ok result ∧ result.bad = []) ∧
      ((run m i w).1.code = 0 ∨ (run m i w).1.code = 1)) := by
  refine ⟨⟨fun hcode => ?_, fun h => ?_⟩, (run_of_misused · hplain), run_of_not_misused m⟩
  · by_contra h
    obtain ⟨c, o, f, t, -, -, -, h0 | h1⟩ := run_of_not_misused m h
    · rw [hcode] at h0
      cases h0
    · rw [hcode] at h1
      cases h1
  · obtain ⟨errors, v, -, hrun⟩ := run_of_misused (m := m) h hplain
    exact congrArg (·.1.code) (hrun m.launcher)

end Suites

/-- A machine on which every program ends well and writes nothing. -/
def silentMachine : Machine Shelf where
  launcher := ⟨fun _ host => (.ok ⟨.exited 0, [], []⟩, host)⟩
  present := fun _ _ => []

/-- The arguments in a place where the usual configuration file is malformed. -/
def invocation (arguments : List String) : Invocation where
  arguments
  configFile := none
  usualFile := some ⟨"config.toml"⟩
  terminal := false
  entropy := 0

/-- The world with one script. -/
def scriptWorld : World (Watched Shelf) Memory :=
  .start (.ofHost ⟨[(⟨"config.toml"⟩, utf8 "["), (⟨"test/test_a.py"⟩, [])]⟩) .empty

/-- A resource that does not exist is a mistake, a malformed configuration in the usual place is
none. -/
theorem exitCode_run_silentMachine :
    (run silentMachine (invocation ["-u", "gui"]) scriptWorld).1.code = 2 ∧
    ∃ c o f t result, ((suiteOf silentMachine (invocation ["test_a"]) c o f).run { scriptWorld with
      host := watching silentMachine f scriptWorld.host, trail := t }).1 = .ok result ∧
      result.bad = [] := by
  have hgui : ¬ Curious (invocation ["-u", "gui"]) scriptWorld.host := by
    rintro ⟨words, hwords, h⟩
    cases hwords
    revert h
    decide +kernel
  have htest : ¬ Curious (invocation ["test_a"]) scriptWorld.host := by
    rintro ⟨words, hwords, h⟩
    cases hwords
    revert h
    decide +kernel
  have hcode : (run silentMachine (invocation ["test_a"]) scriptWorld).1.code = 0 := by
    decide +kernel
  have hmisused : ¬ Misused (invocation ["test_a"]) scriptWorld.host := by
    intro h
    have hwrong := (exitCode_run silentMachine htest).1.mpr h
    rw [hcode] at hwrong
    cases hwrong
  constructor
  · have hasked : requested (invocation ["-u", "gui"]) scriptWorld.host =
        .ok { CommandLine.none with requests := ["gui"] } := rfl
    have hword : "gui".toList ∈ "gui".toList.splitOn ',' := by decide +kernel
    exact (exitCode_run silentMachine hgui).1.mpr
      (.resource hasked List.mem_cons_self hword (by decide +kernel))
  · obtain ⟨c, o, f, t, -, -, hzero, -⟩ :=
      (exitCode_run silentMachine htest).2.2 hmisused
    obtain ⟨result, hrun, hbad⟩ := hzero.mp hcode
    exact ⟨c, o, f, t, result, hrun, hbad⟩

end Program

end Golden
