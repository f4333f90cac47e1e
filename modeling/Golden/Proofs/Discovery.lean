import Golden.Proofs.Files
import Golden.Proofs.Reading
import Golden.Proofs.Suite.Plan
import Golden.Proofs.Text.Utf8
import Mathlib.Data.List.Perm.Basic
import Mathlib.Data.String.Basic

/-! # What is found in the roots

The names that are found are kept in an ascending list, which is determined by its members
(`Selection.eq_of_ascending`). So what is found depends on the entries of the roots only, and not on
how they come in.

* `Selection.testName?_eq_some`: which entries are sources of tests.
* `Selection.discovered_eq`: the tests that are found, by the entries of all roots.
* `Selection.allTests_exact`: which tests there are, or which root is to blame.
* `Selection.mem_found`: which names are found.
* `Suite.selectedAt_unnamed`: the tests that are selected when none is named.
* `Selection.filter_found`: names that are taken for excluded ones are not found, and nothing else
  changes. -/

namespace Golden.Selection

variable {σ ω : Type}

/-! ### Ascending names -/

/-- Names in ascending order, each of them once. -/
def Ascending (names : List String) : Prop := names.Pairwise (· < ·)

theorem mem_insertName {n m : String} : ∀ {names : List String},
    m ∈ insertName n names ↔ m = n ∨ m ∈ names
  | [] => by simp [insertName]
  | x :: names => by
    rw [insertName]
    split_ifs with hlt heq
    · simp
    · subst heq
      simp
    · rw [List.mem_cons, mem_insertName, List.mem_cons]
      exact or_left_comm

theorem ascending_insertName (n : String) : ∀ {names : List String},
    Ascending names → Ascending (insertName n names)
  | [], _ => List.pairwise_singleton _ n
  | x :: names, h => by
    obtain ⟨hx, hnames⟩ := List.pairwise_cons.mp h
    rw [insertName]
    split_ifs with hlt heq
    · refine List.pairwise_cons.mpr ⟨fun m hm => ?_, h⟩
      rcases List.mem_cons.mp hm with rfl | hm
      · exact hlt
      · exact hlt.trans (hx m hm)
    · exact h
    · refine List.pairwise_cons.mpr ⟨fun m hm => ?_, ascending_insertName n hnames⟩
      rcases mem_insertName.mp hm with rfl | hm
      · exact lt_of_le_of_ne (not_lt.mp hlt) (Ne.symm heq)
      · exact hx m hm

theorem mem_insertNames {m : String} : ∀ {names found : List String},
    m ∈ insertNames names found ↔ m ∈ names ∨ m ∈ found
  | [], found => by simp [insertNames]
  | n :: names, found => by
    have ih : m ∈ insertNames names (insertName n found) ↔ m ∈ names ∨ m ∈ insertName n found :=
      mem_insertNames
    rw [mem_insertName] at ih
    rw [List.mem_cons]
    exact ih.trans or_left_comm |>.trans or_assoc.symm

theorem ascending_insertNames : ∀ (names : List String) {found : List String},
    Ascending found → Ascending (insertNames names found)
  | [], _, h => h
  | n :: names, _, h => ascending_insertNames names (ascending_insertName n h)

/-- **Ascending names are determined by their members.** -/
theorem eq_of_ascending {names names' : List String} (h : Ascending names)
    (h' : Ascending names') (hmem : ∀ n, n ∈ names ↔ n ∈ names') : names = names' := by
  have hperm : names.Perm names' :=
    (List.perm_ext_iff_of_nodup (h.imp ne_of_lt) (h'.imp ne_of_lt)).mpr hmem
  exact hperm.eq_of_pairwise (fun _ _ _ _ hab hba => absurd hba (lt_asymm hab)) h h'

/-! ### Entries -/

section Entries
variable {extension : String} {standard excluded : List String}

theorem withoutTail?_eq_some {tail whole cs : List Char} :
    withoutTail? tail whole = some cs ↔ whole = cs ++ tail := by
  unfold withoutTail?
  constructor
  · intro h
    split_ifs at h with htail
    obtain ⟨front, rfl⟩ := List.isSuffixOf_iff_suffix.mp htail
    rw [List.length_append, Nat.add_sub_cancel, List.take_left] at h
    rw [Option.some.inj h]
  · rintro rfl
    rw [if_pos (List.isSuffixOf_iff_suffix.mpr (List.suffix_append cs tail)), List.length_append,
      Nat.add_sub_cancel, List.take_left]

/-- What begins a text up to a character that it does not hold begins what is before that. -/
theorem prefix_append_cons {c : Char} : ∀ {p cs ds : List Char}, c ∉ p →
    (p <+: cs ++ c :: ds ↔ p <+: cs)
  | [], _, _, _ => iff_of_true List.nil_prefix List.nil_prefix
  | d :: p, [], ds, h => by
    rw [List.mem_cons, not_or] at h
    simp [Ne.symm h.1]
  | d :: p, e :: cs, ds, h => by
    rw [List.mem_cons, not_or] at h
    rw [List.cons_append, List.cons_prefix_cons, List.cons_prefix_cons, prefix_append_cons h.2]

/-- **An entry is the source of a test** if it is spelled like one, and the name of the test begins
like one. The dot in front of the extension is behind that beginning, because there is none in
it. -/
theorem testName?_eq_some {entry n : String} : testName? extension entry = some n ↔
    n.startsWith testBeginning = true ∧ entry = n ++ "." ++ extension := by
  have hspelling : (withoutTail? ('.' :: extension.toList) entry.toList).map String.ofList = some n ↔
      entry = n ++ "." ++ extension := by
    rw [Option.map_eq_some_iff, ← String.toList_inj]
    simp only [withoutTail?_eq_some, String.toList_append, List.append_assoc]
    constructor
    · rintro ⟨cs, hcs, rfl⟩
      rw [hcs, String.toList_ofList]
      rfl
    · intro h
      exact ⟨n.toList, h, String.ofList_toList⟩
  have hbegin (h : entry = n ++ "." ++ extension) :
      entry.startsWith testBeginning = n.startsWith testBeginning := by
    have hdot : entry.toList = n.toList ++ '.' :: extension.toList := by
      rw [h, String.toList_append, String.toList_append, List.append_assoc]
      rfl
    rw [Bool.eq_iff_iff, String.startsWith_string_iff, String.startsWith_string_iff, hdot]
    exact prefix_append_cons (by decide)
  unfold testName?
  constructor
  · intro h
    split_ifs at h with htest
    have hentry := hspelling.mp h
    exact ⟨hbegin hentry ▸ htest, hentry⟩
  · rintro ⟨htest, hentry⟩
    rw [if_pos (hbegin hentry ▸ htest)]
    exact hspelling.mpr hentry

/-- What is spelled like a source loses the extension. -/
theorem stripExtension_source (n extension : String) :
    stripExtension extension (n ++ "." ++ extension) = n := by
  have hextension : withoutTail? extension.toList (n ++ "." ++ extension).toList =
      some (n ++ ".").toList :=
    withoutTail?_eq_some.mpr String.toList_append
  have hdot : withoutTail? ['.'] (n ++ ".").toList = some n.toList :=
    withoutTail?_eq_some.mpr String.toList_append
  rw [stripExtension, hextension, Option.bind_some, hdot]
  exact String.ofList_toList

/-- The source of a test is a name in a directory, unless it is spelled with a separator. -/
theorem isName_of_testName {entry n : String} (h : testName? extension entry = some n)
    (hslash : '/' ∉ entry.toList) : Path.IsName entry := by
  unfold testName? at h
  split_ifs at h with htest
  rw [String.startsWith_string_iff] at htest
  refine Path.isName_iff.mpr ⟨hslash, ?_, ?_⟩
  · rw [Path.isVoid, Bool.or_eq_false_iff, decide_eq_false_iff_not, decide_eq_false_iff_not]
    constructor
    · intro hentry
      exact absurd (hentry ▸ htest) (by decide)
    · intro hentry
      exact absurd (hentry ▸ htest) (by decide)
  · intro hentry
    exact absurd (hentry ▸ htest) (by decide)

theorem mem_testsAmong {entries : List String} {n : String} :
    n ∈ testsAmong extension standard excluded entries ↔
      (∃ entry ∈ entries, testName? extension entry = some n) ∧ n ∉ standard ∧ n ∉ excluded := by
  simp [testsAmong]

theorem testsAmong_append (entries entries' : List String) :
    testsAmong extension standard excluded (entries ++ entries') =
      testsAmong extension standard excluded entries ++
        testsAmong extension standard excluded entries' := by
  simp [testsAmong]

theorem ascending_found (extension : String) (standard excluded entries : List String) :
    Ascending (insertNames (testsAmong extension standard excluded entries) []) :=
  ascending_insertNames _ List.Pairwise.nil

/-- Names that are taken for excluded ones are not found, and nothing else changes. -/
theorem filter_found (given entries : List String) :
    insertNames (testsAmong extension (standard.filter (· ∉ given)) (given ++ excluded) entries)
        [] =
      (insertNames (testsAmong extension standard excluded entries) []).filter (· ∉ given) := by
  refine eq_of_ascending (ascending_found ..) ((ascending_found ..).filter _) fun n => ?_
  simp only [List.mem_filter, mem_insertNames, mem_testsAmong, List.mem_append,
    List.not_mem_nil, or_false, decide_eq_true_eq]
  tauto

end Entries

/-! ### Roots -/

section Roots
variable [FileSystem σ] {extension : String} {standard excluded : List String}

/-- The entries of the roots, unless one of them cannot be listed. -/
def entriesOf (host : σ) : List Path → Except FileSystemError (List String)
  | [] => .ok []
  | root :: roots =>
    match FileSystem.list host root with
    | .error e => .error e
    | .ok entries => (entriesOf host roots).map (entries ++ ·)

/-- **The tests that are found** are those among the entries of all roots. -/
theorem discovered_eq (host : σ) : ∀ {found : List String} (roots : List Path), Ascending found →
    discovered host extension standard excluded found roots =
      (entriesOf host roots).map fun entries =>
        insertNames (testsAmong extension standard excluded entries) found
  | found, [], _ => rfl
  | found, root :: roots, h => by
    rw [discovered, entriesOf]
    cases FileSystem.list host root with
    | error e => rfl
    | ok entries =>
      dsimp only
      rw [discovered_eq host roots (ascending_insertNames _ h)]
      cases entriesOf host roots with
      | error e => rfl
      | ok others =>
        refine congrArg Except.ok (eq_of_ascending ?_ ?_ fun n => ?_)
        · exact ascending_insertNames _ (ascending_insertNames _ h)
        · exact ascending_insertNames _ h
        · simp only [mem_insertNames, testsAmong_append, List.mem_append, List.not_mem_nil,
            or_false]
          exact or_left_comm.trans or_assoc.symm

theorem entriesOf_cons_eq_ok {host : σ} {root : Path} {roots : List Path}
    {entries : List String} : entriesOf host (root :: roots) = .ok entries ↔
      ∃ names others, FileSystem.list host root = .ok names ∧ entriesOf host roots = .ok others ∧
        names ++ others = entries := by
  rw [entriesOf]
  cases FileSystem.list host root with
  | error e => simp
  | ok names => simp [Except.map_eq_ok]

/-- The entries of the roots are those of each of them. -/
theorem mem_entriesOf {host : σ} {e : String} : ∀ {roots : List Path} {entries : List String},
    entriesOf host roots = .ok entries →
      (e ∈ entries ↔ ∃ root ∈ roots, ∃ names, FileSystem.list host root = .ok names ∧ e ∈ names)
  | [], entries, h => by
    obtain rfl := Except.ok.inj h
    simp
  | root :: roots, entries, h => by
    obtain ⟨names, others, hnames, hothers, rfl⟩ := entriesOf_cons_eq_ok.mp h
    rw [List.mem_append, mem_entriesOf hothers]
    simp [hnames]

/-- If the entries of all roots can be listed, then those of each of them. -/
theorem list_of_entriesOf {host : σ} {root : Path} : ∀ {roots : List Path} {entries : List String},
    entriesOf host roots = .ok entries → root ∈ roots → ∃ names, FileSystem.list host root = .ok names
  | first :: roots, entries, h, hroot => by
    obtain ⟨names, others, hnames, hothers, -⟩ := entriesOf_cons_eq_ok.mp h
    rcases List.mem_cons.mp hroot with rfl | hroot
    · exact ⟨names, hnames⟩
    · exact list_of_entriesOf hothers hroot

/-! ### All tests -/

/-- Each of the roots can be listed. -/
def Listable (host : σ) (roots : List Path) : Prop :=
  ∀ root ∈ roots, ∃ names, FileSystem.list host root = .ok names

/-- The name is listed in one of the roots. -/
def IsEntry (host : σ) (roots : List Path) (e : String) : Prop :=
  ∃ root ∈ roots, ∃ names, FileSystem.list host root = .ok names ∧ e ∈ names

theorem exists_entriesOf {host : σ} : ∀ {roots : List Path}, Listable host roots →
    ∃ entries, entriesOf host roots = .ok entries
  | [], _ => ⟨[], rfl⟩
  | root :: roots, h => by
    obtain ⟨⟨names, hnames⟩, hroots⟩ := List.forall_mem_cons.mp h
    obtain ⟨entries, hentries⟩ := exists_entriesOf hroots
    exact ⟨_, entriesOf_cons_eq_ok.mpr ⟨names, entries, hnames, hentries, rfl⟩⟩

/-- **What is found** are the names of tests that have a source in one of the roots, unless they are
standard or excluded. -/
theorem mem_found {host : σ} {roots : List Path} {entries : List String} {n : String}
    (h : entriesOf host roots = .ok entries) :
    n ∈ insertNames (testsAmong extension standard excluded entries) [] ↔
      n.startsWith testBeginning = true ∧ n ∉ standard ∧ n ∉ excluded ∧
        IsEntry host roots (n ++ "." ++ extension) := by
  simp only [mem_insertNames, mem_testsAmong, testName?_eq_some, List.not_mem_nil, or_false,
    mem_entriesOf h]
  constructor
  · rintro ⟨⟨entry, hentry, hbegin, rfl⟩, hstandard, hexcluded⟩
    exact ⟨hbegin, hstandard, hexcluded, hentry⟩
  · rintro ⟨hbegin, hstandard, hexcluded, hentry⟩
    exact ⟨⟨_, hentry, hbegin, rfl⟩, hstandard, hexcluded⟩

/-- **The first root that cannot be listed** decides about the error. -/
theorem entriesOf_eq_error {host : σ} {e : FileSystemError} : ∀ {roots : List Path},
    entriesOf host roots = .error e ↔ ∃ front root back, roots = front ++ root :: back ∧
      Listable host front ∧ FileSystem.list host root = .error e
  | [] => by simp [entriesOf]
  | first :: roots => by
    let P (root : Path) : Prop := ∃ names, FileSystem.list host root = .ok names
    let Q (_ : List Path) (root : Path) : Prop := FileSystem.list host root = .error e
    rw [entriesOf]
    cases hfirst : FileSystem.list host first with
    | error cause =>
      have hnot : ¬ P first := by simp [P, hfirst]
      have hsplit : _ ↔ Q [] first := exists_first_of_not hnot roots
      exact (hsplit.trans (iff_of_eq (congrArg (· = Except.error e) hfirst))).symm
    | ok names =>
      have hlater : ¬ Q [] first := by simp [Q, hfirst]
      have hsplit := exists_first_of (P := P) ⟨names, hfirst⟩ hlater roots
      exact Except.map_eq_error.trans (entriesOf_eq_error.trans hsplit.symm)

/-- **The tests there are**, by the entries of all roots. -/
theorem allTests_fst (roots : List Path) (w : World σ ω) :
    (allTests roots extension standard excluded w).1 = (entriesOf w.host roots).map fun entries =>
      standard ++ insertNames (testsAmong extension standard excluded entries) [] := by
  obtain ⟨t, ht⟩ := discoverAll_apply extension standard excluded roots [] w
  rw [allTests, Run.bind_apply, ht, discovered_eq w.host roots List.Pairwise.nil]
  cases entriesOf w.host roots <;> rfl

/-- **A search in one root** is a search in all of one root. -/
theorem testsIn_eq_allTests (root : Path) (w : World σ ω) :
    testsIn root extension standard excluded w = allTests [root] extension standard excluded w := by
  have hdiscover : ∃ t, discover root extension standard excluded w =
      ((FileSystem.list w.host root).map fun entries =>
        insertNames (testsAmong extension standard excluded entries) [], { w with trail := t }) := by
    rw [discover, Run.host_bind, Run.bind_apply, Run.ofResult_apply]
    cases FileSystem.list w.host root with
    | error e => exact ⟨w.trail, rfl⟩
    | ok entries => exact ⟨_, rfl⟩
  obtain ⟨t, ht⟩ := hdiscover
  rw [testsIn, allTests, discoverAll, Run.bind_apply, Run.bind_apply, Run.bind_apply, ht]
  cases FileSystem.list w.host root with
  | error e => rfl
  | ok entries =>
    have hagain : insertNames (insertNames (testsAmong extension standard excluded entries) []) [] =
        insertNames (testsAmong extension standard excluded entries) [] :=
      eq_of_ascending (ascending_insertNames _ List.Pairwise.nil) (ascending_found ..) fun n => by
        simp [mem_insertNames]
    exact congrArg (fun found => (Except.ok (standard ++ found), { w with trail := t })) hagain.symm

/-- **What is found is exact.** If all roots can be listed, the tests are the standard ones and,
ascending by their octets, all others that are not excluded and have a source in one of the roots.
How the roots and their entries come in does not matter. Otherwise the first root that cannot be
listed is told. A search in one root is a search in all of one root, and what is found under a name
is where the source of the name is. -/
theorem allTests_exact (roots : List Path) (extension : String) (standard excluded : List String)
    (w : World σ ω) :
    (Listable w.host roots → ∃ found,
      (allTests roots extension standard excluded w).1 = .ok (standard ++ found) ∧
      found.Pairwise (utf8 · < utf8 ·) ∧ found.Nodup ∧ (∀ n ∈ found, n ∉ standard) ∧
      ∀ n, n ∈ found ↔ n.startsWith testBeginning = true ∧ n ∉ standard ∧ n ∉ excluded ∧
        IsEntry w.host roots (n ++ "." ++ extension)) ∧
    (∀ (w' : World σ ω) (roots' : List Path), Listable w.host roots → Listable w'.host roots' →
      (∀ e, IsEntry w.host roots e ↔ IsEntry w'.host roots' e) →
      (allTests roots extension standard excluded w).1 =
        (allTests roots' extension standard excluded w').1) ∧
    (∀ e, (allTests roots extension standard excluded w).1 = .error e ↔
      ∃ front root back, roots = front ++ root :: back ∧ Listable w.host front ∧
        FileSystem.list w.host root = .error e) ∧
    (∀ root, testsIn root extension standard excluded w =
      allTests [root] extension standard excluded w) ∧
    ∀ root entry n, testName? extension entry = some n → stripExtension extension entry = n ∧
      sourcePath root n extension = root.join entry ∧
      ('/' ∉ entry.toList →
        (sourcePath root n extension).components = root.components ++ [.name entry]) := by
  refine ⟨fun h => ?_, fun w' roots' h h' heq => ?_, fun e => ?_, fun root => ?_, ?_⟩
  · obtain ⟨entries, hentries⟩ := exists_entriesOf h
    have hascending := ascending_found extension standard excluded entries
    refine ⟨_, ?_, hascending.imp Utf8.encode_lt_encode.mpr, hascending.imp ne_of_lt,
      fun n hn => ?_, fun n => mem_found hentries⟩
    · rw [allTests_fst, hentries]
      rfl
    · exact ((mem_found hentries).mp hn).2.1
  · obtain ⟨entries, hentries⟩ := exists_entriesOf h
    obtain ⟨entries', hentries'⟩ := exists_entriesOf h'
    rw [allTests_fst, allTests_fst, hentries, hentries']
    refine congrArg (fun found => Except.ok (standard ++ found)) ?_
    refine eq_of_ascending (ascending_found ..) (ascending_found ..) fun n => ?_
    rw [mem_found hentries, mem_found hentries', heq]
  · rw [allTests_fst, Except.map_eq_error, entriesOf_eq_error]
  · exact testsIn_eq_allTests root w
  · intro root entry n h
    obtain ⟨-, rfl⟩ := testName?_eq_some.mp h
    exact ⟨stripExtension_source n extension, rfl, fun hslash =>
      Path.components_join root (isName_of_testName h hslash)⟩

omit [FileSystem σ] in
/-- Two roots. In both of them there is a source of the same name. -/
def twoRoots : World Shelf Unit :=
  .start ⟨["t/test_b.py", "u/test_a.py", "t/test_a.py", "u/test_.py", "t/test_copy", "t/other.py",
    "t/test_std.py", "u/test_off.py"].map (⟨·⟩, [])⟩ ()

omit [FileSystem σ] in
/-- The tests of both roots, in either order. A name may end where names of tests begin to differ,
but a source has a dot in front of its extension. -/
theorem allTests_exact_twoRoots :
    (allTests [⟨"t"⟩, ⟨"u"⟩] "py" ["test_std"] ["test_off"] twoRoots).1 =
      .ok ["test_std", "test_", "test_a", "test_b"] ∧
    (allTests [⟨"u"⟩, ⟨"t"⟩] "py" ["test_std"] ["test_off"] twoRoots).1 =
      .ok ["test_std", "test_", "test_a", "test_b"] := by
  have h : (allTests [⟨"t"⟩, ⟨"u"⟩] "py" ["test_std"] ["test_off"] twoRoots).1 =
      .ok ["test_std", "test_", "test_a", "test_b"] := by decide +kernel
  have hlistable (roots : List Path) : Listable twoRoots.host roots := fun root _ => ⟨_, rfl⟩
  refine ⟨h, ?_⟩
  rw [← h]
  exact (allTests_exact _ "py" ["test_std"] ["test_off"] twoRoots).2.1 twoRoots _ (hlistable _)
    (hlistable _) fun e => by simp [IsEntry, or_comm]

end Roots

end Golden.Selection

namespace Golden.Suite

variable {σ : Type} [FileSystem σ] {s : Suite σ}

/-- **If no test is named**, those are selected that are standard or found. -/
theorem selectedAt_unnamed (h : s.names.named = []) {host : σ} {tests : List String} :
    s.selectedAt host = .ok tests ↔ ∃ entries, Selection.entriesOf host (s.rootsAt host) = .ok entries ∧
      s.names.standard ++ Selection.insertNames (Selection.testsAmong s.config.discovery.extension
        s.names.standard s.names.excluded entries) [] = tests := by
  rw [selectedAt, if_neg (not_not.mpr h), Selection.discovered_eq host _ List.Pairwise.nil,
    ← Except.map_eq_ok]
  cases Selection.entriesOf host (s.rootsAt host) <;> rfl

theorem selectedAt_named (h : s.names.named ≠ []) (host : σ) :
    s.selectedAt host = .ok s.names.named :=
  if_pos h

end Golden.Suite
