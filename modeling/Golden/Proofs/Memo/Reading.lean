import Golden.Proofs.Memo.Grammar
import Golden.Proofs.Reading

/-! # Reading memos

What lines lead to is known from what each of them does (`Memo.Reader.Turn`). Lines are read if they
are whole sections and at the end perhaps an open one (`Memo.Reader.Tells`), so that they are read
exactly if they can be continued so that they are a memo.

* `Memo.Reader.steps_eq_ok`, `Memo.Reader.steps_eq_error`: only lines that count are read, and the
  first one that cannot be read decides about the error.
* `Memo.Reader.read_eq_ok`: what the reader tells of the lines.
* `Memo.begins_iff`: lines are read exactly if they can be continued.
* `Memo.parse_blocks`: the memo of a text, or the first line that does not continue one, or what is
  missing at the end. -/

namespace Golden

namespace Memo

namespace Reader

/-! ### Reading lines -/

/-- Where reading begins. -/
def start : Reader := ⟨empty, [], none⟩

/-- Reads lines that count. -/
def read (r : Reader) (lines : List (List Char)) : Except MemoFault Reader := lines.foldlM step r

theorem read_cons {r r' : Reader} {line : List Char} {lines : List (List Char)} :
    r.read (line :: lines) = .ok r' ↔ ∃ q, Turn r line q ∧ q.read lines = .ok r' := by
  rw [read, List.foldlM_cons, Except.bind_eq_ok]
  simp only [step_eq_ok]
  rfl

theorem read_singleton (r : Reader) (line : List Char) : r.read [line] = r.step line := bind_pure _

theorem read_append {r r' : Reader} {lines lines' : List (List Char)} :
    r.read (lines ++ lines') = .ok r' ↔ ∃ q, r.read lines = .ok q ∧ q.read lines' = .ok r' := by
  rw [read, List.foldlM_append, Except.bind_eq_ok]
  rfl

theorem read_concat {r r' : Reader} {lines : List (List Char)} {line : List Char} :
    r.read (lines ++ [line]) = .ok r' ↔ ∃ q, r.read lines = .ok q ∧ Turn q line r' := by
  simp only [read_append, read_cons]
  constructor
  · rintro ⟨q, hq, _, hturn, heq⟩
    cases heq
    exact ⟨q, hq, hturn⟩
  · rintro ⟨q, hq, hturn⟩
    exact ⟨q, hq, r', hturn, rfl⟩

theorem read_append_eq_error {r : Reader} {lines lines' : List (List Char)} {fault : MemoFault} :
    r.read (lines ++ lines') = .error fault ↔
      r.read lines = .error fault ∨ ∃ q, r.read lines = .ok q ∧ q.read lines' = .error fault := by
  rw [read, List.foldlM_append, Except.bind_eq_error]
  rfl

/-- One line after another is read, if it counts. -/
theorem steps_cons (r : Reader) (n : Nat) (line : List Char) (lines : List (List Char)) :
    r.steps n (line :: lines) =
      match r.read (kept [line]) with
      | .error fault => .error (.malformed n fault)
      | .ok q => q.steps (n + 1) lines := by
  rw [steps]
  split
  · next hblank =>
    rw [kept_blank hblank]
    rfl
  · next hline =>
    have hread := r.read_singleton (Text.trim line)
    rw [← kept_line hline] at hread
    cases hstep : r.step (Text.trim line) with
    | error fault => rw [hread, hstep]
    | ok q => rw [hread, hstep]

/-- **Lines are read** if those that count are. -/
theorem steps_eq_ok {r r' : Reader} {lines : List (List Char)} {n : Nat} :
    r.steps n lines = .ok r' ↔ r.read (kept lines) = .ok r' := by
  induction lines generalizing r n with
  | nil => simp [steps, kept, read, pure, Except.pure]
  | cons line lines ih =>
    rw [steps_cons, kept_cons line lines, read_append]
    cases r.read (kept [line]) <;> simp [ih]

/-- **The first line that cannot be read** decides about the error. -/
theorem steps_eq_error {r : Reader} {lines : List (List Char)} {n : Nat} {e : MemoError} :
    r.steps n lines = .error e ↔ ∃ front line back fault, lines = front ++ line :: back ∧
      (∃ q, r.read (kept front) = .ok q) ∧ r.read (kept (front ++ [line])) = .error fault ∧
        e = .malformed (n + front.length) fault := by
  induction lines generalizing r n with
  | nil => simp [steps]
  | cons first lines ih =>
    rw [steps_cons]
    constructor
    · intro h
      -- Either the first line is at fault, or the search goes on behind it.
      cases hfirst : r.read (kept [first]) with
      | error fault =>
        rw [hfirst] at h
        cases h
        exact ⟨[], first, lines, fault, rfl, ⟨r, rfl⟩, hfirst, rfl⟩
      | ok q =>
        rw [hfirst] at h
        obtain ⟨front, line, back, fault, rfl, ⟨q', hq'⟩, hfault, rfl⟩ := ih.mp h
        refine ⟨first :: front, line, back, fault, rfl, ⟨q', ?_⟩, ?_, ?_⟩
        · rw [kept_cons, read_append]
          exact ⟨q, hfirst, hq'⟩
        · rw [List.cons_append, kept_cons, read_append_eq_error]
          exact Or.inr ⟨q, hfirst, hfault⟩
        · rw [List.length_cons, Nat.add_assoc, Nat.add_comm 1]
    · rintro ⟨front, line, back, fault, hlines, ⟨q', hq'⟩, hfault, rfl⟩
      cases front with
      | nil =>
        obtain ⟨rfl, rfl⟩ := List.cons.inj hlines
        rw [List.nil_append] at hfault
        rw [hfault]
        rfl
      | cons _ front =>
        obtain ⟨rfl, rfl⟩ := List.cons.inj hlines
        rw [kept_cons, read_append] at hq'
        obtain ⟨q, hfirst, hq'⟩ := hq'
        rw [List.cons_append, kept_cons, read_append_eq_error, hfirst] at hfault
        obtain ⟨_, heq, hfault⟩ := hfault.resolve_left (by simp)
        cases heq
        rw [hfirst]
        dsimp only
        rw [ih, List.length_cons, Nat.add_comm front.length, ← Nat.add_assoc]
        exact ⟨front, line, back, fault, rfl, ⟨q', hq'⟩, hfault, rfl⟩

/-! ### What has been read -/

/-- The sections that were begun, with the names that the memo holds: whole ones, and at the end
perhaps an open one. -/
inductive Shape (m : Memo) : List Section → Option Section → List (List Char) → Prop where
  | closed {order : List Section} {lines : List (List Char)} : AreBlocks m order lines →
    Shape m order none lines
  | opened {order : List Section} {s : Section} {front back : List (List Char)} :
    AreBlocks m order front → IsOpenBlock s (m.names s) back →
      Shape m (order ++ [s]) (some s) (front ++ back)

/-- **What the reader tells of the lines.** -/
structure Tells (r : Reader) (lines : List (List Char)) : Prop where
  distinct : r.seen.Nodup
  unseen : ∀ s ∉ r.seen, r.memo.names s = []
  shape : Shape r.memo r.seen r.current lines

theorem Shape.ended {m : Memo} {order : List Section} {current : Option Section}
    {lines : List (List Char)} (h : Shape m order current lines) :
    ∃ ending, kept ending = ending ∧ AreBlocks m order (lines ++ ending) := by
  cases h with
  | closed hblocks => exact ⟨[], rfl, by rwa [List.append_nil]⟩
  | opened hblocks hopen =>
    refine ⟨[closing], rfl, ?_⟩
    rw [List.append_assoc]
    exact hblocks.append (IsBlock.areBlocks ⟨_, hopen, rfl⟩)

theorem tells_start : Tells start [] where
  distinct := List.nodup_nil
  unseen s _ := by cases s <;> rfl
  shape := .closed ⟨[], .nil, rfl⟩

/-- **A line that is read is told of.** -/
theorem Turn.tells {r r' : Reader} {line : List Char} {lines : List (List Char)}
    (h : Turn r line r') (hr : Tells r lines) : Tells r' (lines ++ [line]) := by
  obtain ⟨memo, seen, current⟩ := r
  obtain ⟨hdistinct, hunseen, hshape⟩ := hr
  cases h with
  | @header s hcurrent hseen hheader =>
    cases hcurrent
    cases hshape with
    | closed hblocks =>
      have hnames : memo.names s = [] := hunseen s hseen
      refine ⟨Section.nodup_concat.mpr ⟨hseen, hdistinct⟩, fun k hk => ?_, .opened hblocks ?_⟩
      · exact hunseen k fun hmem => hk (List.mem_append_left _ hmem)
      · exact ⟨line, [], hheader, hnames.symm ▸ .nil, rfl⟩
  | @entry s name hcurrent hentry =>
    cases hcurrent
    cases hshape with
    | @opened order _ front back hblocks hopen =>
      -- The sections before the open one are others, and their names do not change.
      have hs : s ∉ order := (Section.nodup_concat.mp hdistinct).1
      refine ⟨hdistinct, fun k hk => ?_, ?_⟩
      · have hk' : k ≠ s := fun heq => hk (heq ▸ List.mem_append_right _ List.mem_cons_self)
        rw [names_add, if_neg hk']
        exact hunseen k hk
      · rw [List.append_assoc]
        refine .opened (hblocks.congr fun k hk => ?_) ?_
        · rw [names_add, if_neg fun heq : k = s => hs (heq ▸ hk)]
        · rw [names_add, if_pos rfl]
          exact hopen.concat hentry
  | @closing s hcurrent hline =>
    cases hcurrent
    cases hshape with
    | @opened order _ front back hblocks hopen =>
      refine ⟨hdistinct, hunseen, ?_⟩
      rw [List.append_assoc, hline]
      exact .closed (hblocks.append (IsBlock.areBlocks ⟨back, hopen, rfl⟩))

theorem tells_of_read {lines : List (List Char)} : ∀ {r : Reader},
    start.read lines = .ok r → Tells r lines := by
  induction lines using List.reverseRecOn with
  | nil =>
    intro r h
    cases h
    exact tells_start
  | append_singleton lines line ih =>
    intro r h
    obtain ⟨q, hq, hturn⟩ := read_concat.mp h
    exact hturn.tells (ih hq)

/-- Entries are read, and the names are added. -/
theorem read_entries {s : Section} {names : List String} {entries : List (List Char)}
    (h : List.Forall₂ IsEntry names entries) : ∀ {r : Reader}, r.current = some s →
      r.read entries = .ok { r with memo := r.memo.addAll names s } := by
  induction h with
  | nil => exact fun _ => rfl
  | cons hentry _ ih => exact fun hcurrent => read_cons.mpr ⟨_, .entry hcurrent hentry, ih hcurrent⟩

variable {r : Reader} {s : Section} {names : List String} {lines : List (List Char)}

theorem read_openBlock (hcurrent : r.current = none) (hseen : s ∉ r.seen)
    (h : IsOpenBlock s names lines) :
    r.read lines = .ok ⟨r.memo.addAll names s, r.seen ++ [s], some s⟩ := by
  obtain ⟨header, entries, hheader, hentries, rfl⟩ := h
  exact read_cons.mpr ⟨_, .header hcurrent hseen hheader, read_entries hentries rfl⟩

/-- **A section is read**, and the names in it are added. -/
theorem read_block (hcurrent : r.current = none) (hseen : s ∉ r.seen)
    (h : IsBlock s names lines) :
    r.read lines = .ok ⟨r.memo.addAll names s, r.seen ++ [s], none⟩ := by
  obtain ⟨front, hopen, rfl⟩ := h
  exact read_concat.mpr ⟨_, read_openBlock hcurrent hseen hopen, .closing rfl rfl⟩

/-- **Sections are read**, and the names in them are added. -/
theorem read_blocks {m : Memo} {order : List Section} {blocks : List (List (List Char))}
    (h : List.Forall₂ (fun s => IsBlock s (m.names s)) order blocks) : ∀ {r : Reader},
      r.current = none → (r.seen ++ order).Nodup →
      ∃ m', r.read blocks.flatten = .ok ⟨m', r.seen ++ order, none⟩ ∧
        ∀ k, m'.names k = r.memo.names k ++ if k ∈ order then m.names k else [] := by
  induction h with
  | nil =>
    rintro ⟨memo, seen, current⟩ hcurrent -
    cases hcurrent
    refine ⟨memo, ?_, by simp⟩
    rw [List.append_nil]
    rfl
  | @cons s block order blocks hblock _ ih =>
    intro r hcurrent hdistinct
    have hsplit : r.seen ++ s :: order = r.seen ++ [s] ++ order := by simp
    obtain ⟨hnot, -⟩ := List.nodup_cons.mp (List.nodup_middle.mp hdistinct)
    obtain ⟨hseen, hrest⟩ := not_or.mp (mt List.mem_append.mpr hnot)
    obtain ⟨m', hread, hnames⟩ := ih (r := ⟨r.memo.addAll (m.names s) s, r.seen ++ [s], none⟩) rfl
      (hsplit ▸ hdistinct)
    refine ⟨m', ?_, fun k => ?_⟩
    · rw [List.flatten_cons, read_append, hsplit]
      exact ⟨_, read_block hcurrent hseen hblock, hread⟩
    · rw [hnames, names_addAll]
      by_cases hk : k = s
      · subst hk
        simp [hrest]
      · simp [hk]

theorem read_areBlocks {m : Memo} {order : List Section} (h : AreBlocks m order lines)
    (hdistinct : order.Nodup) : ∃ m', start.read lines = .ok ⟨m', order, none⟩ ∧
      ∀ k, m'.names k = if k ∈ order then m.names k else [] := by
  obtain ⟨blocks, hblocks, rfl⟩ := h
  obtain ⟨m', hread, hnames⟩ := read_blocks hblocks (r := start) rfl hdistinct
  exact ⟨m', hread, fun k => (hnames k).trans (by cases k <;> rfl)⟩

theorem read_of_tells (h : Tells r lines) : start.read lines = .ok r := by
  obtain ⟨memo, seen, current⟩ := r
  obtain ⟨hdistinct, hunseen, hshape⟩ := h
  cases hshape with
  | closed hblocks =>
    obtain ⟨m', hread, hnames⟩ := read_areBlocks hblocks hdistinct
    have hmemo : m' = memo := by
      refine ext_names fun k => ?_
      rw [hnames]
      split_ifs with hk
      · rfl
      · exact (hunseen k hk).symm
    rw [hread, hmemo]
  | @opened order s front back hblocks hopen =>
    obtain ⟨hs, hbefore⟩ := Section.nodup_concat.mp hdistinct
    obtain ⟨m', hread, hnames⟩ := read_areBlocks hblocks hbefore
    have hmemo : m'.addAll (memo.names s) s = memo := by
      refine ext_names fun k => ?_
      rw [names_addAll, hnames]
      by_cases hk : k = s
      · subst hk
        rw [if_pos rfl, if_neg hs, List.nil_append]
      · rw [if_neg hk]
        split_ifs with hmem
        · rfl
        · exact (hunseen k (by simp [hk, hmem])).symm
    rw [read_append]
    exact ⟨_, hread, hmemo ▸ read_openBlock rfl hs hopen⟩

/-- **Lines are read** exactly if they are whole sections and at the end perhaps an open one. The
reader tells what is in them. -/
theorem read_eq_ok : start.read lines = .ok r ↔ Tells r lines := ⟨tells_of_read, read_of_tells⟩

/-- A section is seen in its header. -/
theorem Turn.mem_seen {r' : Reader} {line : List Char} (h : Turn r line r') :
    s ∈ r'.seen ↔ s ∈ r.seen ∨ IsHeader s line := by
  cases h with
  | @header s' _ _ hheader =>
    have hsame : IsHeader s line ↔ s = s' := ⟨fun h => h.unique hheader, fun h => h ▸ hheader⟩
    simp [hsame]
  | entry _ hentry =>
    have hnot : ¬ IsHeader s line := fun h => h.not_isEntry hentry
    simp [hnot]
  | closing _ hline =>
    have hnot : ¬ IsHeader s line := fun h => h.ne_closing hline
    simp [hnot]

theorem mem_seen_of_read {r' : Reader} (h : r.read lines = .ok r') :
    s ∈ r'.seen ↔ s ∈ r.seen ∨ HasHeader s lines := by
  induction lines generalizing r with
  | nil =>
    cases h
    simp [HasHeader]
  | cons line lines ih =>
    obtain ⟨q, hturn, hq⟩ := read_cons.mp h
    rw [ih hq, hturn.mem_seen, HasHeader, HasHeader, List.exists_mem_cons_iff, or_assoc]

end Reader

/-! ### Beginnings of memos -/

open Reader (start)

/-- The first line of a section, as it is written. -/
def headerLine (s : Section) : List Char := (s.name ++ " = [").toList

theorem kept_headerLine (s : Section) : kept [headerLine s] = [headerLine s] := by
  cases s <;> rfl

theorem isHeader_headerLine (s : Section) : IsHeader s (headerLine s) := by
  have hblank : ∀ c ∈ [' '], Text.isBlank c = true := List.forall_mem_singleton.mpr (by decide)
  exact ⟨[' '], [' '], hblank, hblank, by cases s <;> rfl⟩

/-- A section without names. -/
def emptyBlock (s : Section) : List (List Char) := [headerLine s, closing]

theorem kept_emptyBlock (s : Section) : kept (emptyBlock s) = emptyBlock s := by
  rw [emptyBlock, kept_cons, kept_headerLine]
  rfl

theorem kept_flatten_emptyBlock (order : List Section) :
    kept (order.map emptyBlock).flatten = (order.map emptyBlock).flatten := by
  induction order with
  | nil => rfl
  | cons s order ih => rw [List.map_cons, List.flatten_cons, kept_append, kept_emptyBlock, ih]

theorem areBlocks_emptyBlock {m : Memo} {order : List Section}
    (h : ∀ s ∈ order, m.names s = []) : AreBlocks m order (order.map emptyBlock).flatten := by
  refine ⟨order.map emptyBlock, ?_, rfl⟩
  rw [List.forall₂_map_right_iff, List.forall₂_same]
  intro s hs
  exact ⟨[headerLine s], ⟨_, [], isHeader_headerLine s, h s hs ▸ .nil, rfl⟩, rfl⟩

/-- Lines that are read can be continued: the open section is ended, and sections without names are
added. -/
theorem begins_of_read {r : Reader} {lines : List (List Char)}
    (h : start.read (kept lines) = .ok r) : Begins lines := by
  obtain ⟨hdistinct, hunseen, hshape⟩ := Reader.read_eq_ok.mp h
  obtain ⟨ending, hkept, hblocks⟩ := hshape.ended
  have hmissing : ∀ s ∈ Section.all.filter (· ∉ r.seen), r.memo.names s = [] := fun s hs =>
    hunseen s (by simpa using (List.mem_filter.mp hs).2)
  refine ⟨ending ++ ((Section.all.filter (· ∉ r.seen)).map emptyBlock).flatten, r.memo,
    r.seen ++ Section.all.filter (· ∉ r.seen), ?_, ?_⟩
  · refine Section.perm_all (hdistinct.append (Section.nodup_all.filter _) ?_) fun s => ?_
    · intro s hs hs'
      simp [hs] at hs'
    · by_cases hs : s ∈ r.seen
      · exact List.mem_append_left _ hs
      · exact List.mem_append_right _ (by simp [hs, s.mem_all])
  · rw [kept_append, kept_append, hkept, kept_flatten_emptyBlock, ← List.append_assoc]
    exact hblocks.append (areBlocks_emptyBlock hmissing)

/-- **Lines are read exactly if they can be continued** so that they are a memo. -/
theorem begins_iff {lines : List (List Char)} :
    Begins lines ↔ ∃ r, start.read (kept lines) = .ok r := by
  constructor
  · rintro ⟨rest, m, order, horder, hblocks⟩
    have hdistinct : order.Nodup := horder.nodup_iff.mpr Section.nodup_all
    obtain ⟨m', hread, -⟩ := Reader.read_areBlocks hblocks hdistinct
    rw [kept_append, Reader.read_append] at hread
    obtain ⟨q, hq, -⟩ := hread
    exact ⟨q, hq⟩
  · rintro ⟨r, hr⟩
    exact begins_of_read hr

/-- The lines of a memo are read, and what is read is the memo. -/
theorem isMemo_iff {m : Memo} {lines : List (List Char)} : IsMemo m lines ↔
    ∃ order, start.read lines = .ok ⟨m, order, none⟩ ∧ ∀ s, s ∈ order := by
  constructor
  · rintro ⟨order, horder, hblocks⟩
    have hall (s : Section) : s ∈ order := horder.mem_iff.mpr s.mem_all
    have hdistinct : order.Nodup := horder.nodup_iff.mpr Section.nodup_all
    exact ⟨order, Reader.read_eq_ok.mpr
      ⟨hdistinct, fun s hs => absurd (hall s) hs, .closed hblocks⟩, hall⟩
  · rintro ⟨order, hread, hall⟩
    obtain ⟨hdistinct, -, hshape⟩ := Reader.read_eq_ok.mp hread
    cases hshape with
    | closed hblocks => exact ⟨order, Section.perm_all hdistinct hall, hblocks⟩

/-- A section is open at the end of lines exactly if one is open for their reader. -/
theorem endsOpen_iff {lines : List (List Char)} {r : Reader} (h : start.read lines = .ok r) :
    EndsOpen lines ↔ r.current ≠ none := by
  constructor
  · rintro ⟨m, order, s, front, back, hdistinct, hblocks, hopen, rfl⟩
    obtain ⟨hs, hbefore⟩ := Section.nodup_concat.mp hdistinct
    obtain ⟨m', hread, -⟩ := Reader.read_areBlocks hblocks hbefore
    have hwhole := Reader.read_append.mpr ⟨_, hread, Reader.read_openBlock rfl hs hopen⟩
    rw [h] at hwhole
    cases hwhole
    simp
  · intro hcurrent
    obtain ⟨memo, seen, current⟩ := r
    obtain ⟨hdistinct, -, hshape⟩ := Reader.read_eq_ok.mp h
    cases hshape with
    | closed _ => exact absurd rfl hcurrent
    | opened hblocks hopen => exact ⟨memo, _, _, _, _, hdistinct, hblocks, hopen, rfl⟩

/-! ### Texts -/

namespace Reader

/-- What the reader says at the end of `n` lines. -/
def finish (r : Reader) (n : Nat) : Except MemoError Memo :=
  if r.current.isSome then .error (.malformed n .unterminated)
  else
    match Section.all.find? fun s => s ∉ r.seen with
    | some missing => .error (.missingSection missing)
    | none => .ok r.memo

variable {r : Reader} {n : Nat}

theorem finish_eq_ok {m : Memo} :
    r.finish n = .ok m ↔ r.current = none ∧ (∀ s, s ∈ r.seen) ∧ r.memo = m := by
  unfold finish
  split_ifs with hcurrent
  · have hopen : r.current ≠ none := Option.isSome_iff_ne_none.mp hcurrent
    simp [hopen]
  · have hclosed : r.current = none := by simpa using hcurrent
    cases hmissing : Section.all.find? fun s => s ∉ r.seen with
    | some missing =>
      have hnot : missing ∉ r.seen := by simpa using List.find?_some hmissing
      refine iff_of_false (by simp) fun h => hnot (h.2.1 missing)
    | none =>
      have hall : ∀ s, s ∈ r.seen := fun s => by
        simpa using List.find?_eq_none.mp hmissing s s.mem_all
      simp [hclosed, hall]

theorem finish_eq_malformed {k : Nat} {fault : MemoFault} :
    r.finish n = .error (.malformed k fault) ↔
      r.current ≠ none ∧ k = n ∧ fault = .unterminated := by
  unfold finish
  split_ifs with hcurrent
  · have hopen : r.current ≠ none := Option.isSome_iff_ne_none.mp hcurrent
    simp [hopen, eq_comm]
  · have hclosed : r.current = none := by simpa using hcurrent
    split <;> simp [hclosed]

theorem finish_eq_missing {s : Section} :
    r.finish n = .error (.missingSection s) ↔ r.current = none ∧ ∃ before after,
      Section.all = before ++ s :: after ∧ (∀ k ∈ before, k ∈ r.seen) ∧ s ∉ r.seen := by
  have hfirst : (Section.all.find? fun s => s ∉ r.seen) = some s ↔ ∃ before after,
      Section.all = before ++ s :: after ∧ (∀ k ∈ before, k ∈ r.seen) ∧ s ∉ r.seen := by
    rw [List.find?_eq_some_iff_append]
    simp only [decide_eq_true_eq, Bool.not_eq_true', decide_eq_false_iff_not, not_not]
    exact ⟨fun ⟨hs, before, after, hall, hbefore⟩ => ⟨before, after, hall, hbefore, hs⟩,
      fun ⟨before, after, hall, hbefore, hs⟩ => ⟨hs, before, after, hall, hbefore⟩⟩
  unfold finish
  rw [← hfirst]
  split_ifs with hcurrent
  · have hopen : r.current ≠ none := Option.isSome_iff_ne_none.mp hcurrent
    simp [hopen]
  · have hclosed : r.current = none := by simpa using hcurrent
    split
    · next heq =>
      rw [heq]
      simp [hclosed]
    · next heq =>
      rw [heq]
      simp [hclosed]

/-- A line is never refused because a section is open. -/
theorem step_ne_unterminated (r : Reader) (line : List Char) :
    r.step line ≠ .error .unterminated := by
  unfold step
  repeat' split
  all_goals simp

theorem read_ne_unterminated {lines : List (List Char)} :
    ∀ {r : Reader}, r.read lines ≠ .error .unterminated := by
  induction lines with
  | nil => exact fun h => by cases h
  | cons line lines ih =>
    intro r h
    rw [← List.singleton_append, read_append_eq_error] at h
    rcases h with hline | ⟨q, -, hq⟩
    · exact step_ne_unterminated r line (r.read_singleton line ▸ hline)
    · exact ih hq

end Reader

theorem parse_eq (text : String) : parse text =
    start.steps 1 (Text.lines text.toList) >>= (·.finish (Text.lines text.toList).length) := rfl

section Parse
variable {text : String} {lines : List (List Char)} {n : Nat} {s : Section}

theorem parse_eq_ok (h : Text.lines text.toList = lines) {m : Memo} :
    parse text = .ok m ↔ IsMemo m (kept lines) := by
  rw [parse_eq, Except.bind_eq_ok, h, isMemo_iff]
  simp only [Reader.steps_eq_ok, Reader.finish_eq_ok]
  constructor
  · rintro ⟨⟨m', order, current⟩, hread, rfl, hall, rfl⟩
    exact ⟨order, hread, hall⟩
  · rintro ⟨order, hread, hall⟩
    exact ⟨_, hread, rfl, hall, rfl⟩

/-- **The first line that does not continue a memo** is at fault. -/
theorem parse_eq_malformed (h : Text.lines text.toList = lines) :
    (∃ fault, fault ≠ .unterminated ∧ parse text = .error (.malformed n fault)) ↔
      ∃ front line back, lines = front ++ line :: back ∧ Begins front ∧
        ¬ Begins (front ++ [line]) ∧ n = front.length + 1 := by
  simp only [parse_eq, Except.bind_eq_error, h, Reader.finish_eq_malformed, Reader.steps_eq_error,
    begins_iff]
  constructor
  · rintro ⟨fault, hfault, ⟨front, line, back, _, hlines, hfront, hline, heq⟩ | ⟨r, -, -, -, heq⟩⟩
    · obtain ⟨hn, rfl⟩ := MemoError.malformed.inj heq
      refine ⟨front, line, back, hlines, hfront, ?_, hn.trans (Nat.add_comm ..)⟩
      rintro ⟨r, hr⟩
      rw [hline] at hr
      cases hr
    · exact absurd heq hfault
  · rintro ⟨front, line, back, hlines, hfront, hline, rfl⟩
    cases hread : start.read (kept (front ++ [line])) with
    | ok r => exact absurd ⟨r, hread⟩ hline
    | error fault =>
      refine ⟨fault, ?_, Or.inl ⟨front, line, back, fault, hlines, hfront, hread, ?_⟩⟩
      · rintro rfl
        exact Reader.read_ne_unterminated hread
      · rw [Nat.add_comm]

theorem parse_eq_unterminated (h : Text.lines text.toList = lines) :
    parse text = .error (.malformed n .unterminated) ↔
      Begins lines ∧ EndsOpen (kept lines) ∧ n = lines.length := by
  simp only [parse_eq, Except.bind_eq_error, h, Reader.finish_eq_malformed, Reader.steps_eq_error,
    Reader.steps_eq_ok, begins_iff]
  constructor
  · rintro (⟨_, _, _, fault, -, -, hline, heq⟩ | ⟨r, hread, hcurrent, hn, -⟩)
    · obtain ⟨-, rfl⟩ := MemoError.malformed.inj heq
      exact absurd hline Reader.read_ne_unterminated
    · exact ⟨⟨r, hread⟩, (endsOpen_iff hread).mpr hcurrent, hn⟩
  · rintro ⟨⟨r, hread⟩, hopen, hn⟩
    exact Or.inr ⟨r, hread, (endsOpen_iff hread).mp hopen, hn, trivial⟩

theorem parse_eq_missing (h : Text.lines text.toList = lines) :
    parse text = .error (.missingSection s) ↔
      Begins lines ∧ ¬ EndsOpen (kept lines) ∧ ∃ before after,
        Section.all = before ++ s :: after ∧ (∀ k ∈ before, HasHeader k (kept lines)) ∧
          ¬ HasHeader s (kept lines) := by
  have hseen {r : Reader} (hread : start.read (kept lines) = .ok r) (k : Section) :
      k ∈ r.seen ↔ HasHeader k (kept lines) :=
    (Reader.mem_seen_of_read hread).trans (or_iff_right List.not_mem_nil)
  simp only [parse_eq, Except.bind_eq_error, h, Reader.finish_eq_missing, Reader.steps_eq_error,
    Reader.steps_eq_ok, begins_iff]
  constructor
  · rintro (⟨_, _, _, _, -, -, -, heq⟩ | ⟨r, hread, hcurrent, hmissing⟩)
    · cases heq
    · simp only [hseen hread] at hmissing
      exact ⟨⟨r, hread⟩, fun hopen => (endsOpen_iff hread).mp hopen hcurrent, hmissing⟩
  · rintro ⟨⟨r, hread⟩, hclosed, hmissing⟩
    simp only [← hseen hread] at hmissing
    rw [endsOpen_iff hread, not_not] at hclosed
    exact Or.inr ⟨r, hread, hclosed, hmissing⟩

end Parse

/-- A section that is begun twice does not continue a memo. -/
theorem not_begins_of_hasHeader {s : Section} {front : List (List Char)} {line : List Char}
    (hfront : HasHeader s (kept front)) (hline : IsHeader s (Text.trim line)) :
    ¬ Begins (front ++ [line]) := by
  intro h
  obtain ⟨r, hr⟩ := begins_iff.mp h
  rw [kept_append, kept_line hline.ne_nil, Reader.read_concat] at hr
  obtain ⟨q, hq, hturn⟩ := hr
  cases hturn with
  | header _ hseen hheader =>
    rw [hheader.unique hline] at hseen
    exact hseen ((Reader.mem_seen_of_read hq).mpr (Or.inr hfront))
  | entry _ hentry => exact hline.not_isEntry hentry
  | closing _ hclosing => exact hline.ne_closing hclosing

/-- **The memo of a text**: the lines that count are its lines. Else the first line that does not
continue a memo is at fault; a section that is begun twice is such a line. If there is none, a
section is open at the end, or one is missing. -/
theorem parse_blocks (text : String) :
    let lines := Text.lines text.toList
    (∀ m, parse text = .ok m ↔ IsMemo m (kept lines)) ∧
    (∀ n, (∃ fault, fault ≠ .unterminated ∧ parse text = .error (.malformed n fault)) ↔
      ∃ front line back, lines = front ++ line :: back ∧ Begins front ∧
        ¬ Begins (front ++ [line]) ∧ n = front.length + 1) ∧
    (∀ n, parse text = .error (.malformed n .unterminated) ↔
      Begins lines ∧ EndsOpen (kept lines) ∧ n = lines.length) ∧
    (∀ s, parse text = .error (.missingSection s) ↔
      Begins lines ∧ ¬ EndsOpen (kept lines) ∧ ∃ before after,
        Section.all = before ++ s :: after ∧ (∀ k ∈ before, HasHeader k (kept lines)) ∧
          ¬ HasHeader s (kept lines)) ∧
    ∀ s front line, HasHeader s (kept front) → IsHeader s (Text.trim line) →
      ¬ Begins (front ++ [line]) :=
  ⟨fun _ => parse_eq_ok rfl, fun _ => parse_eq_malformed rfl, fun _ => parse_eq_unterminated rfl,
    fun _ => parse_eq_missing rfl, fun _ _ _ => not_begins_of_hasHeader⟩

/-- A section that is begun twice, with other blanks the second time. The empty line counts for the
number of the line. -/
theorem parse_blocks_twice :
    parse "good=[\n\n]\n good = [" = .error (.malformed 4 .duplicateSection) ∧
    Begins ["good=[".toList, [], "]".toList] ∧
    ¬ Begins (["good=[".toList, [], "]".toList] ++ [" good = [".toList]) := by
  have hparse : parse "good=[\n\n]\n good = [" = .error (.malformed 4 .duplicateSection) := by
    decide +kernel
  have hsplit : Text.lines "good=[\n\n]\n good = [".toList =
      ["good=[".toList, [], "]".toList] ++ [" good = [".toList] := by decide +kernel
  have hbegun : HasHeader .good (kept ["good=[".toList, [], "]".toList]) :=
    ⟨"good=[".toList, by decide +kernel, [], [], by simp, by simp, rfl⟩
  have hagain : IsHeader .good (Text.trim " good = [".toList) := isHeader_headerLine .good
  obtain ⟨-, hmalformed, -, -, htwice⟩ := parse_blocks "good=[\n\n]\n good = ["
  obtain ⟨front, line, back, hlines, hfront, -, hlength⟩ := (hmalformed 4).mp ⟨_, by decide, hparse⟩
  obtain ⟨rfl, -⟩ := List.append_inj (hlines.symm.trans hsplit) (Nat.succ.inj hlength).symm
  exact ⟨hparse, hfront, htwice .good _ _ hbegun hagain⟩

end Memo

end Golden
