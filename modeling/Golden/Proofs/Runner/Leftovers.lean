import Golden.Proofs.Order
import Golden.Proofs.Runner.Stored
import Golden.Proofs.Runner.Tidied
import Golden.Proofs.Script
import Golden.Watched

/-! # Leftovers

A detector is asked again and again what is new in a directory, and meanwhile paths come and go. It
knows what was there at first, and what was there whenever it was asked (`Leftovers.Knows`). So a
path is reported the first time that it is seen, and never again. A runner asks after every run that
was not interrupted, so nothing is lost that is still there when it asks.

* `Leftovers.knows_start`, `Leftovers.knows_detect`: what is known at first, and after one question.
* `Leftovers.isReport_detect`: what is told in answer to one question.
* `Leftovers.countsOnce_reports`: all answers together.
* `Runner.Watches.known`, `Runner.Watches.leaked`: many runs ask once for each that was not
  interrupted, and keep the answers in mind.
* `Runner.leftovers_once`: leftovers are counted once. -/

namespace Golden

/-! ### Ascending paths -/

section Repetitions
variable {α : Type} {r : α → α → Bool}

theorem eraseRepsBy_loop (a : α) (as acc : List α) : List.eraseRepsBy.loop r a as acc =
    acc.reverse ++ List.eraseRepsBy.loop r a as [] := by
  induction as generalizing a acc with
  | nil => simp [List.eraseRepsBy.loop]
  | cons b as ih =>
    simp only [List.eraseRepsBy.loop]
    cases r a b with
    | true => exact ih a acc
    | false =>
      change List.eraseRepsBy.loop r b as (a :: acc) = _ ++ List.eraseRepsBy.loop r b as [a]
      rw [ih b (a :: acc), ih b [a], List.reverse_cons, List.append_assoc]
      rfl

/-- Of two neighbours that are the same, the second is erased. -/
theorem eraseRepsBy_cons (a b : α) (as : List α) : (a :: b :: as).eraseRepsBy r =
    if r a b then (a :: as).eraseRepsBy r else a :: (b :: as).eraseRepsBy r := by
  simp only [List.eraseRepsBy, List.eraseRepsBy.loop]
  cases r a b with
  | true => rfl
  | false => exact eraseRepsBy_loop b as [a]

theorem mem_of_mem_eraseRepsBy {a c : α} {as : List α} (h : c ∈ (a :: as).eraseRepsBy r) :
    c ∈ a :: as := by
  induction as generalizing a with
  | nil => exact h
  | cons b as ih =>
    rw [eraseRepsBy_cons] at h
    split_ifs at h
    · rcases List.mem_cons.mp (ih h) with rfl | hc
      · exact List.mem_cons_self
      · exact List.mem_cons_of_mem _ (List.mem_cons_of_mem _ hc)
    · rcases List.mem_cons.mp h with rfl | hc
      · exact List.mem_cons_self
      · exact List.mem_cons_of_mem _ (ih hc)

end Repetitions

namespace Path

variable {p q r : Path} {ps qs : List Path}

theorem same_iff : p.same q = true ↔ p.components = q.components := decide_eq_true_iff

/-- **The paths include one that is the same** as `p`. -/
def Among (p : Path) (ps : List Path) : Prop := ∃ q ∈ ps, q.same p = true

theorem among_of_mem (h : p ∈ ps) : p.Among ps := ⟨p, h, same_iff.mpr rfl⟩

theorem not_among_nil (p : Path) : ¬ p.Among [] := by simp [Among]

theorem among_cons : p.Among (q :: ps) ↔ q.same p = true ∨ p.Among ps := by
  simp [Among]

theorem among_append : p.Among (ps ++ qs) ↔ p.Among ps ∨ p.Among qs := by
  simp only [Among, List.mem_append, or_and_right, exists_or]

/-- Paths that are the same are among the same paths. -/
theorem among_congr (h : p.same q = true) : p.Among ps ↔ q.Among ps := by
  simp only [Among, same_iff] at h ⊢
  rw [h]

/-- The erasure of repetitions leaves one of them. -/
theorem among_eraseRepsBy : ∀ {ps : List Path}, p.Among (ps.eraseRepsBy same) ↔ p.Among ps
  | [] => Iff.rfl
  | [a] => Iff.rfl
  | a :: b :: as => by
    rw [eraseRepsBy_cons]
    split_ifs with hab
    · have hsame : a.same p = true ↔ b.same p = true := by
        rw [same_iff, same_iff, same_iff.mp hab]
      rw [among_eraseRepsBy, among_cons, among_cons, among_cons, hsame]
      tauto
    · rw [among_cons, among_cons, among_eraseRepsBy]

/-- Paths each of which comes before those after it. No two of them are the same. -/
def Ascending (ps : List Path) : Prop :=
  ps.Pairwise fun p q => before p.components q.components = true

instance (ps : List Path) : Decidable (Ascending ps) :=
  inferInstanceAs (Decidable (List.Pairwise _ _))

theorem before_of_before_of_le (h : before p.components q.components = true)
    (hle : q.le r = true) : before p.components r.components = true := by
  rcases le_iff.mp hle with hqr | hqr
  · exact before_trans h hqr
  · exact hqr ▸ h

theorem not_same_of_before (h : before p.components q.components = true) : p.same q = false := by
  by_contra hne
  rw [same_iff.mp ((Bool.not_eq_false _).mp hne), before_irrefl] at h
  cases h

theorem Ascending.distinct (h : Ascending ps) : ps.Pairwise fun p q => p.same q = false :=
  h.imp not_same_of_before

/-- Sorted paths ascend once repetitions are erased. -/
theorem ascending_eraseRepsBy : ∀ {ps : List Path}, (ps.Pairwise fun p q => p.le q = true) →
    Ascending (ps.eraseRepsBy same)
  | [], _ => List.Pairwise.nil
  | [_], _ => List.pairwise_singleton _ _
  | a :: b :: as, h => by
    obtain ⟨ha, hbs⟩ := List.pairwise_cons.mp h
    rw [eraseRepsBy_cons]
    split_ifs with hab
    · exact ascending_eraseRepsBy (h.sublist ((List.sublist_cons_self b as).cons_cons a))
    · refine List.pairwise_cons.mpr ⟨fun c hc => ?_, ascending_eraseRepsBy hbs⟩
      have hbefore : before a.components b.components = true :=
        (le_iff.mp (ha b List.mem_cons_self)).resolve_right fun heq => hab (same_iff.mpr heq)
      rcases List.mem_cons.mp (mem_of_mem_eraseRepsBy hc) with rfl | hc
      · exact hbefore
      · exact before_of_before_of_le hbefore ((List.pairwise_cons.mp hbs).1 c hc)

/-- Paths that ascend have no repetitions. -/
theorem eraseRepsBy_of_ascending (h : Ascending ps) : ps.eraseRepsBy same = ps := by
  induction h with
  | nil => rfl
  | @cons a ps ha _ ih =>
    cases ps with
    | nil => rfl
    | cons b ps =>
      rw [eraseRepsBy_cons, not_same_of_before (ha b List.mem_cons_self), ih]
      rfl

/-- Paths that are not the same are not spelled in the same way. -/
theorem nodup_spelling (h : ps.Pairwise fun p q => p.same q = false) :
    (ps.map spelling).Nodup := by
  rw [List.Nodup, List.pairwise_map]
  refine h.imp fun {p q} hpq heq => ?_
  obtain ⟨spelling⟩ := p
  obtain rfl : spelling = q.spelling := heq
  cases (same_iff.mpr rfl).symm.trans hpq

end Path

/-! ### Questions and answers -/

namespace Leftovers

open Golden.Path

variable {l : Leftovers} {p : Path} {ps : List Path} {earlier visits : List (List Path)}

theorem ascending_distinct (ps : List Path) : Ascending (distinct ps) := by
  have htrans (p q r : Path) (hpq : p.le q = true) (hqr : q.le r = true) : p.le r = true :=
    Path.le_trans hpq hqr
  have htotal (p q : Path) : (p.le q || q.le p) = true := by
    rw [Bool.or_eq_true]
    exact Path.le_total p q
  exact ascending_eraseRepsBy (List.pairwise_mergeSort htrans htotal ps)

theorem among_distinct : p.Among (distinct ps) ↔ p.Among ps := by
  rw [distinct, among_eraseRepsBy]
  simp only [Among, List.mem_mergeSort]

theorem mem_of_mem_distinct (h : p ∈ distinct ps) : p ∈ ps := by
  refine (List.mergeSort_perm ps Path.le).mem_iff.mp ?_
  rw [distinct] at h
  cases hps : ps.mergeSort Path.le with
  | nil =>
    rw [hps] at h
    cases h
  | cons a as =>
    rw [hps] at h
    exact mem_of_mem_eraseRepsBy h

/-- **What is known** are the paths that were seen. -/
def Knows (l : Leftovers) (earlier : List (List Path)) : Prop :=
  ∀ p, l.isKnown p = true ↔ p.Among earlier.flatten

/-- **A report of what is new**: among the paths that are there now, those that were not there
earlier, in ascending order and each of them once. -/
structure IsReport (earlier : List (List Path)) (now found : List Path) : Prop where
  ascending : Ascending found
  present : ∀ p ∈ found, p ∈ now
  exact : ∀ p : Path, p.Among found ↔ p.Among now ∧ ¬ p.Among earlier.flatten

theorem isKnown_iff : l.isKnown p = true ↔ p.Among l.known := List.any_eq_true

/-- At first, what is there is known. -/
theorem knows_start (first : List Path) : (start first).Knows [first] := fun p => by
  rw [isKnown_iff, List.flatten_singleton]
  exact among_distinct

theorem among_found : p.Among (l.detect ps).1 ↔ p.Among ps ∧ ¬ l.isKnown p = true := by
  have hdistinct : p.Among (distinct ps) ↔ p.Among ps := among_distinct
  rw [← hdistinct]
  simp only [detect, Among, List.mem_filter, Bool.not_eq_true']
  constructor
  · rintro ⟨q, ⟨hq, hknown⟩, hs⟩
    refine ⟨⟨q, hq, hs⟩, ?_⟩
    rw [isKnown_iff, ← among_congr hs, ← isKnown_iff, hknown]
    exact Bool.false_ne_true
  · rintro ⟨⟨q, hq, hs⟩, hknown⟩
    refine ⟨q, ⟨hq, ?_⟩, hs⟩
    rwa [isKnown_iff, ← among_congr hs, ← isKnown_iff, Bool.not_eq_true] at hknown

/-- **An answer** tells what is new. -/
theorem isReport_detect (h : l.Knows earlier) (now : List Path) :
    IsReport earlier now (l.detect now).1 where
  ascending := (ascending_distinct now).filter _
  present p hp := mem_of_mem_distinct (List.mem_filter.mp hp).1
  exact p := by rw [among_found, h p]

/-- **After a question, what is there is known** besides what was known before. -/
theorem knows_detect (h : l.Knows earlier) (now : List Path) :
    (l.detect now).2.Knows (earlier ++ [now]) := fun p => by
  have hsplit : p.Among (l.detect now).2.known ↔ p.Among l.known ∨ p.Among (l.detect now).1 :=
    among_append
  rw [isKnown_iff, hsplit, among_found, ← isKnown_iff, h p, List.flatten_append, among_append,
    List.flatten_singleton]
  tauto

/-- What is told when the paths at each visit are there at the time of a question. -/
def reports (l : Leftovers) : List (List Path) → List (List Path)
  | [] => []
  | now :: visits => (l.detect now).1 :: (l.detect now).2.reports visits

/-- What is known after all questions. -/
def after (l : Leftovers) (visits : List (List Path)) : Leftovers :=
  visits.foldl (fun l now => (l.detect now).2) l

theorem length_reports : (l.reports visits).length = visits.length := by
  induction visits generalizing l with
  | nil => rfl
  | cons now visits ih => rw [reports, List.length_cons, List.length_cons, ih]

theorem reports_append (l : Leftovers) (visits more : List (List Path)) :
    l.reports (visits ++ more) = l.reports visits ++ (l.after visits).reports more := by
  induction visits generalizing l with
  | nil => rfl
  | cons now visits ih => exact congrArg ((l.detect now).1 :: ·) (ih _)

theorem after_append (l : Leftovers) (visits more : List (List Path)) :
    l.after (visits ++ more) = (l.after visits).after more := List.foldl_append

theorem knows_after (h : l.Knows earlier) (visits : List (List Path)) :
    (l.after visits).Knows (earlier ++ visits) := by
  induction visits generalizing l earlier with
  | nil => rwa [List.append_nil]
  | cons now visits ih =>
    rw [List.append_cons]
    exact ih (knows_detect h now)

/-- Each answer tells what is new since all questions before. -/
theorem isReport_getElem (h : l.Knows earlier) (k : ℕ) (hk : k < visits.length) :
    IsReport (earlier ++ visits.take k) visits[k]
      ((l.reports visits).get ⟨k, length_reports.symm ▸ hk⟩) := by
  induction visits generalizing l earlier k with
  | nil => cases hk
  | cons now visits ih =>
    cases k with
    | zero =>
      rw [List.take_zero, List.append_nil]
      exact isReport_detect h now
    | succ k =>
      rw [List.take_succ_cons, List.append_cons]
      exact ih (knows_detect h now) k (Nat.lt_of_succ_lt_succ hk)

/-- All answers together tell what was seen and not known. -/
theorem among_reports (h : l.Knows earlier) (p : Path) : p.Among (l.reports visits).flatten ↔
    p.Among visits.flatten ∧ ¬ p.Among earlier.flatten := by
  induction visits generalizing l earlier with
  | nil => simp [reports, not_among_nil]
  | cons now visits ih =>
    rw [reports, List.flatten_cons, among_append, (isReport_detect h now).exact p,
      ih (knows_detect h now), List.flatten_append, among_append, List.flatten_singleton,
      List.flatten_cons, among_append]
    tauto

theorem distinct_reports (h : l.Knows earlier) (visits : List (List Path)) :
    (l.reports visits).flatten.Pairwise fun p q => p.same q = false := by
  induction visits generalizing l earlier with
  | nil => exact List.Pairwise.nil
  | cons now visits ih =>
    rw [reports, List.flatten_cons, List.pairwise_append]
    have hreport := isReport_detect h now
    refine ⟨hreport.ascending.distinct, ih (knows_detect h now), fun p hp q hq => ?_⟩
    -- a path that is told later was not there now
    have hlater := ((among_reports (knows_detect h now) q).mp (among_of_mem hq)).2
    rw [List.flatten_append, among_append, List.flatten_singleton] at hlater
    exact Bool.eq_false_iff.mpr fun hs => hlater (.inr ⟨p, hreport.present p hp, hs⟩)

/-- **Leftovers are counted once.** Each report tells what is there at its visit and was there
neither at first nor at a visit before. No path is reported twice, and all reports together tell
what was there at some visit and not at first. -/
structure CountsOnce (first : List Path) (visits reports : List (List Path)) : Prop where
  length : reports.length = visits.length
  each : ∀ k (hk : k < visits.length),
    IsReport (first :: visits.take k) visits[k] (reports.get ⟨k, length.symm ▸ hk⟩)
  once : reports.flatten.Pairwise fun p q => p.same q = false
  all : ∀ p : Path, p.Among reports.flatten ↔ p.Among visits.flatten ∧ ¬ p.Among first

theorem countsOnce_reports (first : List Path) (visits : List (List Path)) :
    CountsOnce first visits ((start first).reports visits) where
  length := length_reports
  each := isReport_getElem (knows_start first)
  once := distinct_reports (knows_start first) visits
  all p := by rw [among_reports (knows_start first), List.flatten_singleton]

theorem distinct_of_ascending (h : Ascending ps) : distinct ps = ps := by
  have hsorted := List.mergeSort_of_pairwise (h.imp fun hpq => le_iff.mpr (.inl hpq))
  rw [distinct, hsorted, eraseRepsBy_of_ascending h]

/-- A path that is deleted and created again is reported the first time only, and one that was there
at first is never reported. -/
example : (start [⟨"t/old"⟩]).reports
    [[⟨"t/a"⟩, ⟨"t/b"⟩, ⟨"t/old"⟩], [], [⟨"t/a"⟩, ⟨"t/c"⟩, ⟨"t/old"⟩]] =
    [[⟨"t/a"⟩, ⟨"t/b"⟩], [], [⟨"t/c"⟩]] := by
  simp (disch := decide +kernel) only [reports, start, detect, distinct_of_ascending]
  decide +kernel

end Leftovers

/-! ### Units and what is known -/

/-- **Units have no access to what is known** of leftovers, nor has the search for them. -/
def Loader.Unaware {σ : Type} (l : Loader (Watched σ)) : Prop :=
  ∀ known, l.Maintains fun s => s.leftovers = known

variable {σ ω : Type} [FileSystem σ]

namespace Script

/-- What comes of a script that has been launched changes nothing more. -/
theorem maintains_sequel {τ : Type} {P : τ → Prop} (source : Path) (c : Context)
    {ended : Except String Finished × τ} (h : P ended.2) :
    (sequel source c ended).Maintains P := by
  have hcheck (result : Except Signal Unit) :
      (Behaviour.check result .done : Behaviour τ).Maintains P := by
    cases result <;> trivial
  rcases ended with ⟨reason | finished, host⟩
  · exact ⟨h, trivial⟩
  · refine ⟨h, fun failed => ?_⟩
    cases failed with
    | some reason => trivial
    | none =>
      dsimp only
      split_ifs <;> exact hcheck _

omit [FileSystem σ] in
/-- A script leaves what is known alone, whatever it does to the files. -/
theorem leftovers_launched (l : Launcher σ) (interpreter : List String) (source : Path)
    (c : Context) (s : Watched σ) :
    (launched (Watched.launcher l) interpreter source c s).2.leftovers = s.leftovers := by
  unfold launched
  dsimp only
  split_ifs <;> rfl

/-- **Scripts have no access to what is known.** -/
theorem unaware_loader (l : Launcher σ) (interpreter : List String) (extension : String) :
    (loader (Watched.launcher l) interpreter extension).Unaware := by
  intro known
  constructor
  · intro u s h
    simp only [loader]
    split_ifs <;> exact h
  · intro u s t ht c
    simp only [loader] at ht
    split_ifs at ht
    cases ht
    exact fun s h => maintains_sequel _ c ((leftovers_launched l interpreter _ c s).trans h)

end Script

namespace Runner

/-- A new expected output leaves what is known alone. -/
theorem leftovers_stored (u : UnitId) (output : Bytes) (s : Watched σ) :
    (stored u output s).2.leftovers = s.leftovers := by
  unfold stored
  cases u.goldenPath.parent? with
  | none => rfl
  | some directory =>
    dsimp only
    have hmade : (FileSystem.makeDirectories s directory).2.leftovers = s.leftovers := rfl
    generalize FileSystem.makeDirectories s directory = made at hmade ⊢
    rcases made with ⟨e | _, after⟩ <;> exact hmade

variable [Sink ω] {r : Runner (Watched σ)} {present : σ → List Path} {u : UnitId}
  {w : World (Watched σ) ω}

/-- **What is known is the same when the outcome of a unit has been found** as it was before. -/
theorem leftovers_classify (hl : r.loader.Unaware) :
    (r.classify u (ready u w)).2.host.leftovers = w.host.leftovers := by
  have hready : (ready u w).host.leftovers = w.host.leftovers := by rw [host_ready]
  have hended : (r.execute u (ready u w)).2.host.leftovers = w.host.leftovers :=
    has_execute (hl _) hready
  rcases host_classify r u (ready u w) with h | ⟨output, -, h⟩
  · rw [h, hended]
  · rw [h, leftovers_stored, hended]

/-- The paths that are there when the outcome of the unit has been found. -/
def remaining (r : Runner (Watched σ)) (present : σ → List Path) (u : UnitId)
    (w : World (Watched σ) ω) : List Path := present (r.classify u (ready u w)).2.host.host

/-- What a run asks about: what is there after the unit, unless the run is interrupted. -/
def visit (r : Runner (Watched σ)) (present : σ → List Path) (u : UnitId)
    (w : World (Watched σ) ω) : List (List Path) :=
  if (r.run u w).1 = .error .interrupted then [] else [r.remaining present u w]

/-- **What is known after a run**. -/
theorem leftovers_run (hd : r.detector = some (Watched.detector present)) (hl : r.loader.Unaware) :
    (r.run u w).2.host.leftovers = w.host.leftovers.after (r.visit present u w) := by
  rw [host_run, visit]
  split_ifs with hi
  · exact leftovers_classify hl
  · have hsearched (s : Watched σ) :
        (r.searched s).leftovers = (s.leftovers.detect (present s.host)).2 := by
      rw [searched, hd]
      rfl
    rw [hsearched, leftovers_classify hl]
    rfl

/-- **What a run reports**: what is new since the last time the detector was asked. -/
theorem reported_eq (hd : r.detector = some (Watched.detector present)) (hl : r.loader.Unaware) :
    r.reported u w =
      (w.host.leftovers.reports (r.visit present u w)).flatten.map Path.spelling := by
  rw [visit]
  split_ifs with hi
  · rw [reported, run_interrupted_iff.mp hi]
    rfl
  · have hleftovers (s : Watched σ) : r.leftovers s =
        (s.leftovers.detect (present s.host)).1.map Path.spelling := by
      rw [leftovers, hd]
      rfl
    rw [reported_of_ne (mt run_interrupted_iff.mpr hi), hleftovers, leftovers_classify hl]
    simp [Leftovers.reports, remaining]

/-- **A run reports paths**: it keeps them in mind, and if there are any, it tells the operator how
many. -/
structure Reports (r : Runner (Watched σ)) (u : UnitId) (w : World (Watched σ) ω)
    (found : List Path) : Prop where
  leaked : (r.run u w).2.leaked = w.leaked ++ found.map Path.spelling
  silent : found = [] → (r.run u w).2.stream = (r.classify u (ready u w)).2.stream
  warning : found ≠ [] → (r.classify u (ready u w)).2.stream.write
    (utf8 (r.settings.painter.paint .notice ("Warning: test created " ++ toString found.length ++
      " uncollectable object(s).") ++ "\n")) = (.ok (), (r.run u w).2.stream)

/-- A run that is not interrupted reports what is new. -/
theorem reports_run (hd : r.detector = some (Watched.detector present)) (hl : r.loader.Unaware)
    (hwarned : r.warned u w = .ok ()) (hi : (r.run u w).1 ≠ .error .interrupted) :
    r.Reports u w (w.host.leftovers.detect (r.remaining present u w)).1 := by
  set found := (w.host.leftovers.detect (r.remaining present u w)).1
  have hreported : r.reported u w = found.map Path.spelling := by
    rw [reported_eq hd hl, visit, if_neg hi]
    simp [Leftovers.reports, found]
  have hclass := mt run_interrupted_iff.mpr hi
  have hstream : (r.run u w).2.stream =
      (warn r.settings (r.reported u w) (r.classify u (ready u w)).2).2.stream := by
    rw [stream_run, scanned_of_ne hclass, reported_of_ne hclass]
    exact (r.scan_warns _).2
  rw [warned] at hwarned
  constructor
  · rw [(tidied_of_scanned (scanned_iff.mpr hwarned)).recalled, hreported]
  · intro hnone
    rw [hstream, hreported, hnone]
    rfl
  · intro hsome
    have hne : r.reported u w ≠ [] := by simpa [hreported] using hsome
    rw [warn, if_pos hne] at hwarned hstream
    rw [hreported, List.length_map] at hwarned hstream
    refine Prod.ext ?_ hstream.symm
    rw [say, Run.mapError_apply, Run.write_apply] at hwarned
    dsimp only at hwarned
    cases htold : ((r.classify u (ready u w)).2.stream.write _).1 with
    | error reason =>
      rw [htold] at hwarned
      cases hwarned
    | ok _ => rfl

/-- An interrupted run reports nothing, and nothing becomes known. -/
theorem leaked_of_interrupted (hi : (r.run u w).1 = .error .interrupted) :
    (r.run u w).2.leaked = w.leaked ∧
      (r.run u w).2.stream = (r.classify u (ready u w)).2.stream := by
  have hclass := run_interrupted_iff.mp hi
  have hscanned : r.Scanned u w := fun hne => absurd hclass hne
  rw [(tidied_of_scanned hscanned).recalled, stream_run, scanned_of_interrupted hclass, reported,
    hclass, List.append_nil]
  exact ⟨rfl, rfl⟩

/-- What is known and what is kept in mind are the same. -/
def Remembers (w v : World (Watched σ) ω) : Prop :=
  v.host.leftovers = w.host.leftovers ∧ v.leaked = w.leaked

/-- **The past of a runner that watches a directory.** It began to watch when the paths `first` were
there. The visits are the paths that were there after each of its runs, those left out that were
interrupted. The operator could be told of all that was reported. Between the runs anything may have
changed but what is known and what is kept in mind. -/
inductive Watches (r : Runner (Watched σ)) (present : σ → List Path) (first : List Path) :
    List (List Path) → World (Watched σ) ω → Prop where
  | start {directory : Path} {w v : World (Watched σ) ω} : present w.host.host = first →
    w.leaked = [] → Remembers ((Watched.watch present directory : Run _ _ RunError _) w).2 v →
    r.Watches present first [] v
  | run {visits : List (List Path)} {u : UnitId} {w v : World (Watched σ) ω} :
    r.Watches present first visits w → r.warned u w = .ok () → Remembers (r.run u w).2 v →
    r.Watches present first (visits ++ r.visit present u w) v

namespace Watches

variable {first : List Path} {visits : List (List Path)}

/-- **What is known** after many runs was there at first, or was seen at a visit. -/
theorem known (hd : r.detector = some (Watched.detector present)) (hl : r.loader.Unaware)
    (h : r.Watches present first visits w) :
    w.host.leftovers = (Leftovers.start first).after visits := by
  induction h with
  | start hfirst _ hv =>
    rw [hv.1, ← hfirst]
    rfl
  | run _ _ hv ih => rw [hv.1, leftovers_run hd hl, ih, Leftovers.after_append]

/-- **What is kept in mind** after many runs are all reports, one after the other. -/
theorem leaked (hd : r.detector = some (Watched.detector present)) (hl : r.loader.Unaware)
    (h : r.Watches present first visits w) :
    w.leaked = ((Leftovers.start first).reports visits).flatten.map Path.spelling := by
  induction h with
  | start _ hnone hv => exact hv.2.trans hnone
  | run hpast hwarned hv ih =>
    rw [hv.2, (tidied_of_scanned (scanned_iff.mpr hwarned)).recalled, reported_eq hd hl, ih,
      hpast.known hd hl, Leftovers.reports_append, List.flatten_append, List.map_append]

end Watches

/-- **Leftovers are counted once**, whatever paths are there at first and at each visit. A runner
with this detector, of units that have no access to what is known, keeps all reports in mind, one
after the other, as long as the operator can be told of them. A run that is interrupted reports
nothing and keeps nothing in mind. Nothing becomes known by it either, so that the next run that is
not interrupted reports what the interrupted one has left, if it is still there. -/
theorem leftovers_once (first : List Path) (visits : List (List Path)) :
    (Leftovers.CountsOnce first visits ((Leftovers.start first).reports visits)) ∧
      ∀ (r : Runner (Watched σ)) (present : σ → List Path) (w : World (Watched σ) ω),
        r.detector = some (Watched.detector present) → r.loader.Unaware →
        r.Watches present first visits w →
        w.leaked = ((Leftovers.start first).reports visits).flatten.map Path.spelling ∧
        w.leaked.Nodup ∧
        ∀ u, r.warned u w = .ok () →
          ((r.run u w).1 = .error .interrupted → Remembers w (r.run u w).2 ∧
            (r.run u w).2.stream = (r.classify u (ready u w)).2.stream) ∧
          ((r.run u w).1 ≠ .error .interrupted → ∃ found,
            Leftovers.IsReport (first :: visits) (r.remaining present u w) found ∧
            r.Reports u w found) := by
  have hcounts := Leftovers.countsOnce_reports first visits
  refine ⟨hcounts, fun r present w hd hl hpast => ⟨hpast.leaked hd hl, ?_, fun u hwarned => ?_⟩⟩
  · rw [hpast.leaked hd hl]
    exact Path.nodup_spelling hcounts.once
  · refine ⟨fun hi => ?_, fun hi => ⟨_, ?_, reports_run hd hl hwarned hi⟩⟩
    · obtain ⟨hleaked, hstream⟩ := leaked_of_interrupted hi
      refine ⟨⟨?_, hleaked⟩, hstream⟩
      rw [leftovers_run hd hl, visit, if_pos hi]
      rfl
    · rw [hpast.known hd hl]
      exact Leftovers.isReport_detect (Leftovers.knows_after (Leftovers.knows_start first) visits) _

/-! ### An interrupted run that leaves something behind -/

/-- A test that is interrupted leaves a file behind, and any other test another one. -/
def litterLauncher : Script.Launcher Shelf where
  launch c host :=
    if c.arguments = ["test_a.sh"] then
      (.ok ⟨.killed 2, [], []⟩, ⟨(⟨"scratch/b"⟩, []) :: host.files⟩)
    else (.ok ⟨.exited 77, [], []⟩, ⟨(⟨"scratch/a"⟩, []) :: host.files⟩)

/-- The files in a directory. -/
def litter (s : Shelf) : List Path :=
  (s.files.map Prod.fst).filter fun p => p.parent?.any (·.same ⟨"scratch"⟩)

/-- A runner of these tests that watches this directory. -/
def litterRunner : Runner (Watched Shelf) where
  loader := Script.loader (Watched.launcher litterLauncher) ["sh"] "sh"
  settings := default
  detector := some (Watched.detector litter)

/-- Two tests, and a directory in which there is a file when it begins to be watched. -/
def litterWorld : World (Watched Shelf) Memory :=
  ((Watched.watch litter ⟨"scratch"⟩ : Run _ _ RunError Unit) (.start (.ofHost
    ⟨[(⟨"t/test_a.sh"⟩, []), (⟨"t/test_b.sh"⟩, []), (⟨"scratch/c"⟩, [])]⟩) .empty)).2

/-- The run after the interrupted one reports what both have left. -/
theorem leftovers_once_litterRunner :
    let interrupted := litterRunner.run ⟨"test_a", ⟨"t"⟩⟩ litterWorld
    interrupted.1 = .error .interrupted ∧ interrupted.2.leaked = [] ∧
      (litterRunner.run ⟨"test_b", ⟨"t"⟩⟩ interrupted.2).2.leaked =
        ["scratch/a", "scratch/b"] := by
  intro interrupted
  have hi : interrupted.1 = .error .interrupted := by decide +kernel
  have hunaware : litterRunner.loader.Unaware := Script.unaware_loader litterLauncher _ _
  have hwarned (u : UnitId) (w : World (Watched Shelf) Memory) : litterRunner.warned u w = .ok () :=
    scanned_iff.mp fun _ => (litterRunner.scan_spec _).2.2 Memory.reliable
  have hstart : litterRunner.Watches litter [⟨"scratch/c"⟩] [] litterWorld :=
    .start (by decide +kernel) rfl ⟨rfl, rfl⟩
  have hfirst : litterRunner.Watches litter [⟨"scratch/c"⟩] [] interrupted.2 := by
    have hvisit : litterRunner.visit litter ⟨"test_a", ⟨"t"⟩⟩ litterWorld = [] := if_pos hi
    have hrun := Watches.run hstart (hwarned ⟨"test_a", ⟨"t"⟩⟩ _) ⟨rfl, rfl⟩
    rwa [hvisit] at hrun
  have hnext : litterRunner.Watches litter [⟨"scratch/c"⟩]
      [[⟨"scratch/a"⟩, ⟨"scratch/b"⟩, ⟨"scratch/c"⟩]]
      (litterRunner.run ⟨"test_b", ⟨"t"⟩⟩ interrupted.2).2 := by
    have hvisit : litterRunner.visit litter ⟨"test_b", ⟨"t"⟩⟩ interrupted.2 =
        [[⟨"scratch/a"⟩, ⟨"scratch/b"⟩, ⟨"scratch/c"⟩]] := by
      rw [visit, if_neg]
      · decide +kernel
      · rw [run_interrupted_iff]
        decide +kernel
    have hrun := Watches.run hfirst (hwarned ⟨"test_b", ⟨"t"⟩⟩ _) ⟨rfl, rfl⟩
    rwa [hvisit] at hrun
  have hleaked {visits : List (List Path)} {w : World (Watched Shelf) Memory}
      (h : litterRunner.Watches litter [⟨"scratch/c"⟩] visits w) :=
    ((leftovers_once _ _).2 litterRunner litter w rfl hunaware h).1
  refine ⟨hi, hleaked hfirst, (hleaked hnext).trans ?_⟩
  simp (disch := decide +kernel) only [Leftovers.reports, Leftovers.start, Leftovers.detect,
    Leftovers.distinct_of_ascending]
  decide +kernel

end Runner

end Golden
