import Golden.Proofs.Path
import Golden.Watched
import Mathlib.Logic.Relation

/-! # Files

A state around a run may hold more than files. An equivalence of states is a congruence if the files
in equivalent states look the same, and go on to do so whatever is written
(`FileSystem.Congruence`). Equality is one; another leaves out what a detector of leftovers knows
(`Watched.congruence`).

In a faithful file system, what is written is read back, and other files stay as they are
(`FileSystem.Faithful`). In a lasting one, what has gone well once goes well again: what is written
is read back and is there from then on, and the file can be written again, as long as all that
happens are other writes and new directories (`FileSystem.Lasting`). A directory may list what is in
it (`FileSystem.Listed`).

Files on a shelf are a simple file system that is all of this (`Shelf.faithful`, `Shelf.listed`,
`Shelf.lasting`). -/

namespace Golden

variable {σ : Type}

/-- **The same files** lie in equivalent states, and the same happens to them. -/
structure FileSystem.Congruence [FileSystem σ] (E : σ → σ → Prop) : Prop where
  equivalence : Equivalence E
  list : ∀ {s t}, E s t → ∀ p, list s p = list t p
  has : ∀ {s t}, E s t → ∀ p, has s p = has t p
  isDirectory : ∀ {s t}, E s t → ∀ p, isDirectory s p = isDirectory t p
  read : ∀ {s t}, E s t → ∀ p, read s p = read t p
  write : ∀ {s t}, E s t → ∀ p bs,
    (write s p bs).1 = (write t p bs).1 ∧ E (write s p bs).2 (write t p bs).2
  makeDirectories : ∀ {s t}, E s t → ∀ p,
    (makeDirectories s p).1 = (makeDirectories t p).1 ∧
      E (makeDirectories s p).2 (makeDirectories t p).2

theorem FileSystem.congruence_eq [FileSystem σ] : Congruence (σ := σ) Eq where
  equivalence := ⟨Eq.refl, Eq.symm, Eq.trans⟩
  list h _ := h ▸ rfl
  has h _ := h ▸ rfl
  isDirectory h _ := h ▸ rfl
  read h _ := h ▸ rfl
  write h _ _ := h ▸ ⟨rfl, rfl⟩
  makeDirectories h _ := h ▸ ⟨rfl, rfl⟩

/-! ### Detectors -/

/-- The detector leaves the files as they are. -/
def LeakDetector.Spares (d : LeakDetector σ) (E : σ → σ → Prop) : Prop :=
  ∀ s, E s (d.detect s).2

namespace Watched

/-- What is known of the leftovers does not matter for the files. -/
theorem congruence [FileSystem σ] :
    FileSystem.Congruence fun s t : Watched σ => s.host = t.host where
  equivalence := ⟨fun _ => rfl, Eq.symm, Eq.trans⟩
  list h p := congrArg (fun host : σ => FileSystem.list host p) h
  has h p := congrArg (fun host : σ => FileSystem.has host p) h
  isDirectory h p := congrArg (fun host : σ => FileSystem.isDirectory host p) h
  read h p := congrArg (fun host : σ => FileSystem.read host p) h
  write h p bs :=
    ⟨congrArg (fun host : σ => (FileSystem.write host p bs).1) h,
      congrArg (fun host : σ => (FileSystem.write host p bs).2) h⟩
  makeDirectories h p :=
    ⟨congrArg (fun host : σ => (FileSystem.makeDirectories host p).1) h,
      congrArg (fun host : σ => (FileSystem.makeDirectories host p).2) h⟩

/-- The detector of a watched directory changes nothing but what is known. -/
theorem spares_detector (present : σ → List Path) :
    (detector present).Spares fun s t : Watched σ => s.host = t.host := fun _ => rfl

end Watched

/-! ### Faithful file systems -/

/-- **A faithful file system** reads back what was written. Other files stay as they are, unless a
path leads to them through the file or the directory that is made, and where nothing is, nothing is
found. -/
structure FileSystem.Faithful (σ : Type) [FileSystem σ] : Prop where
  absent : ∀ (s : σ) p, has s p = false → ∃ r, read s p = .error (.notFound r)
  written : ∀ (s : σ) p bs, (write s p bs).1 = .ok () → read (write s p bs).2 p = .ok bs
  others : ∀ (s : σ) p bs, (write s p bs).1 = .ok () →
    ∀ q, Path.Apart q p → read (write s p bs).2 q = read s q
  directories : ∀ (s : σ) d, (makeDirectories s d).1 = .ok () →
    ∀ q, ¬ Path.components q <+: d.components → read (makeDirectories s d).2 q = read s q

/-- **A directory lists what is in it**: which texts are entries is for the file system to say. -/
def FileSystem.Listed [FileSystem σ] (IsEntry : String → Prop) (s : σ) : Prop :=
  ∀ d names, list s d = .ok names → ∀ e, e ∈ names ↔ IsEntry e ∧ has s (d.join e) = true

/-- The files have the same contents. -/
def FileSystem.SameContents [FileSystem σ] (s t : σ) : Prop := ∀ p, read s p = read t p

theorem FileSystem.SameContents.trans [FileSystem σ] {s t v : σ} (h : SameContents s t)
    (h' : SameContents t v) : SameContents s v :=
  fun p => (h p).trans (h' p)

/-! ### Lasting file systems -/

namespace FileSystem

variable [FileSystem σ]

/-- What is in a file, if it can be read. -/
def contents (s : σ) (p : Path) : Option Bytes := (read s p).toOption

/-- A write, or the creation of a directory, that goes well. -/
inductive Change : σ → σ → Prop where
  | write {s : σ} {p bs} : (write s p bs).1 = .ok () → Change s (write s p bs).2
  | makeDirectories {s : σ} {d} : (makeDirectories s d).1 = .ok () → Change s (makeDirectories s d).2

/-- What the files may be later, if all that happens goes well. -/
def Later : σ → σ → Prop := Relation.ReflTransGen Change

/-- **A lasting file system**: a write that goes well is read back, the file is there, and it can be
written again at any time, and a directory that has been created can be created again. Other files
stay as they are, and what is neither within nor around a file is there after a write if it was
there before. The creation of a directory puts nothing in place but directories. -/
structure Lasting (σ : Type) [FileSystem σ] : Prop where
  written : ∀ (s : σ) p bs, (write s p bs).1 = .ok () →
    ∀ q, p.same q → read (write s p bs).2 q = .ok bs
  shown : ∀ (s : σ) p bs, (write s p bs).1 = .ok () → ∀ q, p.same q → has (write s p bs).2 q
  rewritable : ∀ (s : σ) p bs, (write s p bs).1 = .ok () → ∀ t, Later (write s p bs).2 t →
    ∀ q, p.same q → ∀ bs', (write t q bs').1 = .ok ()
  remakable : ∀ (s : σ) d, (makeDirectories s d).1 = .ok () →
    ∀ t, Later (makeDirectories s d).2 t → ∀ e, d.same e → (makeDirectories t e).1 = .ok ()
  others : ∀ (s : σ) p bs, (write s p bs).1 = .ok () →
    ∀ q, ¬ p.same q → contents (write s p bs).2 q = contents s q
  apart : ∀ (s : σ) p bs, (write s p bs).1 = .ok () →
    ∀ q, q.Apart p → has (write s p bs).2 q = has s q
  files : ∀ (s : σ) d, (makeDirectories s d).1 = .ok () →
    ∀ q, contents (makeDirectories s d).2 q = contents s q
  directories : ∀ (s : σ) d, (makeDirectories s d).1 = .ok () →
    ∀ q : Path, ¬ q.components <+: d.components → has (makeDirectories s d).2 q = has s q

end FileSystem

/-! ### Shelves -/

/-- Files in memory, the last to be written first. There are no directories but those in which a
file lies. -/
structure Shelf where
  files : List (Path × Bytes)

namespace Shelf

/-- There are no files. -/
def empty : Shelf := ⟨[]⟩

/-- What is in a file, if there is one. -/
def contents? (s : Shelf) (p : Path) : Option Bytes := (s.files.find? (·.1.same p)).map Prod.snd

instance : FileSystem Shelf where
  list s p := .ok ((s.files.filter fun f => f.1.parent?.any (·.same p)).filterMap (·.1.fileName?))
  has s p := (s.contents? p).isSome
  isDirectory s p := s.files.any fun f => f.1.parent?.any fun d =>
    p.components.isPrefixOf d.components
  read s p := (s.contents? p).elim (.error (.notFound p)) .ok
  write s p bs := (.ok (), ⟨(p, bs) :: s.files⟩)
  makeDirectories s _ := (.ok (), s)

theorem contents_cons (s : Shelf) (p : Path) (bs : Bytes) (q : Path) :
    contents? ⟨(p, bs) :: s.files⟩ q = if p.same q then some bs else s.contents? q := by
  by_cases h : p.same q = true <;> simp [contents?, h]

theorem faithful : FileSystem.Faithful Shelf where
  absent s p h := by
    have hnone : s.contents? p = none :=
      Option.isNone_iff_eq_none.mp (Option.isSome_eq_false_iff.mp h)
    refine ⟨p, ?_⟩
    change (s.contents? p).elim _ _ = _
    rw [hnone]
    rfl
  written s p bs _ := by
    change (contents? ⟨(p, bs) :: s.files⟩ p).elim _ _ = _
    rw [contents_cons, if_pos (by simp [Path.same])]
    rfl
  others s p bs _ q h := by
    change (contents? ⟨(p, bs) :: s.files⟩ q).elim _ _ = _
    rw [contents_cons, if_neg (by simp [h.symm.not_same])]
    rfl
  directories _ _ _ _ _ := rfl

theorem has_iff {s : Shelf} {p : Path} : FileSystem.has s p = true ↔ ∃ f ∈ s.files, f.1.same p := by
  change (s.contents? p).isSome = true ↔ _
  simp [contents?]

/-- Files on a shelf are listed in the directory in which they lie. -/
theorem listed (s : Shelf) : FileSystem.Listed Path.IsName s := by
  intro d names h e
  obtain rfl := Except.ok.inj h
  rw [has_iff]
  constructor
  · intro he
    obtain ⟨f, hf, hname⟩ := List.mem_filterMap.mp he
    obtain ⟨hfile, hparent⟩ := List.mem_filter.mp hf
    obtain ⟨hisName, hsame⟩ := Path.components_eq_join_iff.mp ⟨hparent, hname⟩
    exact ⟨hisName, f, hfile, hsame⟩
  · rintro ⟨hisName, f, hfile, hsame⟩
    obtain ⟨hparent, hname⟩ := Path.components_eq_join_iff.mpr ⟨hisName, hsame⟩
    exact List.mem_filterMap.mpr ⟨f, List.mem_filter.mpr ⟨hfile, hparent⟩, hname⟩

theorem lasting : FileSystem.Lasting Shelf where
  written s p bs _ q h := by
    change (contents? ⟨(p, bs) :: s.files⟩ q).elim _ _ = _
    rw [contents_cons, if_pos h]
    rfl
  shown s p bs _ q h := by
    change (contents? ⟨(p, bs) :: s.files⟩ q).isSome = true
    rw [contents_cons, if_pos h]
    rfl
  rewritable _ _ _ _ _ _ _ _ _ := rfl
  remakable _ _ _ _ _ _ _ := rfl
  others s p bs _ q h := by
    change Except.toOption ((contents? ⟨(p, bs) :: s.files⟩ q).elim _ _) = _
    rw [contents_cons, if_neg h]
    rfl
  apart s p bs _ q h := by
    change (contents? ⟨(p, bs) :: s.files⟩ q).isSome = _
    rw [contents_cons, if_neg (by simp [h.symm.not_same])]
    rfl
  files _ _ _ _ := rfl
  directories _ _ _ _ _ := rfl

end Shelf

end Golden
