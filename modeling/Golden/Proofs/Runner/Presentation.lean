import Golden.Proofs.Paint
import Golden.Proofs.Runner.Ends
import Golden.Proofs.Unit.Paired

/-! # How runs of units are shown

Whether a runner is quiet and whether it paints its reports is a matter of presentation. Two runners
that differ in this only (`Runner.shown`) run a unit in the same way, and what they write is related
by any relation that their manners of presentation respect (`Presents`).

* `World.Abreast`: paired worlds in which no unit captures.
* `Runner.agree_run`: a run of a unit, shown in two manners. -/

namespace Golden

variable {σ ε α β : Type}

/-! ### Manners of presentation -/

/-- Texts of which one may be written where the other one is. -/
def Stream.Interchange (R : Bytes → Bytes → Prop) (a b : String) : Prop :=
  ∀ x x', R x x' → R (x ++ utf8 a) (x' ++ utf8 b)

namespace Stream.Interchange

variable {R : Bytes → Bytes → Prop} {a b a' b' : String}

theorem append (h : Interchange R a b) (h' : Interchange R a' b') :
    Interchange R (a ++ a') (b ++ b') := by
  intro x x' hx
  rw [utf8_append, utf8_append, ← List.append_assoc, ← List.append_assoc]
  exact h' _ _ (h _ _ hx)

theorem refl (hR : Extends R) (a : String) : Interchange R a a := fun x x' hx => hR x x' hx _

/-- Lines that correspond make up texts that do. -/
theorem lines (hR : Extends R) {as bs : List String} (h : List.Forall₂ (Interchange R) as bs) :
    Interchange R (String.join (as.map (· ++ "\n"))) (String.join (bs.map (· ++ "\n"))) := by
  induction h with
  | nil => exact refl hR _
  | cons hab _ ih =>
    rw [List.map_cons, List.map_cons, String.join_cons, String.join_cons]
    exact (hab.append (refl hR "\n")).append ih

end Stream.Interchange

/-- **Two manners of presentation** that a relation between outputs respects: a painted text takes
the place of one painted in the other manner, and if only one of them is quiet, all outputs are
related. -/
structure Presents (R : Bytes → Bytes → Prop) (p p' : Painter) (quiet quiet' : Bool) : Prop where
  extended : Stream.Extends R
  paint : ∀ s text, Stream.Interchange R (p.paint s text) (p'.paint s text)
  quiet : quiet = quiet' ∨ ∀ x x', R x x'

/-- If all outputs are related, any two manners will do. -/
theorem presents_any (p p' : Painter) (quiet quiet' : Bool) :
    Presents (fun _ _ => True) p p' quiet quiet' :=
  ⟨fun _ _ _ _ => trivial, fun _ _ _ _ _ => trivial, Or.inr fun _ _ => trivial⟩

/-- Outputs with a common beginning, which differ in colors only after it. -/
def Tinted (start x x' : Bytes) : Prop :=
  ∃ plain colored, x = start ++ plain ∧ x' = start ++ colored ∧ Paint.Tints plain colored

theorem Tinted.append {start x x' bs bs' : Bytes} (h : Tinted start x x')
    (hbs : Paint.Tints bs bs') : Tinted start (x ++ bs) (x' ++ bs') := by
  obtain ⟨plain, colored, rfl, rfl, h⟩ := h
  exact ⟨_, _, List.append_assoc .., List.append_assoc .., h.append hbs⟩

/-- A plain manner and a colored one. -/
theorem presents_tinted (start : Bytes) (quiet : Bool) :
    Presents (Tinted start) ⟨false⟩ ⟨true⟩ quiet quiet :=
  ⟨fun _ _ h bs => h.append (.refl bs), fun s text _ _ h => h.append (.paint s text), Or.inl rfl⟩

/-! ### Between units -/

/-- **Worlds side by side between two units**: no unit captures. -/
def World.Abreast (R : Bytes → Bytes → Prop) (foreign : Bool) (w w' : World σ Memory) : Prop :=
  w.Paired R foreign w' ∧ w.stream.isCapturing = foreign

theorem World.Abreast.refl {R : Bytes → Bytes → Prop} {w : World σ Memory}
    (h : R w.stream.taken w.stream.taken) : w.Abreast R w.stream.isCapturing w :=
  ⟨⟨w.stream, .refl h, rfl⟩, rfl⟩

section Agreement
variable {R : Bytes → Bytes → Prop} {foreign : Bool}

theorem Run.Mute.agree_abreast {x : Run σ Memory ε α} (hx : Mute x) :
    Run.Agree (World.Abreast R foreign) x x := by
  rintro w w' ⟨h, hw⟩
  obtain ⟨h1, h2⟩ := hx.agree w w' h
  have hsame : (x w).2.stream = w.stream := congrArg (fun r => r.2.stream) (hx w w.stream)
  exact ⟨h1, h2, hsame ▸ hw⟩

/-- An action that writes and returns a value. -/
def Runner.Writes (x : Run σ Memory RunError α) (a : α) : Prop :=
  ∀ w, ∃ stream, stream.isCapturing = w.stream.isCapturing ∧ x w = (.ok a, { w with stream })

namespace Runner

theorem writes_pure (a : α) : Writes (pure a : Run σ Memory RunError α) a :=
  fun w => ⟨w.stream, rfl, rfl⟩

theorem writes_sayText (text : String) :
    Writes (sayText text : Run σ Memory RunError Unit) () := by
  intro w
  refine ⟨_, w.stream.isCapturing_write (utf8 text), ?_⟩
  rw [sayText, Run.mapError_apply, Run.write_apply, Memory.reliable.stream_write]
  rfl

theorem writes_flush : Writes (flush : Run σ Memory RunError Unit) () := by
  intro w
  refine ⟨_, w.stream.isCapturing_flush, ?_⟩
  rw [flush, Run.mapError_apply, Run.flush_apply, Memory.reliable.stream_flush]
  rfl

theorem Writes.bind {x : Run σ Memory RunError α} {a : α} {f : α → Run σ Memory RunError β} {b : β}
    (hx : Writes x a) (hf : Writes (f a) b) : Writes (x >>= f) b := by
  intro w
  obtain ⟨stream, hstream, hrun⟩ := hx w
  obtain ⟨stream', hstream', hrun'⟩ := hf { w with stream }
  refine ⟨stream', hstream'.trans hstream, ?_⟩
  rw [Run.bind_ok (congrArg Prod.fst hrun), hrun, hrun']

/-- If all outputs are related, it does not matter what is written. -/
theorem Writes.agree (hR : ∀ x x', R x x') {x y : Run σ Memory RunError α} {a : α}
    (hx : Writes x a) (hy : Writes y a) : Run.Agree (World.Abreast R foreign) x y := by
  rintro w w' ⟨⟨_, h, rfl⟩, hw⟩
  obtain ⟨stream, hs, hrun⟩ := hx w
  obtain ⟨stream', hs', hrun'⟩ := hy { w with stream := _ }
  rw [hrun, hrun']
  exact ⟨rfl, ⟨stream', .of_isCapturing hR (hs.trans hw)
    (hs'.trans (h.isCapturing.trans hw)), rfl⟩, hs.trans hw⟩

/-- Actions that agree with each other agree between units if they end no capture and begin none. -/
theorem agree_abreast {x y : Run σ Memory ε α} (hxy : Run.Agree (World.Paired R foreign) x y)
    (hx : ∀ w, (x w).2.stream.isCapturing = w.stream.isCapturing) :
    Run.Agree (World.Abreast R foreign) x y := by
  rintro w w' ⟨h, hw⟩
  obtain ⟨h1, h2⟩ := hxy w w' h
  exact ⟨h1, h2, (hx w).trans hw⟩

/-- Texts take the place of each other. -/
theorem agree_sayText {a b : String} (h : Stream.Interchange R a b) :
    Run.Agree (World.Abreast (σ := σ) R foreign) (sayText a) (sayText b) := by
  refine Run.Agree.mapError _ ?_
  rintro w w' ⟨⟨_, hs, rfl⟩, hw⟩
  obtain ⟨h1, h2⟩ := hs.write_abreast hw h
  exact ⟨h1, ⟨_, h2, rfl⟩, (w.stream.isCapturing_write (utf8 a)).trans hw⟩

theorem agree_say (hR : Stream.Extends R) {a b : String} (h : Stream.Interchange R a b) :
    Run.Agree (World.Abreast (σ := σ) R foreign) (say a) (say b) :=
  agree_sayText (h.append (.refl hR "\n"))

theorem agree_flush : Run.Agree (World.Abreast (σ := σ) R foreign) flush flush :=
  agree_abreast (Run.paired_flush.mapError _) fun w => w.stream.isCapturing_flush

/-! ### Execution -/

variable (hR : Stream.Extends R) (r : Runner σ) (u : UnitId)
include hR

/-- **A unit is loaded and run in the same way**, and the same output is captured. -/
theorem agree_execute : Run.Agree (World.Abreast R foreign) (r.execute u) (r.execute u) := by
  refine agree_abreast ?_ fun w => isCapturing_execute
  have hload : Run.Agree (World.Paired R foreign) (r.loadAndRun u) (r.loadAndRun u) := by
    unfold loadAndRun
    split_ifs
    · exact ((Run.paired_write hR _).mapError _).bind fun _ => r.surroundings.paired_loadAndRun hR u
    · exact (Run.Mute.pure ()).agree.bind fun _ => r.surroundings.paired_loadAndRun hR u
  unfold execute
  split_ifs
  · intro w w' h
    obtain ⟨h1, h2, h3⟩ := (World.Paired.respected hR).beginCapture h
    refine Run.bind_agree ⟨congrArg (Except.mapError _) h1, h2⟩ fun _ hbegun => ?_
    have hown : foreign = false := by
      rw [Run.mapError_apply] at hbegun
      cases hb : (Run.beginCapture w).1 with
      | ok _ => exact h3 hb
      | error e =>
        rw [hb] at hbegun
        cases hbegun
    exact (hload.observe.bind fun _ => (Run.paired_finishCapture hown).bind fun _ =>
      (Run.Mute.pure _).agree) _ _ h2
  · exact hload.observe.bind fun _ => (Run.Mute.pure _).agree

omit hR in
/-- The same runner, with another manner of presentation. -/
def shown (r : Runner σ) (quiet : Bool) (painter : Painter) : Runner σ :=
  { r with settings := { r.settings with quiet, painter } }

end Runner
end Agreement

/-! ### Reports -/

section Reports
variable {R : Bytes → Bytes → Prop} {p p' : Painter} {quiet quiet' foreign : Bool}
  (hP : Presents R p p' quiet quiet')
include hP

namespace Presents

theorem hunkLines (a b : List (List Char)) (e : Diff.Edit) :
    List.Forall₂ (Stream.Interchange R) (Diff.hunkLines p a b e) (Diff.hunkLines p' a b e) := by
  unfold Diff.hunkLines
  split_ifs
  · exact .nil
  · refine .cons (.refl hP.extended _) ?_
    rw [List.forall₂_map_left_iff, List.forall₂_map_right_iff, List.forall₂_same]
    rintro (x | ⟨x, y⟩ | y) - <;> exact hP.paint _ _

/-- A report of differences is painted in either manner. -/
theorem diffReport (expected actual : String) :
    Stream.Interchange R (Diff.report p expected actual) (Diff.report p' expected actual) := by
  refine .lines hP.extended ?_
  have hrule : List.Forall₂ (Stream.Interchange R) [Diff.rule] [Diff.rule] :=
    .cons (.refl hP.extended _) .nil
  refine List.rel_append (List.rel_append hrule ?_) hrule
  refine List.rel_flatMap (R := Eq) (by rw [List.forall₂_eq_eq_eq]) ?_
  rintro e _ rfl
  exact hP.hunkLines _ _ e

/-- What is left out when one is quiet. -/
theorem unlessQuiet {x : Run σ Memory RunError α} {a : α} (hx : Runner.Writes x a)
    (hxx : Run.Agree (World.Abreast R foreign) x x) :
    Run.Agree (World.Abreast R foreign) (if !quiet then x else pure a)
      (if !quiet' then x else pure a) := by
  rcases hP.quiet with rfl | hR
  · split_ifs
    · exact hxx
    · exact (Run.Mute.pure a).agree_abreast
  · refine Runner.Writes.agree hR (a := a) ?_ ?_ <;> split_ifs
    · exact hx
    · exact Runner.writes_pure a
    · exact hx
    · exact Runner.writes_pure a

end Presents
end Reports

namespace Runner

variable {R : Bytes → Bytes → Prop} {p' : Painter} {quiet' foreign : Bool} (r : Runner σ)
  (u : UnitId) (hP : Presents R r.settings.painter p' r.settings.quiet quiet')
include hP

theorem agree_report (signal : Signal) : Run.Agree (World.Abreast R foreign)
    (r.report u signal) ((r.shown quiet' p').report u signal) := by
  have hreason (o : Outcome) : Run.Agree (World.Abreast (σ := σ) R foreign)
      (flush >>= fun _ => pure o) (flush >>= fun _ => pure o) :=
    agree_flush.bind fun _ => (Run.Mute.pure o).agree_abreast
  have hskip (reason : String) : Run.Agree (World.Abreast R foreign)
      (r.report u (.skip reason)) ((r.shown quiet' p').report u (.skip reason)) := by
    unfold report
    exact hP.unlessQuiet ((writes_sayText _).bind (writes_flush.bind (writes_pure _)))
      ((agree_say hP.extended (.refl hP.extended _)).bind fun _ => hreason _)
  cases signal with
  | loadFailure reason => exact hskip reason
  | skip reason => exact hskip reason
  | interrupt => exact fun _ _ h => ⟨rfl, h⟩
  | failure reason => exact (agree_say hP.extended (hP.paint _ _)).bind fun _ => hreason _
  | fault kind value trace =>
    refine (agree_say hP.extended (hP.paint _ _)).bind fun _ => ?_
    change Run.Agree _ (if r.settings.verbose ≠ 0 then _ else _)
      (if r.settings.verbose ≠ 0 then _ else _)
    split_ifs
    · cases trace with
      | none => exact hreason _
      | some trace => exact (agree_sayText (.refl hP.extended _)).bind fun _ => hreason _
    · exact hreason _

variable [FileSystem σ]

omit hP in
theorem mute_writeGolden (output : Bytes) :
    Run.Mute (writeGolden u output : Run σ Memory RunError Unit) :=
  writeGolden_of (fun hx hy => hx.bind fun _ => hy) (fun _ => .mapError _ fun _ _ => rfl) .note u
    output

omit hP in
theorem agree_generate (hR : Stream.Extends R) (output : Bytes) :
    Run.Agree (World.Abreast (σ := σ) R foreign) (generate u output) (generate u output) := by
  have hspoken : Spoken fun {α} (x : Run σ Memory RunError α) =>
      Run.Agree (World.Abreast R foreign) x x :=
    ⟨fun a => (Run.Mute.pure a).agree_abreast, Run.Agree.bind,
      fun text => agree_sayText (.refl hR text), agree_flush⟩
  exact hspoken.generate Run.Mute.host.agree_abreast (mute_writeGolden u output).agree_abreast

theorem agree_compare (output : Bytes) : Run.Agree (World.Abreast R foreign)
    (r.compare u output) ((r.shown quiet' p').compare u output) := by
  unfold compare
  refine Run.Mute.host.agree_abreast.bind fun host => ?_
  refine ((Run.Mute.ofResult _).mapError _).agree_abreast.bind fun golden => ?_
  split_ifs
  · exact (Run.Mute.pure _).agree_abreast
  · exact (agree_say hP.extended (hP.paint _ _)).bind fun _ => agree_flush.bind fun _ =>
      (agree_sayText (hP.diffReport _ _)).bind fun _ => agree_flush.bind fun _ =>
        (Run.Mute.pure _).agree_abreast

/-- **The outcome of a unit** does not depend on the manner of presentation. -/
theorem agree_classify : Run.Agree (World.Abreast R foreign) (r.classify u)
    ((r.shown quiet' p').classify u) := by
  refine (agree_execute hP.extended r u).bind fun ended => ?_
  rcases ended with ⟨signal | _, _ | output⟩
  · exact r.agree_report u hP signal
  · exact r.agree_report u hP signal
  · exact (Run.Mute.pure _).agree_abreast
  · change Run.Agree _ (if r.settings.generate then _ else _) (if r.settings.generate then _ else _)
    split_ifs
    · exact agree_generate u hP.extended output
    · exact r.agree_compare u hP output

omit hP [FileSystem σ] in
/-- What is told about leftovers, which are kept in mind. -/
def tellLeftovers (painter : Painter) (found : List String) : Run σ Memory RunError Unit := do
  if found ≠ [] then
    say (painter.paint .notice
      ("Warning: test created " ++ toString found.length ++ " uncollectable object(s)."))
    Run.update fun w => ((), { w with leaked := w.leaked ++ found })

omit [FileSystem σ] in
theorem agree_tellLeftovers (found : List String) : Run.Agree (World.Abreast (σ := σ) R foreign)
    (tellLeftovers r.settings.painter found) (tellLeftovers p' found) := by
  unfold tellLeftovers
  split_ifs
  · refine (agree_say hP.extended (hP.paint _ _)).bind fun _ => ?_
    exact Run.Mute.agree_abreast fun _ _ => rfl
  · exact (Run.Mute.pure _).agree_abreast

omit [FileSystem σ] in
theorem agree_scan : Run.Agree (World.Abreast R foreign) r.scan (r.shown quiet' p').scan := by
  have hdetector : (r.shown quiet' p').detector = r.detector := rfl
  unfold scan
  rw [hdetector]
  cases r.detector with
  | none => exact (Run.Mute.pure _).agree_abreast
  | some d =>
    refine Run.Agree.bind (Run.Mute.agree_abreast fun _ _ => rfl) fun found => ?_
    cases d.announces with
    | true =>
      have hnotes : Run.Mute (found.forM fun item => Run.note (.leaked item) :
          Run σ Memory RunError PUnit) := .forM (fun item => .note (.leaked item)) found
      exact hnotes.agree_abreast.bind fun _ => r.agree_tellLeftovers hP found
    | false => exact r.agree_tellLeftovers hP found

/-! ### Whole runs -/

omit hP [FileSystem σ] in
theorem mute_forget (name : String) : Run.Mute (Run.forget name : Run σ Memory RunError Unit) := by
  unfold Run.forget
  refine Run.Mute.bind (fun _ _ => rfl) fun table => ?_
  split_ifs
  · exact (Run.Mute.changeModules _).bind fun _ => .note _
  · exact .pure _

omit hP [FileSystem σ] in
theorem mute_conclude (before : List String) (outcome : Except RunError Outcome) :
    Run.Mute (conclude u before outcome : Run σ Memory RunError Outcome) := by
  have hend : Run.Mute ((match outcome with
      | .ok o => Run.note (.finished u.name o) >>= fun _ => Run.ofResult outcome
      | .error _ => Run.ofResult outcome) : Run σ Memory RunError Outcome) := by
    cases outcome with
    | ok o => exact (Run.Mute.note _).bind fun _ => .ofResult _
    | error e => exact .ofResult _
  unfold conclude
  refine Run.Mute.bind (fun _ _ => rfl) fun unloaded => ?_
  cases outcome <;> split_ifs
  · exact (Run.Mute.note _).bind fun _ => hend
  · exact hend
  · exact (Run.Mute.note _).bind fun _ => hend
  · exact hend

omit hP in
/-- Leftovers are looked for unless the run is interrupted. -/
def scanAfter (r : Runner σ) : Except RunError Outcome → Run σ Memory RunError Unit
  | .error .interrupted => pure ()
  | _ => r.scan

omit hP in
/-- The parts of a run. -/
theorem run_eq : (r.run u : Run σ Memory RunError Outcome) =
    Run.forget u.name >>= fun _ => Run.update (fun w => (w.modules.names, w)) >>= fun before =>
      Run.observe (r.classify u) >>= fun outcome => r.scanAfter outcome >>= fun _ =>
        conclude u before outcome := by
  unfold run
  refine congrArg (_ >>= ·) (funext fun _ => congrArg (_ >>= ·) (funext fun before => ?_))
  refine congrArg (_ >>= ·) (funext fun outcome => ?_)
  rcases outcome with (_ | _ | _ | _ | _) | o <;> rfl

/-- **A run of a unit** goes the same way in both manners of presentation. -/
theorem agree_run :
    Run.Agree (World.Abreast R foreign) (r.run u) ((r.shown quiet' p').run u) := by
  have hscan (outcome : Except RunError Outcome) : Run.Agree (World.Abreast R foreign)
      (r.scanAfter outcome) ((r.shown quiet' p').scanAfter outcome) := by
    unfold scanAfter
    split
    · exact (Run.Mute.pure _).agree_abreast
    · exact r.agree_scan hP
  rw [run_eq, run_eq]
  refine (mute_forget _).agree_abreast.bind fun _ => ?_
  refine Run.Agree.bind (Run.Mute.agree_abreast fun _ _ => rfl) fun before => ?_
  refine (r.agree_classify u hP).observe.bind fun outcome => ?_
  exact (hscan outcome).bind fun _ => (mute_conclude u before outcome).agree_abreast

end Runner

end Golden
