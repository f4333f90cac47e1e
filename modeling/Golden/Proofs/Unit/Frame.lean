import Golden.Proofs.Unit.Steps

/-! # What units leave alone

A behaviour changes the stream and the trail, and whatever the units that it loads change. What lies
around the run changes only when it says so, and so does the wish to stop.

* `keeps_perform`: an invariant that does not speak of the stream and the trail is kept by a
  behaviour if the units that it loads keep it; `keeps_loadAndRun` is the same for the load of a
  test, when the invariant does not speak of the table of units either.
* `keeps_loadAndRun_of_perform`: the load of a test keeps what the behaviours of units keep, given
  that the units that they load do.
* `isCapturing_loadAndRun`: a capture is active after a load exactly if one was before.
* `loadAndRun_ne_error`: a signal that the units avoid does not come up. -/

namespace Golden

variable {σ ω : Type} [Sink ω]

/-- An invariant that does not speak of the stream, and of the events and texts on the trail. -/
structure Run.Silent (I : World σ ω → Prop) : Prop where
  stream : ∀ w s, I w → I { w with stream := s }
  note : ∀ w e, I w → I { w with trail := w.trail ++ [.event e] }
  complain : ∀ w bs, I w → I { w with trail := w.trail ++ [.errors bs] }

namespace Stream

/-! ### Captures -/

theorem isCapturing_write (s : Stream ω) (bs : Bytes) :
    (s.write bs).2.isCapturing = s.isCapturing := by
  rcases s with ⟨sink, _ | kept⟩ <;> rfl

theorem isCapturing_flush (s : Stream ω) : s.flush.2.isCapturing = s.isCapturing := by
  rcases s with ⟨sink, _ | kept⟩ <;> rfl

/-- A capture begins if there is none, and the sink has passed on what it took. -/
theorem begin_free {s : Stream ω} (h : s.captured = none) : s.begin =
    match Sink.flush s.sink with
    | (.error reason, sink) => (.error (.flush reason), ⟨sink, none⟩)
    | (.ok (), sink) => (.ok (), ⟨sink, some []⟩) := by
  obtain ⟨sink, captured⟩ := s
  obtain rfl : captured = none := h
  rfl

/-- While there is a capture, no other begins. -/
theorem begin_captured {s : Stream ω} {kept : Bytes} (h : s.captured = some kept) :
    s.begin = (.error .alreadyActive, s) := by
  obtain ⟨sink, captured⟩ := s
  obtain rfl : captured = some kept := h
  rfl

/-- A capture that does not begin leaves what is kept alone. -/
theorem captured_begin {s : Stream ω} {e : CaptureError} (h : s.begin.1 = .error e) :
    s.begin.2.captured = s.captured := by
  cases hs : s.captured with
  | some kept => rw [begin_captured hs, hs]
  | none =>
    rw [begin_free hs] at h ⊢
    rcases hflush : Sink.flush s.sink with ⟨_ | _, _⟩
    · rfl
    · rw [hflush] at h
      cases h

/-- A capture begins exactly if there was none. If it does not, things are as before. -/
theorem isCapturing_begin (s : Stream ω) :
    (s.begin.1 = .ok () → s.isCapturing = false ∧ s.begin.2.isCapturing = true) ∧
      (s.begin.1 ≠ .ok () → s.begin.2.isCapturing = s.isCapturing) := by
  rcases s with ⟨sink, _ | kept⟩
  · unfold Stream.begin Stream.isCapturing
    rcases Sink.flush sink with ⟨_ | _, sink'⟩ <;> simp
  · simp [Stream.begin]

end Stream

namespace Behaviour

/-! ### Behaviours -/

section Keeps
variable {I : World σ ω → Prop} {importer : String → Run σ ω Signal Unit}

omit [Sink ω] in
theorem Every.trivial : ∀ b : Behaviour σ, b.Every fun _ => True
  | done | raise _ => True.intro
  | offer entry => ⟨True.intro, Every.trivial entry⟩
  | write _ next | flush next | load _ next | beginCapture next | finishCapture next | look next =>
    ⟨True.intro, fun r => Every.trivial (next r)⟩
  | change _ next | interrupt next | note _ next | complain _ next =>
    ⟨True.intro, Every.trivial next⟩

/-- The entry point that a behaviour offers is a part of it. -/
theorem Every.of_perform {P : Behaviour σ → Prop} {entry : Behaviour σ} :
    ∀ {b : Behaviour σ}, b.Every P → ∀ {held : Bool} {w : World σ ω},
      (b.perform importer held w).1 = .ok (some entry) → entry.Every P
  | done, _, held, w, h => by simp [perform_done] at h
  | offer e, hb, held, w, h => by
    rw [perform_offer] at h
    cases h
    exact hb.2
  | raise s, _, held, w, h => by simp [perform_raise] at h
  | write _ _, hb, _, _, h => (hb.2 _).of_perform h
  | flush _, hb, _, _, h => (hb.2 _).of_perform h
  | load _ _, hb, _, _, h => (hb.2 _).of_perform h
  | beginCapture _, hb, _, _, h => (hb.2 _).of_perform h
  | finishCapture _, hb, _, _, h => by
    rw [perform_finishCapture] at h
    split_ifs at h
    · exact (hb.2 _).of_perform h
    · exact (hb.2 _).of_perform h
  | look _, hb, _, _, h => (hb.2 _).of_perform h
  | change _ _, hb, _, _, h => hb.2.of_perform h
  | interrupt _, hb, _, _, h => hb.2.of_perform h
  | note _ _, hb, _, _, h => hb.2.of_perform h
  | complain _ _, hb, _, _, h => hb.2.of_perform h

omit [Sink ω] in
theorem keeps_release (hI : Run.Silent I) (held : Bool) : Run.Keeps I (release held) := by
  intro w hw
  cases held with
  | false => exact hw
  | true =>
    change I ((Run.update (fun w => (w.stream.isCapturing, w)) >>= _) w).2
    rw [Run.update_bind]
    cases w.stream.isCapturing with
    | false => exact hw
    | true => exact hI.note _ _ (hI.stream _ _ hw)

theorem keeps_beginCapture (hI : Run.Silent I) :
    Run.Keeps I (Run.beginCapture : Run σ ω CaptureError Unit) :=
  Run.Keeps.bind (fun w hw => hI.stream w _ hw) fun _ w hw => hI.note w _ hw

/-- **A behaviour keeps an invariant** that does not speak of the stream and the trail, if the units
that it loads do, and if the invariant allows for its changes around the run and its wishes to
stop. -/
theorem keeps_perform {P : Behaviour σ → Prop} (hI : Run.Silent I)
    (hchange : ∀ host next, P (change host next) → ∀ w, I w → I { w with host })
    (hstop : ∀ next, P (interrupt next) → ∀ w, I w → I { w with interrupt := true })
    (himp : ∀ name, Run.Keeps I (importer name)) :
    ∀ {b : Behaviour σ}, b.Every P → ∀ held, Run.Keeps I (b.perform importer held)
  | done, _, held, w, hw => by
    rw [perform_done]
    exact keeps_release hI held w hw
  | offer _, _, held, w, hw => by
    rw [perform_offer]
    exact keeps_release hI held w hw
  | raise _, _, held, w, hw => by
    rw [perform_raise]
    exact keeps_release hI held w hw
  | write _ _, hb, held, w, hw =>
    keeps_perform hI hchange hstop himp (hb.2 _) held _ (hI.stream w _ hw)
  | flush _, hb, held, w, hw =>
    keeps_perform hI hchange hstop himp (hb.2 _) held _ (hI.stream w _ hw)
  | load _ _, hb, held, w, hw =>
    keeps_perform hI hchange hstop himp (hb.2 _) held _ (himp _ w hw)
  | beginCapture _, hb, held, w, hw =>
    keeps_perform hI hchange hstop himp (hb.2 _) _ _ (keeps_beginCapture hI w hw)
  | finishCapture _, hb, held, w, hw => by
    rw [perform_finishCapture]
    split_ifs
    · exact keeps_perform hI hchange hstop himp (hb.2 _) false _ (hI.stream w _ hw)
    · exact keeps_perform hI hchange hstop himp (hb.2 _) false w hw
  | look _, hb, held, w, hw => keeps_perform hI hchange hstop himp (hb.2 _) held w hw
  | change _ _, hb, held, w, hw =>
    keeps_perform hI hchange hstop himp hb.2 held _ (hchange _ _ hb.1 w hw)
  | interrupt _, hb, held, w, hw =>
    keeps_perform hI hchange hstop himp hb.2 held _ (hstop _ hb.1 w hw)
  | note _ _, hb, held, w, hw =>
    keeps_perform hI hchange hstop himp hb.2 held _ (hI.note w _ hw)
  | complain _ _, hb, held, w, hw =>
    keeps_perform hI hchange hstop himp hb.2 held _ (hI.complain w _ hw)

end Keeps

/-! ### Captures -/

omit [Sink ω] in
theorem isCapturing_release (held : Bool) (w : World σ ω)
    (hw : held = true → w.stream.isCapturing = true) :
    ((release held : Run σ ω Signal Unit) w).2.stream.isCapturing =
      (w.stream.isCapturing && !held) := by
  cases held with
  | false => simp [release]
  | true =>
    change ((Run.update (fun w => (w.stream.isCapturing, w)) >>= _) w).2.stream.isCapturing = _
    rw [Run.update_bind, hw rfl]
    rfl

theorem beginCapture_apply (w : World σ ω) : (Run.beginCapture w).1 = w.stream.begin.1 ∧
    (Run.beginCapture w).2.stream = w.stream.begin.2 := by
  unfold Run.beginCapture
  rw [Run.bind_apply]
  cases h : w.stream.begin.1 with
  | error e => simp
  | ok a => simp

/-- **A behaviour gives up its own capture** and leaves that of others alone. -/
theorem isCapturing_perform {importer : String → Run σ ω Signal Unit}
    (himp : ∀ name w, (importer name w).2.stream.isCapturing = w.stream.isCapturing) :
    ∀ (b : Behaviour σ) (held : Bool) (w : World σ ω),
      (held = true → w.stream.isCapturing = true) →
      (b.perform importer held w).2.stream.isCapturing = (w.stream.isCapturing && !held)
  | done, held, w, hw => by
    rw [perform_done]
    exact isCapturing_release held w hw
  | offer _, held, w, hw => by
    rw [perform_offer]
    exact isCapturing_release held w hw
  | raise _, held, w, hw => by
    rw [perform_raise]
    exact isCapturing_release held w hw
  | write bs _, held, w, hw => by
    have h : (Run.write bs w).2.stream.isCapturing = w.stream.isCapturing :=
      Stream.isCapturing_write _ _
    rw [perform_write, isCapturing_perform himp _ held _ (fun hh => h.trans (hw hh)), h]
  | flush _, held, w, hw => by
    have h : (Run.flush w).2.stream.isCapturing = w.stream.isCapturing := Stream.isCapturing_flush _
    rw [perform_flush, isCapturing_perform himp _ held _ (fun hh => h.trans (hw hh)), h]
  | load name _, held, w, hw => by
    rw [perform_load, isCapturing_perform himp _ held _ (fun hh => (himp name w).trans (hw hh)),
      himp name w]
  | beginCapture next, held, w, hw => by
    obtain ⟨h1, h2⟩ := beginCapture_apply w
    obtain ⟨hok, hno⟩ := w.stream.isCapturing_begin
    rw [perform_beginCapture]
    cases hb : w.stream.begin.1 with
    | error e =>
      -- the capture did not begin, so that nothing has changed
      have h3 := hno (by simp [hb])
      rw [h1, hb, isCapturing_perform himp _ _ _ (by simpa [failure?, h2, h3] using hw), h2, h3]
      simp [failure?]
    | ok a =>
      have h3 := hok hb
      have hheld : held = false := by
        cases held with
        | false => rfl
        | true => simp [h3.1] at hw
      rw [h1, hb, isCapturing_perform himp _ _ _ (by simp [h2, h3.2]), h2, h3.1]
      simp [failure?, hheld]
  | finishCapture _, held, w, hw => by
    rw [perform_finishCapture]
    cases held with
    | true =>
      rw [if_pos rfl, isCapturing_perform himp _ false _ (by simp)]
      simp [Stream.finish, Stream.isCapturing]
    | false => rw [if_neg (by simp), isCapturing_perform himp _ false w (by simp)]
  | look _, held, w, hw => by rw [perform_look, isCapturing_perform himp _ held w hw]
  | change _ _, held, w, hw => by
    rw [perform_change, isCapturing_perform himp _ held _ (by simpa using hw)]
  | interrupt _, held, w, hw => by
    rw [perform_interrupt, isCapturing_perform himp _ held _ (by simpa using hw)]
  | note _ _, held, w, hw => by
    rw [perform_note, isCapturing_perform himp _ held _ (by simpa using hw)]
  | complain _ _, held, w, hw => by
    rw [perform_complain, isCapturing_perform himp _ held _ (by simpa using hw)]

/-! ### Signals -/

/-- **A signal that a behaviour avoids** does not come up, if the units that it loads do not raise
it, and its entry point avoids it as well. -/
theorem Avoids.perform {s : Signal} {importer : String → Run σ ω Signal Unit}
    (himp : ∀ name w, (importer name w).1 ≠ .error s) :
    ∀ (b : Behaviour σ), b.Avoids s → ∀ (held : Bool) (w : World σ ω),
      (b.perform importer held w).1 ≠ .error s ∧
        ∀ entry, (b.perform importer held w).1 = .ok (some entry) → entry.Avoids s
  | done, _, held, w => by simp [perform_done]
  | offer e, hb, held, w => by
    rw [perform_offer]
    refine ⟨by simp, fun entry h => ?_⟩
    cases h
    exact hb
  | raise s', hb, held, w => by
    rw [perform_raise]
    exact ⟨fun h => hb (by simpa using h), by simp⟩
  | write _ next, hb, held, _ => Avoids.perform himp (next _) (hb _) held _
  | flush next, hb, held, _ => Avoids.perform himp (next _) (hb _) held _
  | load name next, hb, held, w => by
    refine Avoids.perform himp (next _) (hb _ ?_) held _
    cases h : (importer name w).1 with
    | ok _ => simp [failure?]
    | error s' =>
      intro he
      refine himp name w ?_
      rw [h]
      simpa [failure?] using he
  | beginCapture next, hb, _, _ => Avoids.perform himp (next _) (hb _) _ _
  | finishCapture next, hb, held, w => by
    rw [perform_finishCapture]
    split_ifs
    · exact Avoids.perform himp (next _) (hb _) false _
    · exact Avoids.perform himp (next _) (hb _) false _
  | look next, hb, held, w => Avoids.perform himp (next _) (hb _) held w
  | change _ next, hb, held, _ => Avoids.perform himp next hb held _
  | interrupt next, hb, held, _ => Avoids.perform himp next hb held _
  | note _ next, hb, held, _ => Avoids.perform himp next hb held _
  | complain _ next, hb, held, _ => Avoids.perform himp next hb held _

end Behaviour

namespace Surroundings

variable (s : Surroundings σ)

/-! ### Loads -/

section Keeps
variable {s}

omit [Sink ω] in
theorem keeps_whileLoading {α : Type} {I : World σ ω → Prop}
    (hmod : ∀ w m, I w → I { w with modules := m }) {u : UnitId} {act : Run σ ω Signal α}
    (hact : Run.Keeps I act) : Run.Keeps I (whileLoading u act) := by
  intro w hw
  rw [whileLoading_apply]
  exact hmod _ _ (hact _ (hmod w _ hw))

section Family
variable {κ : Type} {I : κ → World σ ω → Prop} {B : Behaviour σ → Prop}
  (hmod : ∀ k w m, I k w → I k { w with modules := m })
  (hnote : ∀ k w e, I k w → I k { w with trail := w.trail ++ [.event e] })
  (hfind : ∀ k u, Run.Keeps (I k) (s.find u : Run σ ω Signal (TestUnit σ)))
  (hunits : s.loader.Units B)
  (hperform : ∀ importer : String → Run σ ω Signal Unit,
    (∀ k name, Run.Keeps (I k) (importer name)) →
      ∀ k b, B b → Run.Keeps (I k) (b.perform importer false))
include hmod hnote hfind hunits hperform

/-- **Imports keep invariants** that do not speak of the table of units, if the search for units
keeps them, and if the behaviours of units do, given that the units that they load do. -/
theorem keeps_importing_of_perform : ∀ (depth : Nat) (u : UnitId) (name : String) (k : κ),
    Run.Keeps (I k) (s.importing depth u name)
  | depth, u, name, k, w, hw => by
    by_cases h : (w.modules.contains name || w.modules.isLoading name) = true
    · rw [importing_of_known s h]
      exact hw
    cases depth with
    | zero =>
      rw [importing_zero s h]
      exact hw
    | succ depth =>
      have hfound := hfind k ⟨name, u.root⟩ w hw
      rw [importing_succ s h]
      refine Run.bind_snd hfound fun t ht => ?_
      have himp (k : κ) (n : String) := keeps_importing_of_perform depth ⟨name, u.root⟩ n k
      have hloaded := keeps_whileLoading (u := ⟨name, u.root⟩) (hmod k)
        (hperform _ himp k _ (hunits _ _ t ht (s.context ⟨name, u.root⟩))) _ hfound
      refine Run.bind_snd hloaded fun _ _ => ?_
      rw [Run.note_bind]
      exact hmod k _ _ (hnote k _ _ hloaded)

/-- The load of a test keeps such invariants as well. -/
theorem keeps_loadAndRun_of_perform
    (hentry : ∀ importer : String → Run σ ω Signal Unit,
      (∀ k name, Run.Keeps (I k) (importer name)) →
        ∀ k b, B b → ∀ w, I k w → ∀ entry,
          (b.perform importer false w).1 = .ok (some entry) → B entry)
    (u : UnitId) (k : κ) : Run.Keeps (I k) (s.loadAndRun u) := by
  intro w hw
  have himp (k : κ) (name : String) := keeps_importing_of_perform hmod hnote hfind hunits
    hperform s.loader.nesting u name k
  have hfound := hfind k u w hw
  rw [loadAndRun_eq]
  refine Run.bind_snd hfound fun t ht => ?_
  have hwhole : Run.Keeps (I k) (s.whole u t) := by
    intro v hv
    have hload := hunits _ _ t ht (s.context u)
    have hv' := hperform _ himp k _ hload v hv
    refine Run.bind_snd hv' fun entry he => ?_
    cases entry with
    | none => exact hv'
    | some entry =>
      have := hperform _ himp k entry (hentry _ himp k _ hload v hv _ he) _ hv'
      exact Run.bind_snd this fun _ _ => this
  have hloaded := keeps_whileLoading (u := u) (hmod k) hwhole _ hfound
  exact Run.bind_snd hloaded fun _ _ => hmod k _ _ hloaded

end Family

/-- **The load of a test keeps an invariant** that speaks neither of the stream and the trail nor of
the table of units, if the search for units keeps it and their behaviours do. -/
theorem keeps_loadAndRun {I : World σ ω → Prop} {P : Behaviour σ → Prop} (hI : Run.Silent I)
    (hmod : ∀ w m, I w → I { w with modules := m })
    (hchange : ∀ host next, P (.change host next) → ∀ w, I w → I { w with host })
    (hstop : ∀ next, P (.interrupt next) → ∀ w, I w → I { w with interrupt := true })
    (hfind : ∀ u, Run.Keeps I (s.find u : Run σ ω Signal (TestUnit σ)))
    (hunits : s.loader.Units (Behaviour.Every P)) (u : UnitId) : Run.Keeps I (s.loadAndRun u) :=
  keeps_loadAndRun_of_perform (I := fun _ : Unit => I) (fun _ => hmod) (fun _ => hI.note)
    (fun _ => hfind) hunits
    (fun _ himp k _ hb => Behaviour.keeps_perform hI hchange hstop (himp k) hb false)
    (fun _ _ _ _ hb _ _ _ => hb.of_perform) u ()

end Keeps

/-! ### Captures and signals -/

section Ends
variable {s}

/-- **A capture is active after a load** exactly if one was before. -/
theorem isCapturing_loadAndRun (u : UnitId) (w : World σ ω) :
    (s.loadAndRun u w).2.stream.isCapturing = w.stream.isCapturing := by
  refine keeps_loadAndRun_of_perform (I := fun (c : Bool) (v : World σ ω) =>
    v.stream.isCapturing = c) (B := fun _ => True) (fun _ _ _ h => h) (fun _ _ _ h => h)
    (fun _ _ _ h => h) (fun _ _ _ _ _ => True.intro) (fun importer himp c b _ v hv => ?_)
    (fun _ _ _ _ _ _ _ _ _ => True.intro) u _ w rfl
  have := Behaviour.isCapturing_perform (fun name w => himp _ name w rfl) b false v (by simp)
  exact (this.trans (by simp)).trans hv

variable {signal : Signal} (havoids : s.loader.Avoids signal)
  (hfault : ∀ kind value trace, signal ≠ .fault kind value trace)
include havoids hfault

theorem importing_ne_error : ∀ (depth : Nat) (u : UnitId) (name : String) (w : World σ ω),
    (s.importing depth u name w).1 ≠ .error signal
  | 0, u, name, w => by
    by_cases h : (w.modules.contains name || w.modules.isLoading name) = true
    · rw [importing_of_known s h]
      simp
    · rw [importing_zero s h]
      simpa using (hfault _ _ _).symm
  | depth + 1, u, name, w => by
    by_cases h : (w.modules.contains name || w.modules.isLoading name) = true
    · rw [importing_of_known s h]
      simp
    · rw [importing_succ s h]
      refine Run.bind_ne_error (havoids.search _ _) fun t ht => ?_
      refine Run.bind_ne_error ?_ fun _ _ => by simp
      rw [whileLoading_apply]
      exact (Behaviour.Avoids.perform (importing_ne_error depth ⟨name, u.root⟩) _
        (havoids.units _ _ t ht _) false _).1

/-- **A signal that the units avoid** does not come up in a load. -/
theorem loadAndRun_ne_error (u : UnitId) (w : World σ ω) :
    (s.loadAndRun u w).1 ≠ .error signal := by
  have himp := importing_ne_error (ω := ω) havoids hfault s.loader.nesting u
  rw [loadAndRun_eq]
  refine Run.bind_ne_error (havoids.search _ _) fun t ht => ?_
  refine Run.bind_ne_error ?_ fun _ _ => by simp
  rw [whileLoading_apply]
  have hload := havoids.units _ _ t ht (s.context u)
  refine Run.bind_ne_error (hload.perform himp _ false _).1 fun entry he => ?_
  cases entry with
  | none => simp
  | some entry =>
    have hentry := (hload.perform himp _ false _).2 entry he
    exact Run.bind_ne_error (hentry.perform himp _ false _).1 fun _ _ => by simp

end Ends

end Surroundings

end Golden
