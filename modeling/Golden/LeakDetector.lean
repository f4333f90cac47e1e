import Golden.World

/-! # Detection of leftovers

A detector tells what tests have left behind. Every item is told once. `Leftovers` is the
bookkeeping of a detector that watches a directory: it knows what was there before or has been
told. -/

namespace Golden

/-- Tells what was left behind since it was last asked. Some detectors leave an event on the trail
for every item. -/
structure LeakDetector (σ : Type) where
  detect : σ → List String × σ
  announces : Bool

/-- The paths that are known, none of which is told again. -/
structure Leftovers where
  known : List Path
  deriving DecidableEq, Inhabited

namespace Leftovers

/-- Paths in ascending order, each of them once. -/
def distinct (ps : List Path) : List Path :=
  (ps.mergeSort Path.le).eraseRepsBy Path.same

/-- Knows what is there at the beginning. -/
def start (present : List Path) : Leftovers := ⟨distinct present⟩

/-- Whether a path is known. -/
def isKnown (l : Leftovers) (p : Path) : Bool := l.known.any (·.same p)

/-- The paths that are there and not known, ascending. From now on they are known. -/
def detect (l : Leftovers) (present : List Path) : List Path × Leftovers :=
  let found := (distinct present).filter fun p => !l.isKnown p
  (found, ⟨l.known ++ found⟩)

end Leftovers

end Golden
