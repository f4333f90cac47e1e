import Golden.LeakDetector
import Golden.Script

/-! # Watched directories

A state together with what is known of the leftovers in one of its directories. Files are those of
the state itself, and what a program leaves behind in the directory is told by the detector. -/

namespace Golden

/-- A state around a run, and the paths that are known in the directory that is watched. -/
structure Watched (σ : Type) where
  host : σ
  leftovers : Leftovers
  deriving Inhabited

namespace Watched

variable {σ ω ε : Type}

/-- A state in which no directory is watched yet. -/
def ofHost (host : σ) : Watched σ := ⟨host, .start []⟩

/-- An action on a state, as one on the watched state. -/
def lift {α : Type} (f : σ → α × σ) (s : Watched σ) : α × Watched σ :=
  let (a, host) := f s.host
  (a, { s with host })

instance [FileSystem σ] : FileSystem (Watched σ) where
  list s := FileSystem.list s.host
  has s := FileSystem.has s.host
  isDirectory s := FileSystem.isDirectory s.host
  read s := FileSystem.read s.host
  write s path contents := s.lift fun host => FileSystem.write host path contents
  makeDirectories s path := s.lift fun host => FileSystem.makeDirectories host path

/-- Runs programs as in the state that is watched. -/
def launcher (l : Script.Launcher σ) : Script.Launcher (Watched σ) := ⟨fun c => lift (l.launch c)⟩

/-- Begins to watch a directory, in which the paths `present` are found. -/
def watch (present : σ → List Path) (directory : Path) : Run (Watched σ) ω ε Unit := do
  let s ← Run.host
  let leftovers := Leftovers.start (present s.host)
  Run.note (.watching directory leftovers.known.length)
  Run.setHost { s with leftovers }

/-- Tells what is new among the paths that are found. -/
def detect (present : σ → List Path) (s : Watched σ) : List String × Watched σ :=
  let (found, leftovers) := s.leftovers.detect (present s.host)
  (found.map Path.spelling, { s with leftovers })

/-- The detector of a directory that is watched. -/
def detector (present : σ → List Path) : LeakDetector (Watched σ) := ⟨detect present, true⟩

end Watched

end Golden
