import Golden.Host.Errno
import Golden.Host.Octets
import Golden.Path

/-! # A tree of files

A tree holds what a machine keeps under names: directories, files, links, devices and programs. Each
of them is a node with a number, and a directory leads from names to numbers, so that a file can
have several names or none. Paths are followed piece by piece (`Tree.walk`): each piece but the last
has to lead to a directory, `..` leads to the directory above, and a link leads on to its target.
Names and contents are octets. -/

namespace Golden.Host

/-- What is not a file but is read and written like one. -/
inductive Device where
  | null
  | zero
  | full
  | random
  | terminal
  /-- What a process has open under a number. -/
  | descriptor (n : Nat)
  deriving DecidableEq, Inhabited

/-- What a node holds. -/
inductive Body where
  | directory (parent : Nat) (entries : List (String × Nat))
  | file (contents : ByteArray)
  | link (target : String)
  | device (d : Device)
  /-- A program of the machine, which a file with its name stands for. -/
  | program (name : String)
  | fifo
  deriving Inhabited

/-- A node. -/
structure Node where
  body : Body
  mode : Nat
  links : Nat
  modified : Nat
  deriving Inhabited

/-- A place, by the names that lead to it from the root. -/
abbrev Place := List String

/-- A tree: its nodes, of which the first is the root, the working directory, and the time in
nanoseconds. -/
structure Tree where
  nodes : Array Node
  here : Nat
  clock : Nat
  deriving Inhabited

namespace Tree

/-- The number of the root. -/
def root : Nat := 0

/-- A node by its number. -/
def node (t : Tree) (i : Nat) : Node := t.nodes[i]?.getD default

/-- What is in a directory. -/
def entries? (t : Tree) (i : Nat) : Option (List (String × Nat)) :=
  match (t.node i).body with
  | .directory _ es => some es
  | _ => none

/-- Whether a node is a directory. -/
def holdsNames (t : Tree) (i : Nat) : Bool := (t.entries? i).isSome

/-- The directory above. -/
def parent (t : Tree) (i : Nat) : Nat :=
  match (t.node i).body with
  | .directory p _ => p
  | _ => i

/-- What a name in a directory leads to. -/
def child? (t : Tree) (i : Nat) (name : String) : Option Nat :=
  (t.entries? i).bind fun es => es.lookup name

/-! ### Edits -/

/-- Changes a node. -/
def change (t : Tree) (i : Nat) (f : Node → Node) : Tree := { t with nodes := t.nodes.modify i f }

/-- Notes that a node has been changed. -/
def touch (t : Tree) (i : Nat) : Tree :=
  let now := t.clock
  t.change i fun n => { n with modified := now }

/-- Changes the names in a directory. -/
def changeEntries (t : Tree) (i : Nat) (f : List (String × Nat) → List (String × Nat)) : Tree :=
  (t.change i fun n =>
    match n with
    | ⟨.directory p es, m, l, w⟩ => ⟨.directory p (f es), m, l, w⟩
    | n => n).touch i

/-- Adds a node that no name leads to. -/
def addNode (t : Tree) (b : Body) (mode : Nat) : Nat × Tree :=
  let now := t.clock
  (t.nodes.size, { t with nodes := t.nodes.push ⟨b, mode, 0, now⟩ })

/-- Lets a name lead to a node. -/
def addName (t : Tree) (directory : Nat) (name : String) (i : Nat) : Tree :=
  (t.changeEntries directory (· ++ [(name, i)])).change i fun n => { n with links := n.links + 1 }

/-- Removes a name. -/
def removeName (t : Tree) (directory : Nat) (name : String) : Tree :=
  match t.child? directory name with
  | none => t
  | some i =>
    (t.changeEntries directory fun es => es.filter (·.1 ≠ name)).change i
      fun n => { n with links := n.links - 1 }

/-- Adds a node under a name. -/
def add (t : Tree) (directory : Nat) (name : String) (b : Body) (mode : Nat) : Nat × Tree :=
  let (i, t) := t.addNode b mode
  (i, t.addName directory name i)

/-- The mode of a directory, unless told otherwise. -/
def directoryMode : Nat := 0o755

/-- The mode of a file, unless told otherwise. -/
def fileMode : Nat := 0o644

/-- Adds a directory under a name. -/
def addDirectory (t : Tree) (directory : Nat) (name : String) (mode : Nat) : Nat × Tree :=
  t.add directory name (.directory directory []) mode

/-- Goes down a place, and makes the directories that are missing. -/
def reach (t : Tree) (i : Nat) : Place → Nat × Tree
  | [] => (i, t)
  | name :: rest =>
    match t.child? i name with
    | some j => t.reach j rest
    | none =>
      let (j, t) := t.addDirectory i name directoryMode
      t.reach j rest

/-- Makes a directory and all directories above it. -/
def putDirectory (t : Tree) (p : Place) : Tree := (t.reach root p).2

/-- Puts a node at a place, in place of what was there, and makes all directories above it. -/
def putNode (t : Tree) (p : Place) (b : Body) (mode : Nat) : Tree :=
  match p.getLast? with
  | none => t
  | some name =>
    let (i, t) := t.reach root p.dropLast
    ((t.removeName i name).add i name b mode).2

/-- Makes a file and all directories above it. -/
def putFile (t : Tree) (p : Place) (contents : Bytes) (executable : Bool) : Tree :=
  t.putNode p (.file (Octets.ofBytes contents)) (if executable then 0o755 else fileMode)

/-! ### Following paths -/

/-- The pieces of a path that name something. -/
def piecesOf (path : String) : List String := (path.splitOn "/").filter (· ≠ "")

/-- The length of a path that is too long. -/
def pathLimit : Nat := 4096

/-- The greatest length of a name. -/
def greatestName : Nat := 255

/-- The number of links that may be met on the way. -/
def linkLimit : Nat := 40

/-- A number of steps that no path needs. -/
def manySteps : Nat := 200000

/-- Follows pieces from a directory, through at most `links` links. -/
def walk (t : Tree) : Nat → Nat → Nat → List String → Except Errno Nat
  | 0, _, _, _ => .error .manyLinks
  | _, _, i, [] => .ok i
  | n + 1, links, i, piece :: rest =>
    match t.entries? i with
    | none => .error .notDirectory
    | some es =>
      if piece = "." then t.walk n links i rest
      else if piece = ".." then t.walk n links (t.parent i) rest
      else if greatestName < piece.length then .error .nameTooLong
      else
        match es.lookup piece with
        | none => .error .noEntry
        | some j =>
          match (t.node j).body with
          | .link target =>
            match links with
            | 0 => .error .manyLinks
            | k + 1 =>
              t.walk n k (if target.startsWith "/" then root else i) (piecesOf target ++ rest)
          | _ => t.walk n links j rest

/-- How a path ends: with a name, or with a step that leads to a directory that is there. -/
inductive LastStep where
  | name (s : String)
  | dot
  | up
  | root
  deriving DecidableEq, Inhabited

/-- The directory that the last step of a path is taken in, the step, and whether a `/` follows. -/
structure Approach where
  directory : Nat
  last : LastStep
  slash : Bool
  deriving DecidableEq, Inhabited

/-- Follows a path up to its last step. -/
def approach (t : Tree) (origin : Nat) (path : String) : Except Errno Approach := do
  if path = "" then throw .noEntry
  if path.contains '\x00' then throw .nul
  if pathLimit ≤ path.length then throw .nameTooLong
  let start := if path.startsWith "/" then root else origin
  let pieces := piecesOf path
  match pieces.getLast? with
  | none => return ⟨start, .root, true⟩
  | some last =>
    let i ← t.walk manySteps linkLimit start pieces.dropLast
    if !t.holdsNames i then throw .notDirectory
    let step := if last = "." then .dot else if last = ".." then .up else .name last
    return ⟨i, step, path.endsWith "/"⟩

/-- Where a path leads: to a node, or to a name in a directory under which there is nothing. -/
inductive Found where
  | here (i : Nat)
  | nothing (directory : Nat) (name : String) (slash : Bool)
  deriving DecidableEq, Inhabited

/-- Where a path leads from a directory. A link at its end is followed if `follow`, or if a `/`
stands behind it. -/
def locateFrom (t : Tree) : Nat → Bool → Nat → String → Except Errno Found
  | 0, _, _, _ => .error .manyLinks
  | n + 1, follow, i, path => do
    let a ← t.approach i path
    match a.last with
    | .dot | .root => return .here a.directory
    | .up => return .here (t.parent a.directory)
    | .name s =>
      if greatestName < s.length then throw .nameTooLong
      match t.child? a.directory s with
      | none => return .nothing a.directory s a.slash
      | some j =>
        match (t.node j).body, follow || a.slash with
        | .link target, true =>
          match ← t.locateFrom n true a.directory target with
          | .here k => if a.slash && !t.holdsNames k then throw .notDirectory else return .here k
          | found => return found
        | _, _ => if a.slash && !t.holdsNames j then throw .notDirectory else return .here j

/-- Where a path leads from the working directory. -/
def locate (t : Tree) (follow : Bool) (path : String) : Except Errno Found :=
  t.locateFrom (linkLimit + 1) follow t.here path

/-- The node that a path leads to. -/
def find (t : Tree) (follow : Bool) (path : String) : Except Errno Nat := do
  match ← t.locate follow path with
  | .here i => return i
  | .nothing .. => throw .noEntry

/-- The directory and name that a path ends in, if it ends in a name. -/
def entryOf (t : Tree) (path : String) (otherwise : LastStep → Errno) :
    Except Errno (Nat × String × Bool) := do
  let a ← t.approach t.here path
  match a.last with
  | .name s =>
    if greatestName < s.length then throw .nameTooLong
    return (a.directory, s, a.slash)
  | other => throw (otherwise other)

/-! ### Operations -/

/-- Makes a directory. -/
def makeDirectory (t : Tree) (path : String) (mode : Nat) : Except Errno Tree := do
  let (i, name, _) ← t.entryOf path fun _ => .alreadyThere
  if (t.child? i name).isSome then throw .alreadyThere
  return (t.addDirectory i name mode).2

/-- Puts a new node under a path. -/
def makeNode (t : Tree) (path : String) (b : Body) (mode : Nat) : Except Errno Tree := do
  let (i, name, slash) ← t.entryOf path fun _ => .alreadyThere
  if (t.child? i name).isSome then throw .alreadyThere
  if slash then throw .noEntry
  return (t.add i name b mode).2

/-- Removes a name that does not lead to a directory. -/
def unlink (t : Tree) (path : String) : Except Errno Tree := do
  let (i, name, slash) ← t.entryOf path fun _ => .isDirectory
  match t.child? i name with
  | none => throw .noEntry
  | some j =>
    if t.holdsNames j then throw .isDirectory
    if slash then throw .notDirectory
    return t.removeName i name

/-- Removes a directory that is empty. -/
def removeDirectory (t : Tree) (path : String) : Except Errno Tree := do
  let (i, name, _) ← t.entryOf path fun
    | .dot => .invalid
    | .up => .notEmpty
    | _ => .busy
  match t.child? i name with
  | none => throw .noEntry
  | some j =>
    match t.entries? j with
    | none => throw .notDirectory
    | some [] => return t.removeName i name
    | some _ => throw .notEmpty

/-- Gives a node another name. -/
def link (t : Tree) (source target : String) : Except Errno Tree := do
  let i ← t.find false source
  if t.holdsNames i then throw .notPermitted
  let (d, name, slash) ← t.entryOf target fun _ => .alreadyThere
  if (t.child? d name).isSome then throw .alreadyThere
  if slash then throw .noEntry
  return t.addName d name i

/-- Whether a directory lies in another or is the same, at most `n` levels down. -/
def liesIn (t : Tree) (outer : Nat) : Nat → Nat → Bool
  | 0, _ => false
  | n + 1, i => i = outer || (i ≠ root && t.liesIn outer n (t.parent i))

/-- Moves what is under a name to another name. -/
def rename (t : Tree) (source target : String) : Except Errno Tree := do
  let (d, name, slash) ← t.entryOf source fun _ => .busy
  let (e, other, otherSlash) ← t.entryOf target fun _ => .busy
  match t.child? d name with
  | none => throw .noEntry
  | some i =>
    let isDirectory := t.holdsNames i
    if !isDirectory && (slash || otherSlash) then throw .notDirectory
    if isDirectory && t.liesIn i (t.nodes.size + 1) e then throw .invalid
    match t.child? e other with
    | some j =>
      if i = j then return t
      match t.entries? j with
      | some es =>
        if !isDirectory then throw .isDirectory
        if es ≠ [] then throw .notEmpty
      | none => if isDirectory then throw .notDirectory
    | none => pure ()
    let t := ((t.removeName e other).removeName d name).addName e other i
    return t.change i fun n =>
      match n with
      | ⟨.directory _ es, m, l, w⟩ => ⟨.directory e es, m, l, w⟩
      | n => n

/-- Where a link leads. -/
def readLink (t : Tree) (path : String) : Except Errno String := do
  match (t.node (← t.find false path)).body with
  | .link target => return target
  | _ => throw .invalid

/-- The names in a directory. -/
def list (t : Tree) (path : String) : Except Errno (List String) := do
  match t.entries? (← t.find true path) with
  | some es => return es.map Prod.fst
  | none => throw .notDirectory

/-- The contents of a file. -/
def read (t : Tree) (path : String) : Except Errno ByteArray := do
  match (t.node (← t.find true path)).body with
  | .file contents => return contents
  | .directory .. => throw .isDirectory
  | _ => return .empty

/-- Where a file can be opened for writing. A `/` behind a path asks for a directory. -/
def locateToWrite (t : Tree) (path : String) : Except Errno Found := do
  let a ← t.approach t.here path
  match a.last, a.slash with
  | .name _, true => throw .isDirectory
  | _, _ => t.locate true path

/-- Puts contents into a file. A file that is not there is made. -/
def write (t : Tree) (path : String) (contents : ByteArray) : Except Errno Tree := do
  match ← t.locateToWrite path with
  | .here i =>
    match (t.node i).body with
    | .directory .. => throw .isDirectory
    | .file _ => return (t.change i fun n => { n with body := .file contents }).touch i
    | .device .full => throw .noSpace
    | _ => return t
  | .nothing i name _ => return (t.add i name (.file contents) fileMode).2

/-! ### Places -/

/-- The spelling of a place. -/
def spell (p : Place) : String := "/" ++ "/".intercalate p

/-- The place of a directory, at most `n` levels down. -/
def placeOfNode (t : Tree) : Nat → Nat → Place
  | 0, _ => []
  | n + 1, i =>
    if i = root then []
    else
      let above := t.parent i
      let name := ((t.entries? above).getD []).find? (·.2 = i)
      t.placeOfNode n above ++ (name.map Prod.fst).toList

/-- The path of a directory. -/
def pathOfNode (t : Tree) (i : Nat) : String := spell (t.placeOfNode (t.nodes.size + 1) i)

/-- Everything below a node, by the names that lead there, at most `n` levels down. -/
def below (t : Tree) : Nat → Nat → List (Place × Nat)
  | 0, _ => []
  | n + 1, i =>
    ((t.entries? i).getD []).flatMap fun e =>
      ([e.1], e.2) :: (t.below n e.2).map fun f => (e.1 :: f.1, f.2)

/-- Everything below a place. -/
def allBelow (t : Tree) (p : Place) : List (Place × Nat) :=
  match t.walk manySteps linkLimit root p with
  | .ok i => t.below (t.nodes.size + 1) i
  | .error _ => []

/-- The files below a place, by the names that lead to them from there. -/
def filesBelow (t : Tree) (p : Place) : List (Place × Bytes) :=
  (t.allBelow p).filterMap fun e =>
    match (t.node e.2).body with
    | .file contents => some (e.1, contents.toList)
    | _ => none

end Tree

end Golden.Host
