import Golden.FileSystem
import Golden.Host.Tree

/-! # A tree as a file system

The paths of a file system are texts, and those of a tree are octets. What goes wrong is told in the
words of the operating system.

A manifest lists the files that a tree is made of, a path on every line. A star behind a path means
that the file can be run. What has become of a tree is told as a list of changes, by which the files
outside can follow. -/

namespace Golden.Host

namespace Tree

/-- What a path leads to. -/
def lookup (t : Tree) (path : Path) : Except Errno Nat := t.find true (Octets.ofText path.spelling)

/-- Whether a path leads to a directory. -/
def isDirectory (t : Tree) (path : Path) : Bool :=
  match t.lookup path with
  | .ok i => t.holdsNames i
  | .error _ => false

/-- Makes a directory. If a directory above it is missing, makes the directories above it first, at
most `n` levels up. -/
def makeDirectories (t : Tree) : Nat → Path → Except Errno Unit × Tree
  | 0, _ => (.error .noEntry, t)
  | n + 1, path =>
    let make (t : Tree) : Except Errno Tree :=
      t.makeDirectory (Octets.ofText path.spelling) directoryMode
    if path.spelling = "" then (.ok (), t)
    else
      match make t with
      | .ok t => (.ok (), t)
      | .error .noEntry =>
        match path.parent? with
        | none => (.error .noEntry, t)
        | some above =>
          match t.makeDirectories n above with
          | (.error e, t) => (.error e, t)
          | (.ok (), t) =>
            match make t with
            | .ok t => (.ok (), t)
            | .error e => (if t.isDirectory path then .ok () else .error e, t)
      | .error e => (if t.isDirectory path then .ok () else .error e, t)

/-- All paths below a directory, which is spelled as given. -/
def pathsBelow (t : Tree) (directory : Path) : List Path :=
  match t.lookup directory with
  | .ok i => (t.below (t.nodes.size + 1) i).map fun e =>
    e.1.foldl (fun p name => p.join (Octets.toText name)) directory
  | .error _ => []

/-- Removes what a path leads to, with everything below it. -/
def removeAll (t : Tree) (path : Path) : Except Errno Tree := do
  let (i, name, _) ← t.entryOf (Octets.ofText path.spelling) fun _ => .invalid
  if (t.child? i name).isNone then throw .noEntry
  return t.removeName i name

/-- A refusal as an error of a file system. -/
def refusal (operation : FileOperation) (path : Path) : Errno → FileSystemError
  | .noEntry => .notFound path
  | e => .operationFailed operation path e.message

end Tree

instance : FileSystem Tree where
  list t path :=
    match t.list (Octets.ofText path.spelling) with
    | .ok names => .ok (names.map Octets.toText)
    | .error e => .error (Tree.refusal .list path e)
  has t path := (t.lookup path).isOk
  isDirectory t path := t.isDirectory path
  read t path :=
    match t.read (Octets.ofText path.spelling) with
    | .ok contents => .ok contents.toList
    | .error e => .error (Tree.refusal .read path e)
  write t path contents :=
    match t.write (Octets.ofText path.spelling) (Octets.ofBytes contents) with
    | .ok t => (.ok (), t)
    | .error e => (.error (Tree.refusal .write path e), t)
  makeDirectories t path :=
    match t.makeDirectories (path.spelling.length + 1) path with
    | (.ok (), t) => (.ok (), t)
    | (.error e, t) => (.error (Tree.refusal .createDirectory path e), t)

/-! ### Manifests -/

/-- A file of a tree. -/
structure Listed where
  path : String
  executable : Bool
  deriving DecidableEq, Inhabited

namespace Manifest

/-- The file on a line. -/
def listedOn (line : List Char) : Listed :=
  match line.reverse with
  | '*' :: rest => ⟨String.ofList rest.reverse, true⟩
  | _ => ⟨String.ofList line, false⟩

/-- The files of a manifest. Blank lines say nothing. -/
def parse (text : String) : List Listed :=
  let lines := (text.splitOn "\n").map fun l => l.toList.filter (· ≠ '\r')
  (lines.filter (· ≠ [])).map listedOn

end Manifest

namespace Tree

/-- The names that lead to where a path leads, from the root, if it is looked up at a place. -/
def placeOf (here : Place) (path : String) : Place :=
  let pieces := ((path.toList.splitOn '/').map String.ofList).filter fun p => p ≠ "" ∧ p ≠ "."
  let pieces := pieces.map Octets.ofText
  if path.startsWith "/" then pieces else here ++ pieces

/-- Adds a file that a manifest lists. -/
def addListed (t : Tree) (here : Place) (e : Listed) (contents : Bytes) : Tree :=
  t.putFile (placeOf here e.path) contents e.executable

/-- The directories below a place. -/
def directoriesBelow (t : Tree) (p : Place) : List Place :=
  (t.allBelow p).filterMap fun e => if t.holdsNames e.2 then some e.1 else none

end Tree

/-- What has become of a place. -/
inductive Change where
  | made (directory : Place)
  | wrote (file : Place) (contents : Bytes)
  | removed (file : Place)
  deriving DecidableEq, Inhabited

/-- What has become of what is below a place: directories come before the files in them. -/
def Tree.changes (before after : Tree) (p : Place) : List Change :=
  let old := before.directoriesBelow p
  let made := (after.directoriesBelow p).filter fun d => !old.contains d
  let left := after.allBelow p
  let files := before.filesBelow p
  let written := (after.filesBelow p).filter fun f => !files.contains f
  let gone := files.filter fun f => (left.lookup f.1).isNone
  made.map (Change.made <| p ++ ·) ++ (written.map fun f => Change.wrote (p ++ f.1) f.2) ++
    gone.map fun f => Change.removed (p ++ f.1)

end Golden.Host
