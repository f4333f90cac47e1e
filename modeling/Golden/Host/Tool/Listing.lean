import Golden.Host.Tool.Making
import Golden.Host.Tool.Sorting

/-! # Tools that tell what is there

The names in directories (`ls`), what is known of files (`stat`), where links lead (`readlink`,
`realpath`), and where programs are (`which`). -/

namespace Golden.Host.Tool

/-! ### Names in directories -/

/-- The order in which names are listed. -/
inductive ListOrder where
  | name
  | time
  | size
  | ending
  | version
  | none
  deriving DecidableEq, Inhabited

/-- How names are laid out. -/
inductive ListLayout where
  | single
  | long
  | columns
  | across
  | commas
  deriving DecidableEq, Inhabited

/-- How directories are listed. -/
structure Listing where
  layout : ListLayout
  order : ListOrder
  reversed : Bool
  hidden : Bool
  /-- The directory itself and the one above are listed as well. -/
  dots : Bool
  directories : Bool
  recursive : Bool
  marks : Bool
  slashes : Bool
  numbers : Bool
  blocks : Bool
  human : Bool
  digits : Bool
  owner : Bool
  group : Bool
  quotes : Bool
  follows : Bool
  directoriesFirst : Bool
  deriving DecidableEq, Inhabited

/-- A name with what is known of it. -/
structure Listable where
  name : String
  facts : Facts
  /-- Where a link leads, and what is known of that. -/
  target : Option (String × Option Facts)
  deriving DecidableEq, Inhabited

namespace Listing

/-- The ending of a name from its last point on. -/
def endingOf (name : String) : String :=
  match (name.splitOn ".").reverse with
  | last :: _ :: _ => last
  | _ => ""

/-- Whether one name comes before another or is as good. -/
def precedes (l : Listing) (a b : Listable) : Bool :=
  let byName := compareTexts a.name.toList b.name.toList
  let r : Ordering := match l.order with
    | .name => byName
    | .time => (compare b.facts.modified a.facts.modified).then byName
    | .size => (compare b.facts.size a.facts.size).then byName
    | .ending => (compare (endingOf a.name) (endingOf b.name)).then byName
    | .version =>
      (compareVersions (a.name.length + b.name.length + 1) a.name.toList b.name.toList).then byName
    | .none => .eq
  let r := if l.reversed && l.order ≠ .none then r.swap else r
  let isDirectory (x : Listable) : Bool := x.facts.kind = .directory
  if l.directoriesFirst && isDirectory a != isDirectory b then isDirectory a else r ≠ .gt

/-- Names in their order. -/
def sorted (l : Listing) (xs : List Listable) : List Listable :=
  let xs := if l.order = .none && l.reversed then xs.reverse else xs
  xs.mergeSort l.precedes

/-- The sign behind a name. -/
def mark (l : Listing) (f : Facts) : String :=
  match f.kind with
  | .directory => if l.marks || l.slashes then "/" else ""
  | .link => if l.marks then "@" else ""
  | .fifo => if l.marks then "|" else ""
  | .regular => if l.marks && f.mode &&& 0o111 ≠ 0 then "*" else ""
  | .device => ""

/-- The number of blocks of a file. -/
def blocksOf (f : Facts) : Nat :=
  match f.kind with
  | .directory => 4
  | .regular => (f.size + 4095) / 4096 * 4
  | _ => 0

/-- A size in the greatest unit that leaves something in front of the point. -/
def humanSize (n : Nat) : String :=
  let units := ["K", "M", "G", "T", "P", "E"]
  let rec go (d : Nat) : List String → String
    | [] => toString n
    | u :: us =>
      if n < 1024 * d || us = [] then
        let tenths := (n * 10 + d - 1) / d
        if tenths < 100 then toString (tenths / 10) ++ "." ++ toString (tenths % 10) ++ u
        else
          let whole := (n + d - 1) / d
          if 1024 ≤ whole && us ≠ [] then "1.0" ++ us.headD "" else toString whole ++ u
      else go (d * 1024) us
  if n < 1024 then toString n else go 1024 units

/-- The letter for what kind of thing something is. -/
def kindLetter : Kind → String
  | .directory => "d"
  | .regular => "-"
  | .link => "l"
  | .device => "c"
  | .fifo => "p"

/-- The half of a year. -/
def halfYear : Int := 15778476 * Calendar.nanosecond

/-- The time of the last change. -/
def timeOf (now : Nat) (f : Facts) : String :=
  let m := Calendar.momentOf f.modified
  let isRecent := (f.modified : Int) ≤ now && (now : Int) - halfYear < f.modified
  String.ofList (Calendar.format m (if isRecent then "%b %e %H:%M" else "%b %e  %Y").toList)

/-- A name with its sign. -/
def shownName (l : Listing) (x : Listable) : String :=
  (if l.quotes then "\"" ++ x.name ++ "\"" else x.name) ++
    (if l.layout = .long && x.facts.kind = .link then "" else l.mark x.facts)

/-- What stands in front of a name in any layout. -/
def front (l : Listing) (xs : List Listable) (x : Listable) : String :=
  let width (f : Facts → String) : Nat := (xs.map fun y => (f y.facts).length).max?.getD 0
  let column (isAsked : Bool) (f : Facts → String) : String :=
    if isAsked then padLeft (width f) (f x.facts) ++ " " else ""
  column l.numbers (fun f => toString f.number) ++
    column l.blocks (fun f => toString (blocksOf f))

/-- The long lines of names. -/
def longLines (l : Listing) (now : Nat) (xs : List Listable) : List String :=
  let width (f : Facts → String) : Nat := (xs.map fun y => (f y.facts).length).max?.getD 0
  let size (f : Facts) : String := if l.human then humanSize f.size else toString f.size
  let links (f : Facts) : String := toString f.links
  let who := if l.digits then "0" else user
  xs.map fun x =>
    let f := x.facts
    l.front xs x ++ kindLetter f.kind ++ Mode.spell f.mode ++ " " ++
      padLeft (width links) (links f) ++ " " ++ (if l.owner then who ++ " " else "") ++
      (if l.group then who ++ " " else "") ++ padLeft (width size) (size f) ++ " " ++
      timeOf now f ++ " " ++ l.shownName x ++
      (match x.target with
      | some (t, known) => " -> " ++ t ++ (known.map l.mark).getD ""
      | none => "")

/-- The width of a line. -/
def lineWidth : Nat := 80

/-- Names in columns, with the number of rows. -/
def inColumns (across : Bool) (cells : List String) (rows : Nat) : List String :=
  let n := cells.length
  let columns := (n + rows - 1) / rows
  let cell (r c : Nat) : Option String := cells[if across then r * columns + c else c * rows + r]?
  let width (c : Nat) : Nat :=
    ((List.range rows).filterMap fun r => (cell r c).map String.length).max?.getD 0
  (List.range rows).map fun r =>
    let row := (List.range columns).filterMap fun c => (cell r c).map fun s => (c, s)
    String.join (row.map fun (c, s) =>
      if c + 1 = row.length then s else padRight (width c + 2) s)

/-- Names in as few rows as fit. -/
def columnLines (across : Bool) (cells : List String) : List String :=
  let fits (rows : Nat) : Bool :=
    (inColumns across cells rows).all fun s => s.length < lineWidth
  let rows := ((List.range' 1 cells.length).find? fits).getD (max 1 cells.length)
  if cells = [] then [] else inColumns across cells rows

/-- Names behind each other with commas between them. -/
def commaLines (cells : List String) : List String :=
  let step (done : List String × String) (cell : String) : List String × String :=
    if done.2 = "" then (done.1, cell)
    else if done.2.length + 2 + cell.length + 1 ≤ lineWidth then (done.1, done.2 ++ ", " ++ cell)
    else (done.1 ++ [done.2 ++ ","], cell)
  let (whole, last) := cells.foldl step ([], "")
  if last = "" then whole else whole ++ [last]

/-- The lines of names. -/
def lines (l : Listing) (now : Nat) (xs : List Listable) : List String :=
  let cells := xs.map fun x => l.front xs x ++ l.shownName x
  match l.layout with
  | .long => l.longLines now xs
  | .single => cells
  | .columns => columnLines false cells
  | .across => columnLines true cells
  | .commas => commaLines cells

/-- A name with what is known of it, if that can be learned. -/
def look (l : Listing) (follow : Bool) (path name : String) : Tool (Option Listable) := do
  let first ← call (.facts path (follow || l.follows))
  let known : Except Errno Facts ← match first with
    | .ok f => pure (.ok f)
    | .error e => if follow && !l.follows then call (.facts path false) else pure (.error e)
  match known with
  | .error e =>
    flush
    warn ("cannot access " ++ Quoting.always path ++ ": " ++ e.words)
    return none
  | .ok f =>
    let target ← if f.kind = .link then do
        match ← call (.readLink path) with
        | .ok (t : String) => pure (some (t, ← act (Act.facts? path true)))
        | .error _ => pure none
      else pure none
    return some ⟨name, f, target⟩

/-- Lists a directory, and those below it if asked, at most `n` levels down. Tells whether a title
is needed for the next one. -/
def directory (l : Listing) (now : Nat) : Nat → Bool → Bool → String → Tool Unit
  | 0, _, _, _ => pure ()
  | n + 1, title, isFirst, path => do
    match ← call (.list path) with
    | .error e =>
      flush
      warn ("cannot open directory " ++ Quoting.always path ++ ": " ++ e.words)
      setStatus 2
    | .ok (names : List String) =>
      if !isFirst then put "\n"
      if title then put (path ++ ":\n")
      let shown := names.filter fun m => l.hidden || !m.startsWith "."
      let all := (if l.dots then [".", ".."] else []) ++ shown
      let found ← all.mapM fun m => l.look false (inside path m) m
      if found.any (·.isNone) then
        if (← console).status = 0 then setStatus 1
      let xs := l.sorted (found.filterMap id)
      if l.layout = .long || l.blocks then
        put ("total " ++ toString (xs.foldl (fun n x => n + blocksOf x.facts) 0) ++ "\n")
      (l.lines now xs).forM fun line => put (line ++ "\n")
      if l.recursive then
        let inner := xs.filter fun x => x.facts.kind = .directory && x.name ≠ "." && x.name ≠ ".."
        inner.forM fun x => directory l now n true false (inside path x.name)

/-- Lists directories one behind the other. -/
def directoryEach (l : Listing) (now : Nat) (title : Bool) : Bool → List String → Tool Unit
  | _, [] => pure ()
  | isFirst, path :: rest => do
    l.directory now Act.manySteps title isFirst path
    directoryEach l now title false rest

end Listing

/-- The options of `ls`. -/
def lsOptions : OptionTable :=
  { OptionTable.ofLetters "aAbBcCdDfFgGhHiI:klLmnNopqQrRsStT:uUvw:xXZ1" with
    words := [("all", .nothing, "a"), ("almost-all", .nothing, "A"), ("directory", .nothing, "d"),
      ("classify", .maybe, "F"), ("human-readable", .nothing, "h"), ("inode", .nothing, "i"),
      ("reverse", .nothing, "r"), ("recursive", .nothing, "R"), ("size", .nothing, "s"),
      ("sort", .argument, "sort"), ("color", .maybe, "color"), ("quote-name", .nothing, "Q"),
      ("group-directories-first", .nothing, "first"), ("file-type", .nothing, "F"),
      ("format", .argument, "format"), ("time", .argument, "time"), ("no-group", .nothing, "G"),
      ("numeric-uid-gid", .nothing, "n"), ("dereference", .nothing, "L"),
      ("literal", .nothing, "N"), ("time-style", .argument, "time-style"),
      ("full-time", .nothing, "full-time"), ("width", .argument, "w"), ("zero", .nothing, "zero")]
    status := 2 }

/-- What words stand for as arguments of options. -/
def lsChoices : List (String × List (List String)) :=
  [("sort", [["none"], ["time"], ["size"], ["extension"], ["version"], ["width"]]),
   ("format",
    [["verbose", "long"], ["commas"], ["horizontal", "across"], ["vertical"], ["single-column"]]),
   ("time",
    [["atime", "access", "use"], ["ctime", "status"], ["mtime", "modification"],
     ["birth", "creation"]]),
   ("color",
    [["always", "yes", "force"], ["never", "no", "none"], ["auto", "tty", "if-tty"]])]

/-- The order that options ask for. -/
def listOrder (os : List Opt) : ListOrder :=
  match os.findRev? fun o => ["t", "S", "X", "U", "v", "f", "sort"].contains o.key with
  | none => .name
  | some o =>
    match o.key, o.value.getD "" with
    | "t", _ | "sort", "time" => .time
    | "S", _ | "sort", "size" => .size
    | "X", _ | "sort", "extension" => .ending
    | "v", _ | "sort", "version" => .version
    | "U", _ | "f", _ | "sort", "none" => .none
    | _, _ => .name

/-- The layout that options ask for. -/
def listLayout (os : List Opt) : ListLayout :=
  let keys := ["l", "g", "n", "o", "C", "x", "m", "1", "format"]
  let isLong := ["l", "g", "n", "o"].any (isGiven os)
  match os.findRev? fun o => keys.contains o.key with
  | none => .single
  | some o =>
    match o.key, o.value.getD "" with
    | "C", _ | "format", "vertical" => .columns
    | "x", _ | "format", "horizontal" => .across
    | "m", _ | "format", "commas" => .commas
    | "1", _ => if isLong then .long else .single
    | "format", "single-column" => .single
    | _, _ => .long

/-- Lists directories. -/
def ls : Program := program fun args => do
  let (os, names) ← options lsOptions args
  let os ← chooseAll lsOptions lsChoices os
  match (valueOf? os "w").map fun w => (w, Sizes.read [] w) with
  | some (w, none) => fail 2 ("invalid line width: " ++ Quoting.always w)
  | _ => pure ()
  let has (keys : List String) : Bool := keys.any (isGiven os)
  let dots := match lastOf? os ["a", "A"] with
    | some "a" => true
    | some _ => false
    | none => isGiven os "f"
  let l : Listing :=
    { layout := listLayout os, order := listOrder os, reversed := isGiven os "r"
      hidden := has ["a", "A", "f"], dots
      directories := isGiven os "d", recursive := isGiven os "R" && !isGiven os "d"
      marks := isGiven os "F", slashes := isGiven os "p", numbers := isGiven os "i"
      blocks := isGiven os "s", human := isGiven os "h", digits := isGiven os "n"
      owner := !isGiven os "g", group := !(has ["G", "o"]), quotes := isGiven os "Q"
      follows := isGiven os "L", directoriesFirst := isGiven os "first" }
  let now : Nat ← call .now
  let follow := !(l.directories || l.marks || l.layout = .long) || isGiven os "H"
  let names := if names = [] then ["."] else names
  let found ← names.mapM fun name => l.look follow name name
  if found.any (·.isNone) then setStatus 2
  let xs := l.sorted (found.filterMap id)
  let isListed (x : Listable) : Bool := x.facts.kind = .directory && !l.directories
  let files := xs.filter fun x => !isListed x
  let directories := (xs.filter isListed).map (·.name)
  (l.lines now files).forM fun line => put (line ++ "\n")
  let title := 1 < names.length || l.recursive
  l.directoryEach now title (files = []) directories

/-! ### What is known -/

/-- The bits that tell what kind of thing something is. -/
def kindBits : Kind → Nat
  | .directory => 0o040000
  | .regular => 0o100000
  | .link => 0o120000
  | .device => 0o020000
  | .fifo => 0o010000

/-- What a letter of a format stands for. -/
def statItem (name : String) (f : Facts) (target : Option String) (c : Char) : String :=
  let blocks := Listing.blocksOf f * 2
  let time := String.ofList
    (Calendar.format (Calendar.momentOf f.modified) "%Y-%m-%d %H:%M:%S.%N %z".toList)
  match c with
  | 'a' => String.ofList (Nat.toDigits 8 f.mode)
  | 'A' => Listing.kindLetter f.kind ++ Mode.spell f.mode
  | 'b' => toString blocks
  | 'B' => "512"
  | 'f' => String.ofList (Nat.toDigits 16 (kindBits f.kind + f.mode))
  | 'F' => f.kindWords
  | 'g' | 'u' => "0"
  | 'G' | 'U' => user
  | 'h' => toString f.links
  | 'i' => toString f.number
  | 'n' => name
  | 'N' => Quoting.always name ++
      (match target with
      | some t => " -> " ++ Quoting.always t
      | none => "")
  | 'o' => "4096"
  | 's' => toString f.size
  | 'w' => "-"
  | 'W' => "0"
  | 'x' | 'y' | 'z' => time
  | 'X' | 'Y' | 'Z' => toString (f.modified / 1000000000)
  | '%' => "%"
  | _ => "?"

/-- Writes what is known as a format asks. -/
def statFormat (escapes : Bool) (item : Char → String) : List Char → List Char
  | [] => []
  | '%' :: c :: cs => (item c).toList ++ statFormat escapes item cs
  | '\\' :: c :: cs =>
    if escapes then ((Escapes.letter? c).getD c) :: statFormat escapes item cs
    else '\\' :: statFormat escapes item (c :: cs)
  | c :: cs => c :: statFormat escapes item cs

/-- The usual format. -/
def statUsual : String :=
  "  File: %N\n  Size: %s\t\tBlocks: %b\tIO Block: %o   %F\n" ++
    "Device: 8,1\tInode: %i  Links: %h\n" ++
    "Access: (0%a/%A)  Uid: (    0/    root)   Gid: (    0/    root)\n" ++
    "Access: %x\nModify: %y\nChange: %z\n Birth: -\n"

/-- Writes what is known of files. -/
def stat : Program := program fun args => do
  let t := { OptionTable.ofLetters "Lfc:t" with
    words := [("dereference", .nothing, "L"), ("format", .argument, "c"),
      ("printf", .argument, "printf"), ("terse", .nothing, "t"), ("file-system", .nothing, "f")] }
  let (os, names) ← options t args
  if names = [] then missing t none
  names.forM fun name => do
    match ← call (.facts name (isGiven os "L")) with
    | .error e =>
      flush
      note ("cannot statx " ++ Quoting.always name ++ ": " ++ e.words)
    | .ok (f : Facts) =>
      let target : Except Errno String ← call (.readLink name)
      let item := statItem name f (if f.kind = .link then target.toOption else none)
      let text := match os.findRev? fun o => o.key = "c" || o.key = "printf" with
        | none => statFormat false item statUsual.toList
        | some o =>
          let format := (o.value.getD "").toList
          if o.key = "c" then statFormat false item format ++ ['\n']
          else statFormat true item format
      put (String.ofList text)

/-! ### Where links lead -/

/-- How much of a path has to be there. -/
inductive Existing where
  | all
  | directories
  | nothing
  deriving DecidableEq, Inhabited

/-- Follows the pieces of a path from a place on, through at most so many links. -/
def resolve (existing : Existing) (follow : Bool) :
    Nat → Nat → List String → List String → Tool (Except Errno (List String))
  | 0, _, _, _ => pure (.error .manyLinks)
  | _, _, done, [] => pure (.ok done)
  | n + 1, links, done, piece :: rest => do
    if piece = "" || piece = "." then resolve existing follow n links done rest
    else if piece = ".." then resolve existing follow n links done.dropLast rest
    else
      let path := "/" ++ "/".intercalate (done ++ [piece])
      match ← call (.facts path false) with
      | .error e =>
        let isLast := rest.all fun p => p = "" || p = "."
        let mayLack := existing = .nothing || (existing = .directories && isLast)
        if mayLack && (e = .noEntry || existing = .nothing) then
          resolve existing follow n links (done ++ [piece]) rest
        else return .error e
      | .ok (f : Facts) =>
        if f.kind = .link && follow then
          match links with
          | 0 => return .error .manyLinks
          | k + 1 =>
            match ← call (.readLink path) with
            | .error e => return .error e
            | .ok (target : String) =>
              resolve existing follow n k (if target.startsWith "/" then [] else done)
                (target.splitOn "/" ++ rest)
        else if f.kind ≠ .directory && f.kind ≠ .link && rest ≠ [] && existing ≠ .nothing then
          return .error .notDirectory
        else resolve existing follow n links (done ++ [piece]) rest

/-- The path from the root that a path leads to. -/
def resolved (existing : Existing) (follow : Bool) (path : String) :
    Tool (Except Errno (List String)) := do
  if path = "" then return .error .noEntry
  if path.startsWith "/" then resolve existing follow Act.manySteps 40 [] (path.splitOn "/")
  else
    match ← call .workingDirectory with
    | .error e => return .error e
    | .ok (here : String) =>
      let start := (here.splitOn "/").filter (· ≠ "")
      resolve existing follow Act.manySteps 40 start (path.splitOn "/")

/-- Writes where links lead. -/
def readlink : Program := program fun args => do
  let t := { OptionTable.ofLetters "efmnqsvz" with
    words := [("canonicalize", .nothing, "f"), ("canonicalize-existing", .nothing, "e"),
      ("canonicalize-missing", .nothing, "m"), ("no-newline", .nothing, "n"),
      ("quiet", .nothing, "q"), ("silent", .nothing, "q"), ("verbose", .nothing, "v"),
      ("zero", .nothing, "z")] }
  let (os, names) ← options t args
  if names = [] then missing t none
  let ending := if isGiven os "n" && names.length = 1 then "" else if isGiven os "z" then "\x00"
    else "\n"
  names.forM fun name => do
    let r : Except Errno String ← match lastOf? os ["e", "f", "m"] with
      | none => call (.readLink name)
      | some key =>
        let existing : Existing := if key = "e" then .all else if key = "f" then .directories
          else .nothing
        let r ← resolved existing true name
        pure (r.map fun p => "/" ++ "/".intercalate p)
    match r with
    | .ok path => put (path ++ ending)
    | .error e =>
      setStatus 1
      if isGiven os "v" then
        flush
        warn (Quoting.name name ++ ": " ++ e.words)

/-- Writes the paths from the root that paths lead to. -/
def realpath : Program := program fun args => do
  let t := { OptionTable.ofLetters "eLmPqsz" with
    words := [("canonicalize-existing", .nothing, "e"), ("canonicalize-missing", .nothing, "m"),
      ("quiet", .nothing, "q"), ("strip", .nothing, "s"), ("no-symlinks", .nothing, "s"),
      ("zero", .nothing, "z"), ("relative-to", .argument, "to"),
      ("relative-base", .argument, "base"), ("logical", .nothing, "L"),
      ("physical", .nothing, "P")] }
  let (os, names) ← options t args
  if names = [] then missing t none
  let existing : Existing := match lastOf? os ["e", "m"] with
    | some "e" => .all
    | some _ => .nothing
    | none => .directories
  let follow := !isGiven os "s"
  let base ← match valueOf? os "to" with
    | none => pure none
    | some d =>
      match ← resolved existing follow d with
      | .ok p => pure (some p)
      | .error e => fail 1 (Quoting.name d ++ ": " ++ e.words)
  names.forM fun name => do
    match ← resolved existing follow name with
    | .ok p =>
      let path := match base with
        | some b => relativePath b p
        | none => "/" ++ "/".intercalate p
      put (path ++ (if isGiven os "z" then "\x00" else "\n"))
    | .error e =>
      setStatus 1
      if !isGiven os "q" then
        flush
        warn (Quoting.name name ++ ": " ++ e.words)

/-- Writes where programs are. -/
def which : Program := program fun args => do
  let t := { OptionTable.ofLetters "as" with inOrder := true, status := 2 }
  let (os, names) ← options t args
  let search := Act.searchPath (← console).environment
  if names = [] then setStatus 1
  names.forM fun name => do
    let found ← (Act.candidates name search).mapM fun path => do
      let f ← act (Act.facts? path true)
      return if f.any fun f => f.kind = .regular && f.mode &&& 0o111 ≠ 0 then some path else none
    match found.filterMap id with
    | [] => setStatus 1
    | path :: rest =>
      if !isGiven os "s" then
        (path :: (if isGiven os "a" then rest else [])).forM fun p => put (p ++ "\n")

end Golden.Host.Tool
