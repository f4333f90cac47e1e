import Golden.Host.CharClass
import Golden.Host.Numbers
import Golden.Host.Tool.Copying

/-! # Tools that cut lines

Tools that take parts of lines (`cut`), put lines beside each other (`paste`), and change the width
of lines (`fold`, `expand`, `unexpand`). -/

namespace Golden.Host.Tool

/-- Goes through the lines of files, with a state. Tells which files cannot be read. -/
def eachLineOf {α : Type} (ending : Char) (f : α → Line → Tool α) : List String → α → Tool α
  | [], a => pure a
  | name :: rest, a => do
    match ← openInput name with
    | .error e =>
      flush
      note (Quoting.name name ++ ": " ++ e.words)
      eachLineOf ending f rest a
    | .ok d =>
      let (a, wrong) ← (Lines.ofDescriptor d ending).fold (fun a l => do return (← f a l, true))
        Act.manySteps a
      closeInput d
      match wrong with
      | some e =>
        flush
        note (Quoting.name name ++ ": " ++ e.words)
      | none => pure ()
      eachLineOf ending f rest a

/-- Changes each line of files. -/
def mapLines (ending : Char) (f : List Char → List Char) (names : List String) : Tool Unit :=
  eachLineOf ending (fun () l => do
    put (Line.spell ending { l with text := String.ofList (f l.text.toList) })) (inputs names) ()

/-! ### Parts of lines -/

/-- A range of numbers, of which the last may be missing. -/
structure Range where
  first : Nat
  last : Option Nat
  deriving DecidableEq, Inhabited

namespace Range

/-- Whether a number lies in a range. -/
def holds (r : Range) (n : Nat) : Bool := r.first ≤ n && r.last.all (n ≤ ·)

/-- Why a text is no range. -/
inductive Mistake where
  | zero
  | noEnd
  | decreasing
  | invalid (text : String)
  deriving DecidableEq, Inhabited

/-- A number of a range. -/
def numberOf (s : String) : Except Mistake (Option Nat) :=
  if s = "" then .ok none
  else if s.toList.all Char.isDigit then .ok (some (Numbers.ofDigits 10 s.toList))
  else .error (.invalid s)

/-- A range that a text stands for. -/
def ofText (s : String) : Except Mistake Range := do
  match s.splitOn "-" with
  | [one] =>
    match ← numberOf one with
    | none | some 0 => throw .zero
    | some n => return ⟨n, some n⟩
  | [a, b] =>
    let first ← numberOf a
    let last ← numberOf b
    if first = none && last = none then throw .noEnd
    if first = some 0 then throw .zero
    if last = some 0 && first = none then throw .zero
    let lower := first.getD 1
    if last.any (· < lower) then throw .decreasing
    return ⟨lower, last⟩
  | _ => throw (.invalid s)

end Range

/-- Whether a range begins at a number that is held. -/
def beginsAt (rs : List Range) (n : Nat) : Bool := rs.any (·.first = n)

/-- Which parts are taken, and how they are put together. -/
structure Cut where
  ranges : List Range
  /-- All other parts are taken. -/
  others : Bool
  delimiter : Char
  /-- Stands between the parts. -/
  separator : Option String
  /-- Lines without a delimiter are dropped. -/
  onlyDelimited : Bool
  ending : Char
  deriving DecidableEq, Inhabited

namespace Cut

/-- Whether a part is taken. -/
def takes (c : Cut) (n : Nat) : Bool := c.ranges.any (·.holds n) != c.others

/-- The octets of a line that are taken, from the one with a number on. A separator stands between
those that do not follow one another. -/
def octets (c : Cut) : Nat → Option Nat → List Char → List Char
  | _, _, [] => []
  | n, before, x :: rest =>
    if c.takes n then
      let isNew := before.isSome &&
        (before ≠ some (n - 1) || (!c.others && beginsAt c.ranges n))
      (if isNew then (c.separator.getD "").toList else []) ++ x :: c.octets (n + 1) (some n) rest
    else c.octets (n + 1) before rest

/-- The fields of a line that are taken. -/
def fields (c : Cut) (line : List Char) : Option (List Char) :=
  if !line.contains c.delimiter then if c.onlyDelimited then none else some line
  else
    let parts := ((String.ofList line).splitToList (· = c.delimiter)).zipIdx 1
    let taken := (parts.filter fun p => c.takes p.2).map Prod.fst
    some ((c.separator.getD (String.singleton c.delimiter)).intercalate taken).toList

end Cut

/-- The options of `cut`. -/
def cutOptions : OptionTable :=
  { OptionTable.ofLetters "b:c:d:f:nsz" with
    words := [("bytes", .argument, "b"), ("characters", .argument, "c"),
      ("delimiter", .argument, "d"), ("fields", .argument, "f"), ("only-delimited", .nothing, "s"),
      ("complement", .nothing, "complement"), ("output-delimiter", .argument, "output"),
      ("zero-terminated", .nothing, "z")] }

/-- The ranges that a list stands for. -/
def rangesOf (byFields : Bool) (text : String) : Tool (List Range) := do
  let pieces := text.splitToList fun c => c = ',' || c = ' ' || c = '\t'
  let what := if byFields then "field" else "byte/character position"
  pieces.mapM fun p => do
    match Range.ofText p with
    | .ok r => return r
    | .error .zero =>
      misuse cutOptions (if byFields then "fields are numbered from 1"
        else "byte/character positions are numbered from 1")
    | .error .noEnd => misuse cutOptions "invalid range with no endpoint: -"
    | .error .decreasing => misuse cutOptions "invalid decreasing range"
    | .error (.invalid t) =>
      misuse cutOptions
        ((if byFields then "invalid field value " else "invalid byte/character position ") ++
          Quoting.escaped (if t = "" then what else t))

/-- Writes parts of lines. -/
def cut : Program := program fun args => do
  let (os, names) ← options cutOptions args
  let lists := os.filter fun o => ["b", "c", "f"].contains o.key
  match lists with
  | [] => misuse cutOptions "you must specify a list of bytes, characters, or fields"
  | _ :: _ :: _ => misuse cutOptions "only one list may be specified"
  | [o] =>
    let byFields := o.key = "f"
    let delimiter ← match valueOf? os "d" with
      | none => pure '\t'
      | some d =>
        match d.toList with
        | [] => pure '\x00'
        | [c] => pure c
        | _ => misuse cutOptions "the delimiter must be a single character"
    if !byFields && (valueOf? os "d").isSome then
      misuse cutOptions "an input delimiter may be specified only when operating on fields"
    if !byFields && isGiven os "s" then
      misuse cutOptions
        "suppressing non-delimited lines makes sense\n\tonly when operating on fields"
    let ranges ← rangesOf byFields (o.value.getD "")
    let c : Cut :=
      ⟨ranges, isGiven os "complement", delimiter, valueOf? os "output", isGiven os "s",
        if isGiven os "z" then '\x00' else '\n'⟩
    eachLineOf c.ending (fun () l => do
      let cs := l.text.toList
      let taken := if byFields then c.fields cs else some (c.octets 1 none cs)
      match taken with
      | some cs => put ((String.ofList cs).push c.ending)
      | none => pure ()) (inputs names) ()

/-! ### Lines beside each other -/

/-- The delimiters that a text stands for. -/
def delimitersOf : List Char → List String
  | [] => []
  | '\\' :: c :: cs =>
    (match c with
    | '0' => ""
    | 'b' => "\x08"
    | 'f' => "\x0c"
    | 'n' => "\n"
    | 'r' => "\x0d"
    | 't' => "\t"
    | 'v' => "\x0b"
    | c => String.singleton c) :: delimitersOf cs
  | c :: cs => String.singleton c :: delimitersOf cs

/-- A delimiter by its number. -/
def delimiter (ds : List String) (n : Nat) : String := (ds[n % max 1 ds.length]?).getD ""

/-- Texts with delimiters between them. -/
def joinWith (ds : List String) : Nat → List String → String
  | _, [] => ""
  | _, [s] => s
  | n, s :: rest => s ++ delimiter ds n ++ joinWith ds (n + 1) rest

/-- The next line for each column, if there is one. A column has the name of its file and the
descriptor that it is read from, and columns with the same descriptor are read in turns. -/
def nextOfAll : List (String × Nat) → List (Nat × Lines) →
    Tool (List (Option String) × List (Nat × Lines))
  | [], files => pure ([], files)
  | (name, d) :: columns, files => do
    let (r, rest) ← ((files.lookup d).getD default).next
    let text ← match r with
      | .ok line => pure (line.map (·.text))
      | .error e => do
        note (Quoting.name name ++ ": " ++ e.words)
        pure none
    let (texts, files) ← nextOfAll columns (files.map fun f => if f.1 = d then (d, rest) else f)
    return (text :: texts, files)

/-- Writes lines beside each other. -/
def pasteLines (delimiters : List String) (ending : Char) (columns : List (String × Nat)) :
    Nat → List (Nat × Lines) → Tool Unit
  | 0, _ => pure ()
  | n + 1, files => do
    let (texts, files) ← nextOfAll columns files
    if texts.all (·.isNone) then return ()
    put ((joinWith delimiters 0 (texts.map fun t => t.getD "")).push ending)
    pasteLines delimiters ending columns n files

/-- Writes the lines of files beside each other, or those of each file one behind the other. -/
def paste : Program := program fun args => do
  let t := { OptionTable.ofLetters "d:sz" with
    words := [("delimiters", .argument, "d"), ("serial", .nothing, "s"),
      ("zero-terminated", .nothing, "z")] }
  let (os, names) ← options t args
  let ending := if isGiven os "z" then '\x00' else '\n'
  let ds := delimitersOf ((valueOf? os "d").getD "\t").toList
  let ds := if ds = [] then [""] else ds
  if isGiven os "s" then
    (inputs names).forM fun name => do
      match ← openInput name with
      | .error e => note (Quoting.name name ++ ": " ++ e.words)
      | .ok d =>
        let text ← match ← act (Act.readAll d) with
          | .ok text => pure text
          | .error e => do
            note (Quoting.name name ++ ": " ++ e.words)
            pure ""
        closeInput d
        put ((joinWith ds 0 ((Line.ofText ending text).map (·.text))).push ending)
  else
    let columns ← (inputs names).mapM fun name => do
      match ← openInput name with
      | .error e => fail 1 (Quoting.name name ++ ": " ++ e.words)
      | .ok d => return (name, d)
    pasteLines ds ending columns Act.manySteps
      (columns.map fun c => (c.2, .ofDescriptor c.2 ending))

/-! ### Widths -/

/-- The column behind a character. -/
def columnAfter (octets : Bool) (column : Nat) (c : Char) : Nat :=
  if octets then column + 1
  else if c = '\x08' then column - 1
  else if c = '\x0d' then 0
  else if c = '\t' then (column / 8 + 1) * 8
  else column + 1

/-- The column behind characters. -/
def columnOf (octets : Bool) (cs : List Char) : Nat := cs.foldl (columnAfter octets) 0

/-- Folds a line. `held` are the characters of the row that is being filled, from the last on. -/
def foldLine (octets blanks : Bool) (width : Nat) : Nat → List Char → Nat → List Char → List Char
  | 0, held, _, _ => held.reverse
  | _, held, _, [] => held.reverse
  | n + 1, held, column, c :: cs =>
    let next := columnAfter octets column c
    if next ≤ width || held = [] && width < next && column = 0 then
      foldLine octets blanks width n (c :: held) next cs
    else
      let rest := held.takeWhile fun d => !CharClass.isBlank d
      let front := held.drop rest.length
      if blanks && front ≠ [] then
        front.reverse ++ '\n' ::
          foldLine octets blanks width n rest (columnOf octets rest.reverse) (c :: cs)
      else if held = [] then foldLine octets blanks width n [c] next cs
      else held.reverse ++ '\n' :: foldLine octets blanks width n [] 0 (c :: cs)

/-- Writes lines in rows of a width. -/
def fold : Program := program fun args => do
  let args := match args with
    | a :: rest =>
      let ds := a.toList.drop 1
      if a.startsWith "-" && ds ≠ [] && ds.all Char.isDigit then
        "-w" :: String.ofList ds :: rest
      else args
    | [] => []
  let t := { OptionTable.ofLetters "bsw:" with
    words := [("bytes", .nothing, "b"), ("spaces", .nothing, "s"), ("width", .argument, "w")] }
  let (os, names) ← options t args
  let width ← match valueOf? os "w" with
    | none => pure 80
    | some w =>
      match Numbers.whole? (some 10) w with
      | some n =>
        if 0 < n then pure n.toNat
        else fail 1 ("invalid number of columns: " ++ Quoting.escaped w)
      | none => fail 1 ("invalid number of columns: " ++ Quoting.escaped w)
  let octets := isGiven os "b"
  mapLines '\n' (fun cs => foldLine octets (isGiven os "s") width (2 * cs.length + 2) [] 0 cs) names

/-- Where tabs lead: to columns of a list, and behind these to every so-manieth one. -/
structure TabStops where
  stops : List Nat
  step : Option Nat
  /-- The columns behind the list are counted from its end. -/
  fromLast : Bool
  deriving DecidableEq, Inhabited

/-- The column that a tab leads to. -/
def TabStops.next (t : TabStops) (column : Nat) : Option Nat :=
  match t.stops.find? (column < ·) with
  | some s => some s
  | none =>
    t.step.map fun n =>
      let base := if t.fromLast then t.stops.getLast?.getD 0 else 0
      base + ((column - base) / n + 1) * n

/-- Tab stops that a text stands for. -/
def tabStopsOf (text : String) : Tool TabStops := do
  let pieces := (text.splitToList fun c => c = ',' || c = ' ' || c = '\t').filter (· ≠ "")
  let number (s : String) : Tool Nat := do
    let bad := s.toList.dropWhile Char.isDigit
    if bad ≠ [] then
      fail 1 ("tab size contains invalid character(s): " ++ Quoting.escaped (String.ofList bad))
    return Numbers.ofDigits 10 s.toList
  let plain := pieces.filter fun p => !p.startsWith "/" && !p.startsWith "+"
  let stops ← plain.mapM number
  let last := pieces.getLast?.getD ""
  if stops.contains 0 then fail 1 "tab size cannot be 0"
  if !(stops.zip stops.tail).all fun p => p.1 < p.2 then fail 1 "tab sizes must be ascending"
  if last.startsWith "/" || last.startsWith "+" then
    let n ← number (last.drop 1).toString
    return ⟨stops, some n, last.startsWith "+"⟩
  match stops with
  | [] => return ⟨[], some 8, false⟩
  | [n] => return ⟨[], some n, false⟩
  | _ => return ⟨stops, none, false⟩

/-- Puts blanks in the place of tabs. -/
def expandLine (t : TabStops) (onlyFirst : Bool) : Nat → Bool → List Char → List Char
  | _, _, [] => []
  | column, isStart, c :: cs =>
    if c = '\t' && (isStart || !onlyFirst) then
      let next := (t.next column).getD (column + 1)
      List.replicate (next - column) ' ' ++ expandLine t onlyFirst next isStart cs
    else
      let next := if c = '\x08' then column - 1 else column + 1
      c :: expandLine t onlyFirst next (isStart && (c = ' ' || c = '\t')) cs

/-- The options of `expand` and `unexpand`. -/
def tabOptions (letters : String) (words : List (String × Takes × String)) : OptionTable :=
  { OptionTable.ofLetters (letters ++ "t:0::1::2::3::4::5::6::7::8::9::") with
    words := ("tabs", .argument, "t") :: words }

/-- The tab stops that options tell. -/
def tabsOf (os : List Opt) : Tool TabStops := do
  let one (o : Opt) : Option String :=
    if o.key = "t" then o.value
    else if o.key.toList.all Char.isDigit then some (o.key ++ o.value.getD "")
    else none
  tabStopsOf (",".intercalate (os.filterMap one))

/-- Writes files with blanks in the place of tabs. -/
def expand : Program := program fun args => do
  let (os, names) ← options (tabOptions "i" [("initial", .nothing, "i")]) args
  let t ← tabsOf os
  mapLines '\n' (expandLine t (isGiven os "i") 0 true) names

/-- Puts tabs in the place of blanks. `held` is the number of blanks just before, and `start` their
first column. -/
def unexpandLine (t : TabStops) (everywhere : Bool) :
    Nat → List Char → Nat → Bool → List Char → List Char
  | _, held, _, _, [] => held
  | column, held, start, isStart, c :: cs =>
    if (isStart || everywhere) && (c = ' ' || c = '\t') then
      match t.next column with
      | none => held ++ c :: unexpandLine t false (column + 1) [] 0 false cs
      | some stop =>
        let next := if c = '\t' then stop else column + 1
        if c = '\t' then
          let tabs := (held.filter (· = '\t')) ++ ['\t']
          tabs ++ unexpandLine t everywhere next [] next isStart cs
        else if next = stop then
          -- A single blank in front of a stop stays a blank unless more follow.
          if held = [] && cs.head? ≠ some ' ' && cs.head? ≠ some '\t' && !isStart then
            ' ' :: unexpandLine t everywhere next [] next isStart cs
          else '\t' :: unexpandLine t everywhere next [] next isStart cs
        else unexpandLine t everywhere next (held ++ [c]) start isStart cs
    else
      let next := if c = '\x08' then column - 1 else column + 1
      held ++ c :: unexpandLine t everywhere next [] next false cs

/-- Writes files with tabs in the place of blanks. -/
def unexpand : Program := program fun args => do
  let (os, names) ← options
    (tabOptions "a" [("all", .nothing, "a"), ("first-only", .nothing, "first")]) args
  let t ← tabsOf os
  let everywhere := (isGiven os "a" || isGiven os "t") && !isGiven os "first"
  mapLines '\n' (unexpandLine t everywhere 0 [] 0 true) names

end Golden.Host.Tool
