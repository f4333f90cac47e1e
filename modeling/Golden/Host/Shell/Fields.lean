import Golden.Host.Act
import Golden.Host.Shell.Pattern
import Golden.Host.Shell.Variables

/-! # Fields

An expanded word is a list of glyphs: letters, some of which are quoted, and signs where quotes have
been. Regions of it come from what was put into the word: there the word is cut into fields at
separators (`splitFields`). A field that is a pattern stands for the paths that it accepts. -/

namespace Golden.Host.Shell

/-- A part of an expanded word. -/
inductive Glyph where
  | letter (l : Letter)
  | quote
  deriving DecidableEq, Inhabited

/-- A part of an expanded word that may be cut into fields: at separators, or only at the ends of
arguments if `onlyEnds`. -/
structure Region where
  first : Nat
  last : Nat
  onlyEnds : Bool
  deriving DecidableEq, Inhabited

/-- A word that is being expanded. -/
structure Expanded where
  glyphs : Array Glyph
  regions : Array Region
  deriving Inhabited

namespace Glyph

/-- Stands between arguments. -/
def separator : Char := '\x00'

/-- The letter of a glyph. -/
def letter? : Glyph → Option Letter
  | .letter l => some l
  | .quote => none

/-- The glyphs of a text. -/
def ofText (quoted : Bool) (s : String) : List Glyph := s.toList.map fun c => .letter ⟨c, quoted⟩

/-- The text of glyphs. -/
def text (gs : List Glyph) : String := String.ofList ((gs.filterMap letter?).map Letter.char)

/-- The letters of glyphs. -/
def letters (gs : List Glyph) : List Letter := gs.filterMap letter?

end Glyph

namespace Expanded

/-- A word without anything in it. -/
def empty : Expanded := ⟨#[], #[]⟩

/-- Adds glyphs. -/
def add (e : Expanded) (gs : List Glyph) : Expanded :=
  { e with glyphs := gs.foldl Array.push e.glyphs }

/-- Adds a region that goes up to the end. -/
def region (e : Expanded) (first : Nat) (onlyEnds : Bool) : Expanded :=
  { e with regions := e.regions.push ⟨first, e.glyphs.size, onlyEnds⟩ }

/-- The glyphs from a place on. -/
def since (e : Expanded) (n : Nat) : List Glyph := e.glyphs.toList.drop n

/-- Drops the glyphs and regions from a place on. -/
def cutAt (e : Expanded) (n : Nat) : Expanded :=
  ⟨e.glyphs.take n, e.regions.filter (·.first < n)⟩

end Expanded

/-! ### Splitting -/

/-- The state of cutting a word into fields: where the present field begins, the fields before it,
and what has just been met. -/
structure Cutting where
  start : Nat
  fields : Array (List Glyph)
  /-- A blank has ended a field, so that more blanks and one other separator end the same. -/
  atBlank : Bool
  /-- The number of fields that may still be cut off. -/
  limit : Option Nat
  /-- Where blanks at the end of the last field begin. -/
  tail : Option Nat

/-- Where a field ends. -/
def Cutting.cut (gs : Array Glyph) (c : Cutting) (last next : Nat) : Cutting :=
  { c with
    fields := c.fields.push (gs.toList.drop c.start |>.take (last - c.start))
    start := next }

/-- Looks at a glyph of a region. -/
def Cutting.step (gs : Array Glyph) (separators : String) (afterEnds onlyEnds : Bool) (i : Nat)
    (c : Cutting) : Cutting :=
  match gs[i]? with
  | some (.letter l) =>
    let isEnd := l.char = Glyph.separator
    let separates := isEnd || (!onlyEnds && separators.contains l.char)
    let isBlank := separates && (isEnd || usualSeparators.contains l.char)
    if c.limit = some 0 then
      if isBlank then { c with tail := some (c.tail.getD i) }
      else
        let tail := if separates && c.atBlank then c.tail else none
        { c with tail, atBlank := false }
    else
      let next := i + 1
      let go (c : Cutting) (separates : Bool) : Cutting :=
        if !separates then { c with atBlank := false }
        else
          let c := { c with atBlank := if afterEnds || onlyEnds then c.atBlank else isBlank }
          if i = c.start && c.atBlank then { c with start := next, atBlank := false }
          else
            match c.limit with
            | some 1 => { c with limit := some 0, tail := some i }
            | some (n + 2) => { c.cut gs i next with limit := some (n + 1) }
            | _ => c.cut gs i next
      if c.atBlank then
        let c := { c with start := if separates then next else i }
        if isBlank then c else go c false
      else go c separates
  | _ => { c with atBlank := false }

/-- Cuts a word into fields, at most `limit` of them if there is a limit. -/
def splitFields (e : Expanded) (separators : String) (limit : Option Nat) : List (List Glyph) :=
  let fresh : Cutting := ⟨0, #[], false, limit, none⟩
  let (c, onlyEnds) := e.regions.foldl
    (fun (c, before) (r : Region) =>
      let c := { c with atBlank := false }
      ((List.range' r.first (r.last - r.first)).foldl
        (fun c i => c.step e.glyphs separators before r.onlyEnds i) c, r.onlyEnds))
    (fresh, false)
  let last := match c.tail with
    | some n => (e.glyphs.toList.take n).drop c.start
    | none => e.glyphs.toList.drop c.start
  if onlyEnds || last ≠ [] then (c.fields.push last).toList else c.fields.toList

/-! ### Paths -/

/-- The text of letters. -/
def lettersText (ls : List Letter) : String := String.ofList (ls.map Letter.char)

/-- Whether letters may stand for other texts than their own. -/
def isPattern (ls : List Letter) : Bool :=
  (Pattern.compile ls).any fun i =>
    match i with
    | .char _ => false
    | _ => true

/-- The text that a piece of a path stands for, if it stands for itself. -/
def pieceText (ls : List Letter) : String := lettersText (Pattern.settle ls)

/-- The paths that pieces stand for, behind a text. -/
def pathsOfPieces : String → Bool → List (List Letter) → Act (List String)
  | _, _, [] => pure []
  | front, found, p :: rest =>
    if !isPattern p then
      let front := front ++ pieceText p
      match rest with
      | [] => do
        if !found then return []
        let there ← Act.facts? front false
        return if there.isSome then [front] else []
      | _ => pathsOfPieces (front ++ "/") found rest
    else do
      let directory := if front = "" then "." else front
      match ← Act.call (.list directory) with
      | .error _ => return []
      | .ok (names : List String) =>
        let items := Pattern.compile p
        let dots := (Pattern.settle p).head?.map Letter.char = some '.'
        let names := (if dots then ["." , ".."] else []) ++ names
        let names := names.filter fun n =>
          (dots || !n.startsWith ".") && Pattern.accepts items n.toList
        match rest with
        | [] => return names.map (front ++ ·)
        | _ => names.flatMapM fun n => pathsOfPieces (front ++ n ++ "/") true rest

/-- Texts in the order of their octets. -/
def sorted (texts : List String) : List String := texts.mergeSort fun a b => !(b < a)

/-- The texts that a field stands for. -/
def textsOfField (gs : List Glyph) : Act (List String) := do
  let ls := Glyph.letters gs
  if ls.any fun l => !l.isQuoted && (l.char = '*' || l.char = '?' || l.char = '[') then
    match ← pathsOfPieces "" false (ls.splitOnP fun l => l.char = '/') with
    | [] => return [Glyph.text gs]
    | paths => return sorted paths
  else return [Glyph.text gs]

end Golden.Host.Shell
