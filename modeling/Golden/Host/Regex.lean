import Golden.Host.CharClass

/-! # Regular expressions

A regular expression leads from places in a text to the places at which it can have been matched.
All places are looked at together: from a set of places one gets the set of places behind them
(`Regex.ends`), and back (`Regex.starts`). So the leftmost match is found, and the longest of
those that begin there; then it is told how the parts of the expression have matched
(`Regex.captures`), where parts further left are as long as they can be. Expressions that refer to
what one of their parts has matched are tried in all ways instead (`Regex.search`). -/

namespace Golden.Host

/-- What holds at a place between characters. -/
inductive Assertion where
  | start
  | stop
  | lineStart
  | lineStop
  | wordStart
  | wordStop
  | wordEdge
  | noWordEdge
  | noWordBefore
  | noWordBehind
  deriving DecidableEq, Inhabited

/-- A regular expression. -/
inductive Regex where
  | empty
  | letter (p : Char → Bool)
  | assertion (a : Assertion)
  | group (n : Nat) (r : Regex)
  | seq (a b : Regex)
  | alt (a b : Regex)
  | repeated (r : Regex) (least : Nat) (most : Option Nat)
  /-- What a group has matched. -/
  | back (n : Nat)
  deriving Inhabited

/-- Where groups have matched, by their numbers. The whole expression is group zero. -/
abbrev Captures : Type := Array (Option (Nat × Nat))

/-- A set of places in a text. -/
abbrev Places : Type := Array Bool

namespace Places

/-- No places in a text of a length. -/
def none (n : Nat) : Places := Array.replicate (n + 1) false

/-- All places in a text of a length. -/
def all (n : Nat) : Places := Array.replicate (n + 1) true

/-- A single place. -/
def single (n i : Nat) : Places := (none n).setIfInBounds i true

/-- Whether a place is in a set. -/
def has (s : Places) (i : Nat) : Bool := s[i]?.getD false

/-- The places of two sets. -/
def union (s t : Places) : Places := s.zipWith (· || ·) t

/-- The places of a set that are not in another. -/
def minus (s t : Places) : Places := s.zipWith (fun a b => a && !b) t

/-- Whether a set has no places. -/
def isNone (s : Places) : Bool := !s.any id

/-- The first place of a set from a place on. -/
def first? (s : Places) (i : Nat) : Option Nat :=
  (List.range' i (s.size - i)).find? s.has

/-- The last place of a set up to a place. -/
def last? (s : Places) : Nat → Option Nat
  | 0 => if s.has 0 then some 0 else Option.none
  | i + 1 => if s.has (i + 1) then some (i + 1) else s.last? i

/-- The places that are led to from a set in any number of steps, at most `n`. -/
def closure (f : Places → Places) : Nat → Places → Places → Places
  | 0, done, _ => done
  | n + 1, done, fresh =>
    let next := (f fresh).minus done
    if next.isNone then done else closure f n (done.union next) next

/-- The places that are led to from a set in a number of steps. -/
def steps (f : Places → Places) : Nat → Places → Places
  | 0, s => s
  | n + 1, s => if s.isNone then s else steps f n (f s)

end Places

namespace Regex

/-- Whether an assertion holds at a place. -/
def Assertion.holds (a : Assertion) (t : Array Char) (i : Nat) : Bool :=
  let before := 0 < i && (t[i - 1]?).any CharClass.isNameChar
  let after := (t[i]?).any CharClass.isNameChar
  match a with
  | .start => i = 0
  | .stop => i = t.size
  | .lineStart => i = 0 || t[i - 1]? = some '\n'
  | .lineStop => i = t.size || t[i]? = some '\n'
  | .wordStart => !before && after
  | .wordStop => before && !after
  | .wordEdge => before != after
  | .noWordEdge => before == after
  | .noWordBefore => !before
  | .noWordBehind => !after

/-- The places of a set at which an assertion holds. -/
def Assertion.filter (a : Assertion) (t : Array Char) (s : Places) : Places :=
  s.mapIdx fun i b => b && Assertion.holds a t i

/-- The places behind a letter. -/
def stepOn (t : Array Char) (p : Char → Bool) (s : Places) : Places :=
  s.mapIdx fun i _ => 0 < i && s.has (i - 1) && (t[i - 1]?).any p

/-- The places in front of a letter. -/
def stepBack (t : Array Char) (p : Char → Bool) (s : Places) : Places :=
  s.mapIdx fun i _ => s.has (i + 1) && (t[i]?).any p

/-- The places behind any number of letters. -/
def runOn (t : Array Char) (p : Char → Bool) (s : Places) : Places :=
  (s.foldl (fun (r : Places × Bool) b =>
    let i := r.1.size
    let on := b || (r.2 && (t[i - 1]?).any p)
    (r.1.push on, on)) (#[], false)).1

/-- The places in front of any number of letters. -/
def runBack (t : Array Char) (p : Char → Bool) (s : Places) : Places :=
  let n := s.size
  ((s.foldr (fun b (r : Places × Bool) =>
    let i := n - 1 - r.1.size
    let on := b || (r.2 && (t[i]?).any p)
    (r.1.push on, on)) (#[], false)).1).reverse

/-- The places that are led to in a number of steps between two bounds. -/
def repeatSteps (f : Places → Places) (least : Nat) (most : Option Nat) (s : Places) : Places :=
  let base := Places.steps f least s
  match most with
  | none => Places.closure f s.size base base
  | some m => Places.closure f (m - least) base base

/-- The places behind an expression. -/
def ends (t : Array Char) : Regex → Places → Places
  | empty => id
  | letter p => stepOn t p
  | assertion a => Assertion.filter a t
  | group _ r => ends t r
  | seq a b => fun s => ends t b (ends t a s)
  | alt a b => fun s => (ends t a s).union (ends t b s)
  | repeated (letter p) 0 none => runOn t p
  | repeated r least most => repeatSteps (ends t r) least most
  | back _ => runOn t fun _ => true

/-- The places in front of an expression. -/
def starts (t : Array Char) : Regex → Places → Places
  | empty => id
  | letter p => stepBack t p
  | assertion a => Assertion.filter a t
  | group _ r => starts t r
  | seq a b => fun s => starts t a (starts t b s)
  | alt a b => fun s => (starts t a s).union (starts t b s)
  | repeated (letter p) 0 none => runBack t p
  | repeated r least most => repeatSteps (starts t r) least most
  | back _ => runBack t fun _ => true

/-! ### How parts have matched -/

/-- Goes through the rounds of a repetition between two places, at most `n`. Each round is as long
as it can be. -/
def captureRounds (on : Places → Places) (reaches : Nat → Option Nat → Nat → Bool)
    (inner : Nat → Nat → Captures → Captures) (size stop : Nat) :
    Nat → Nat → Nat → Option Nat → Captures → Captures
  | 0, _, _, _, c => c
  | n + 1, i, least, most, c =>
    if least = 0 && i = stop then c
    else
      let fewer := most.map (· - 1)
      let places : Places := (on (Places.single size i)).mapIdx fun k b =>
        b && (i < k || 0 < least) && reaches (least - 1) fewer k
      match Places.last? places stop with
      | none => c
      | some k => captureRounds on reaches inner size stop n k (least - 1) fewer (inner i k c)

/-- Notes how the groups of an expression have matched between two places. -/
def captures (t : Array Char) : Regex → Nat → Nat → Captures → Captures
  | group n r, i, k, c => captures t r i k (c.setIfInBounds n (some (i, k)))
  | seq a b, i, k, c =>
    let front := ends t a (Places.single t.size i)
    let rest := starts t b (Places.single t.size k)
    match Places.last? (front.zipWith (· && ·) rest) t.size with
    | none => c
    | some j => captures t b j k (captures t a i j c)
  | alt a b, i, k, c =>
    if (ends t a (Places.single t.size i)).has k then captures t a i k c else captures t b i k c
  | repeated r least most, i, k, c =>
    captureRounds (ends t r)
      (fun least most j => (repeatSteps (ends t r) least most (Places.single t.size j)).has k)
      (captures t r) t.size k (t.size + least + 1) i least most c
  | _, _, _, c => c

/-! ### Trying all ways -/

/-- The better of two results: that which ends further behind. -/
def better (a b : Option (Nat × Captures)) : Option (Nat × Captures) :=
  match a, b with
  | none, b => b
  | a, none => a
  | some x, some y => if x.1 < y.1 then some y else some x

/-- What goes on behind a part that has matched. -/
abbrev Onward : Type := Nat → Captures → Option (Nat × Captures)

/-- Tries all numbers of rounds of a repetition, at most `n`. -/
def tryRounds (round : Nat → Captures → Onward → Option (Nat × Captures)) (next : Onward) :
    Nat → Nat → Option Nat → Nat → Captures → Option (Nat × Captures)
  | 0, _, _, _, _ => none
  | n + 1, least, most, i, c =>
    let more := if most = some 0 then none
      else round i c fun k c =>
        if k = i && least = 0 then none
        else tryRounds round next n (least - 1) (most.map (· - 1)) k c
    better more (if least = 0 then next i c else none)

/-- Tries all ways to match an expression from a place on. -/
def search (t : Array Char) (fold : Char → Char) :
    Regex → Nat → Captures → Onward → Option (Nat × Captures)
  | empty, i, c, next => next i c
  | letter p, i, c, next => if (t[i]?).any p then next (i + 1) c else none
  | assertion a, i, c, next => if Assertion.holds a t i then next i c else none
  | group n r, i, c, next =>
    search t fold r i c fun k c => next k (c.setIfInBounds n (some (i, k)))
  | seq a b, i, c, next => search t fold a i c fun k c => search t fold b k c next
  | alt a b, i, c, next => better (search t fold a i c next) (search t fold b i c next)
  | repeated r least most, i, c, next =>
    tryRounds (search t fold r) next (t.size + least + 1) least most i c
  | back n, i, c, next =>
    match c.getD n none with
    | none => none
    | some (a, b) =>
      let isSame := (List.range (b - a)).all fun k =>
        (t[a + k]?).map fold = (t[i + k]?).map fold && (t[i + k]?).isSome
      if isSame then next (i + (b - a)) c else none

/-! ### Finding -/

/-- Whether an expression refers to what a group has matched. -/
def hasBack : Regex → Bool
  | group _ r | repeated r _ _ => r.hasBack
  | seq a b | alt a b => a.hasBack || b.hasBack
  | back _ => true
  | _ => false

end Regex

/-- An expression that can be looked for: with the number of its groups. -/
structure Matcher where
  regex : Regex
  groups : Nat
  /-- Large and small letters are the same. -/
  ignoresCase : Bool
  deriving Inhabited

namespace Matcher

/-- No group has matched. -/
def blank (m : Matcher) : Captures := Array.replicate (m.groups + 1) none

/-- The leftmost match that is searched for in all ways. -/
def searchFrom (m : Matcher) (t : Array Char) : Nat → Nat → Option Captures
  | 0, _ => none
  | n + 1, i =>
    let fold : Char → Char := if m.ignoresCase then Char.toLower else id
    match Regex.search t fold m.regex i m.blank fun k c => some (k, c) with
    | some (k, c) => some (c.setIfInBounds 0 (some (i, k)))
    | none => if i < t.size then searchFrom m t n (i + 1) else none

/-- The places at which matches begin. -/
def begins (m : Matcher) (t : Array Char) : Places := Regex.starts t m.regex (Places.all t.size)

/-- The leftmost match from a place on, and the longest of those. -/
def find? (m : Matcher) (t : Array Char) (start : Nat) : Option Captures :=
  if m.regex.hasBack then
    match (m.begins t).first? start with
    | none => none
    | some i => m.searchFrom t (t.size + 1) i
  else
    match (m.begins t).first? start with
    | none => none
    | some i =>
      match (Regex.ends t m.regex (Places.single t.size i)).last? t.size with
      | none => none
      | some k =>
        let c := m.blank.setIfInBounds 0 (some (i, k))
        some (if m.groups = 0 then c else Regex.captures t m.regex i k c)

/-- Whether there is a match anywhere. -/
def accepts (m : Matcher) (t : Array Char) : Bool :=
  if m.regex.hasBack then (m.find? t 0).isSome else !(m.begins t).isNone

/-- The same expression as a whole word. -/
def wholeWord (m : Matcher) : Matcher :=
  { m with regex := .seq (.assertion .noWordBefore) (.seq m.regex (.assertion .noWordBehind)) }

/-- The same expression as a whole text. -/
def wholeText (m : Matcher) : Matcher :=
  { m with regex := .seq (.assertion .start) (.seq m.regex (.assertion .stop)) }

/-- A text that stands for itself. -/
def literal (ignoresCase : Bool) (s : String) : Matcher :=
  let one (c : Char) : Regex :=
    if ignoresCase then .letter fun x => x.toLower = c.toLower else .letter (· = c)
  ⟨s.toList.foldr (fun c r => .seq (one c) r) .empty, 0, ignoresCase⟩

/-- The part of a text between two places. -/
def part (t : Array Char) (i k : Nat) : String := String.ofList (t.extract i k).toList

/-- All matches that do not overlap, from a place on. Behind a match that is empty the search goes
on one character further, and no empty match ends where another one did. -/
def matchesFrom (m : Matcher) (t : Array Char) : Nat → Nat → Option Nat → List Captures
  | 0, _, _ => []
  | n + 1, i, before =>
    match m.find? t i with
    | none => []
    | some c =>
      match c.getD 0 none with
      | none => []
      | some (a, b) =>
        if a = b then
          let rest := if a < t.size then matchesFrom m t n (a + 1) none else []
          if before = some a then rest else c :: rest
        else c :: matchesFrom m t n b (some b)

/-- All matches that do not overlap. -/
def all (m : Matcher) (t : Array Char) : List Captures := m.matchesFrom t (2 * t.size + 2) 0 none

end Matcher

end Golden.Host
