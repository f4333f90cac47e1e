import Golden.Host.Numbers
import Golden.Host.Tool.Input
import Golden.Host.Tool.Options

/-! # Comparing octets

Two files are compared octet by octet. The first difference is told, or all of them. -/

namespace Golden.Host.Tool

/-- What an octet looks like. -/
def seen (c : Char) : String :=
  let n := c.toNat % 128
  (if 128 ≤ c.toNat then "M-" else "") ++
    (if n < 32 then "^" ++ String.singleton (Char.ofNat (n + 64))
    else if n = 127 then "^?" else String.singleton (Char.ofNat n))

/-- An octet in base eight, in three places. -/
def inOctal (c : Char) : String :=
  let ds := Nat.toDigits 8 c.toNat
  String.ofList (List.replicate (3 - ds.length) ' ' ++ ds)

/-- Where two texts differ: the number of octets in front, the number of ends of lines there, and
whether the last of them is one. -/
structure Meeting where
  octets : Nat
  lines : Nat
  atLineStart : Bool
  deriving DecidableEq, Inhabited

/-- Goes through two texts as long as they are the same. -/
def commonPart (m : Meeting) : List Char → List Char → Meeting × List Char × List Char
  | a :: as, b :: bs =>
    if a = b then
      commonPart ⟨m.octets + 1, if a = '\n' then m.lines + 1 else m.lines, a = '\n'⟩ as bs
    else (m, a :: as, b :: bs)
  | as, bs => (m, as, bs)

/-- The places at which two texts have different octets, from a number on. -/
def allDifferences (n : Nat) : List Char → List Char → List (Nat × Char × Char)
  | a :: as, b :: bs =>
    if a = b then allDifferences (n + 1) as bs else (n, a, b) :: allDifferences (n + 1) as bs
  | _, _ => []

/-- The options for comparing octets. -/
def cmpOptions : OptionTable :=
  { OptionTable.ofLetters "bci:ln:s" with
    words := [("print-bytes", .nothing, "b"), ("print-chars", .nothing, "b"),
      ("ignore-initial", .argument, "i"), ("verbose", .nothing, "l"), ("bytes", .argument, "n"),
      ("quiet", .nothing, "s"), ("silent", .nothing, "s")]
    usage := fun name => name ++ ": Try '" ++ name ++ " --help' for more information.\n"
    status := 2 }

/-- A number of octets in an argument. -/
def cmpNumber (option text : String) : Tool Nat := do
  match Sizes.read Sizes.usualLetters text with
  | some n => return n
  | none => misuse cmpOptions ("invalid --" ++ option ++ " value '" ++ text ++ "'")

/-- The numbers of octets that are left out of two files. -/
def cmpSkips (text : Option String) (names : List String) : Tool (Nat × Nat) := do
  let value (s : String) : Tool Nat := cmpNumber "ignore-initial" s
  let (a, b) ← match text.map fun t => t.splitOn ":" with
    | some [a] => do
      let n ← value a
      pure (n, n)
    | some (a :: b :: _) => pure (← value a, ← value b)
    | _ => pure (0, 0)
  match names with
  | [] => return (a, b)
  | [s] => return (← value s, b)
  | s :: t :: _ => return (← value s, ← value t)

/-- Compares two files. -/
def cmp : Program := programWith (fun e => ("write failed: " ++ e.words, 2)) fun args => do
  let (os, names) ← options cmpOptions args
  let isSilent := isGiven os "s"
  let isFull := isGiven os "l"
  let showsOctets := isGiven os "b" || isGiven os "c"
  if isSilent && isFull then misuse cmpOptions "options -l and -s are incompatible"
  let (first, rest) ← match names with
    | [] => misuse cmpOptions ("missing operand after '" ++ (← console).name ++ "'")
    | a :: rest => pure (a, rest)
  let second := rest.headD "-"
  let limit ← match valueOf? os "n" with
    | some t => some <$> cmpNumber "bytes" t
    | none => pure none
  let (skipA, skipB) ← cmpSkips (valueOf? os "i") (rest.drop 1)
  match (rest.drop 3).head? with
  | some a => misuse cmpOptions ("extra operand '" ++ a ++ "'")
  | none => pure ()
  let read (name : String) (skip : Nat) : Tool (List Char) := do
    match ← contents name with
    | .ok text =>
      let cs := text.toList.drop skip
      return match limit with
        | some n => cs.take n
        | none => cs
    | .error e =>
      if !isSilent || e ≠ .noEntry then warn (name ++ ": " ++ e.words)
      quit 2
  if first = second && skipA = skipB then exit 0
  let as ← read first skipA
  let bs ← read second skipB
  let (m, restA, restB) := commonPart ⟨0, 0, true⟩ as bs
  if restA = [] && restB = [] then exit 0
  if isSilent then exit 1
  let tellEnd (m : Meeting) : Tool Unit := do
    flush
    let name := if as.length < bs.length then first else second
    if m.octets = 0 then complain ("cmp: EOF on " ++ name ++ " which is empty\n")
    else
      let line := if isFull then ""
        else if m.atLineStart then ", line " ++ toString m.lines
        else ", in line " ++ toString (m.lines + 1)
      complain ("cmp: EOF on " ++ name ++ " after byte " ++ toString m.octets ++ line ++ "\n")
  let octets (a b : Char) : String :=
    if showsOctets then inOctal a ++ " " ++ seen a ++ " " ++ inOctal b ++ " " ++ seen b
    else inOctal a ++ " " ++ inOctal b
  if isFull then
    let all := allDifferences 1 as bs
    let width := (toString (min as.length bs.length)).length
    all.forM fun (n, a, b) => do
      let place := toString n
      let padding := String.ofList (List.replicate (width - place.length) ' ')
      let shown := if showsOctets then
          inOctal a ++ " " ++ seen a ++
            String.ofList (List.replicate (4 - (seen a).length) ' ') ++ " " ++ inOctal b ++ " " ++
            seen b
        else octets a b
      put (padding ++ place ++ " " ++ shown ++ "\n")
    if as.length ≠ bs.length then tellEnd { m with octets := min as.length bs.length }
  else
    match restA, restB with
    | a :: _, b :: _ =>
      let place := first ++ " " ++ second ++ " differ: " ++
        (if showsOctets then "byte " else "char ") ++
        toString (m.octets + 1) ++ ", line " ++ toString (m.lines + 1)
      put (place ++ (if showsOctets then " is " ++ octets a b else "") ++ "\n")
    | _, _ => tellEnd m
  exit 1

end Golden.Host.Tool
