import Golden.Host.Digest
import Golden.Host.Tool.Input
import Golden.Host.Tool.Options

/-! # Tools that check files

Digests of files are written, or compared with those in a list. -/

namespace Golden.Host.Tool

/-- A digest with its name. -/
structure Digesting where
  name : String
  /-- The number of digits. -/
  digits : Nat
  digest : List Nat → String

/-- The octets of a text. -/
def octetsOf (s : String) : List Nat := s.toList.map Char.toNat

/-- A name in a list, and whether it has been changed. -/
def listedName (name : String) : String × Bool :=
  let isSpecial := name.toList.any fun c => c = '\\' || c = '\n' || c = '\x0d'
  let one (c : Char) : List Char :=
    match c with
    | '\\' => ['\\', '\\']
    | '\n' => ['\\', 'n']
    | '\x0d' => ['\\', 'r']
    | c => [c]
  (String.ofList (name.toList.flatMap one), isSpecial)

/-- The name that a list has. -/
def unlistedName : List Char → List Char
  | '\\' :: c :: cs =>
    (match c with
      | 'n' => '\n'
      | 'r' => '\x0d'
      | c => c) :: unlistedName cs
  | c :: cs => c :: unlistedName cs
  | [] => []

/-- A digest and a name in a list. -/
def listed? (h : Digesting) (line : String) : Option (String × String) :=
  let cs := line.toList
  let (isSpecial, cs) := match cs with
    | '\\' :: rest => (true, rest)
    | cs => (false, cs)
  let nameOf (cs : List Char) : String := String.ofList (if isSpecial then unlistedName cs else cs)
  let isHex (c : Char) : Bool := (Numbers.digit? 16 c).isSome
  let digits := cs.takeWhile isHex
  let rest := cs.drop digits.length
  let tag := h.name ++ " ("
  if tag.toList.isPrefixOf cs then
    let inner := cs.drop tag.length
    let digest := (inner.reverse.takeWhile isHex).reverse
    let front := inner.take (inner.length - digest.length)
    let ending := ") = ".toList
    if digest.length = h.digits && ending.isSuffixOf front then
      some (String.ofList digest, nameOf (front.take (front.length - ending.length)))
    else none
  else if digits.length ≠ h.digits then none
  else
    match rest with
    | ' ' :: ' ' :: name | ' ' :: '*' :: name =>
      if name = [] then none else some (String.ofList digits, nameOf name)
    | _ => none

/-- What a check has found. -/
structure Findings where
  checked : Nat
  malformed : Nat
  unread : Nat
  different : Nat
  deriving DecidableEq, Inhabited

/-- Warns of a number of things. -/
def warnOf (n : Nat) (one many : String) : Tool Unit :=
  if n = 0 then pure ()
  else warn ("WARNING: " ++ toString n ++ " " ++ (if n = 1 then one else many))

/-- Warns of a line of a list, if that is wanted. -/
def warnOfLine (h : Digesting) (os : List Opt) (list : String) (number : Nat) : Tool Unit := do
  if isGiven os "w" then
    flush
    warn (Quoting.name list ++ ": " ++ toString number ++ ": improperly formatted " ++ h.name ++
      " checksum line")

/-- Checks the files of a list. -/
def checkList (h : Digesting) (os : List Opt) (list : String) : Tool Unit := do
  let isQuiet := isGiven os "quiet" || isGiven os "status"
  match ← contents list with
  | .error e => note (Quoting.name list ++ ": " ++ e.words)
  | .ok text =>
    let items := (Line.ofText '\n' text).zipIdx.filter fun l => !l.1.text.startsWith "#"
    let found ← items.foldlM (fun (r : Findings) (l, n) => do
      match listed? h l.text with
      | none =>
        warnOfLine h os list (n + 1)
        return { r with malformed := r.malformed + 1 }
      | some (digest, name) =>
        let r := { r with checked := r.checked + 1 }
        let shown := (listedName name).1
        match ← contents name with
        | .error e =>
          if isGiven os "missing" && e = .noEntry then return r
          flush
          warn (Quoting.name name ++ ": " ++ e.words)
          if !isGiven os "status" then put (shown ++ ": FAILED open or read\n")
          return { r with unread := r.unread + 1 }
        | .ok text =>
          if h.digest (octetsOf text) = digest.toLower then
            if !isQuiet then put (shown ++ ": OK\n")
            return r
          else
            if !isGiven os "status" then put (shown ++ ": FAILED\n")
            return { r with different := r.different + 1 }) ⟨0, 0, 0, 0⟩
    flush
    if found.checked = 0 then
      note (Quoting.name list ++ ": no properly formatted checksum lines found")
    else
      if !isGiven os "status" then
        warnOf found.malformed "line is improperly formatted" "lines are improperly formatted"
        warnOf found.unread "listed file could not be read" "listed files could not be read"
        warnOf found.different "computed checksum did NOT match"
          "computed checksums did NOT match"
      if found.unread + found.different ≠ 0 || (isGiven os "strict" && found.malformed ≠ 0) then
        setStatus 1

/-- Refuses options that do not fit what is done: some are for checks, and some for writing. -/
def refuseUnfit (t : OptionTable) (os : List Opt) : Tool Unit := do
  let refuse (word about : String) : Tool Unit :=
    misuse t ("the --" ++ word ++ " option is " ++ about ++ " when verifying checksums")
  if isGiven os "c" then
    if isGiven os "tag" then refuse "tag" "meaningless"
    if isGiven os "z" then refuse "zero" "not supported"
    if isGiven os "b" || isGiven os "t" then
      misuse t "the --binary and --text options are meaningless when verifying checksums"
  else
    let onlyChecking := [("missing", "ignore-missing"), ("status", "status"), ("w", "warn"),
      ("quiet", "quiet"), ("strict", "strict")]
    onlyChecking.forM fun (key, word) =>
      if isGiven os key then refuse word "meaningful only" else pure ()

/-- Writes the digests of files, or checks lists of them. -/
def digest (h : Digesting) : Program := program fun args => do
  let t := { OptionTable.ofLetters "bctwz" with
    words := [("binary", .nothing, "b"), ("check", .nothing, "c"), ("text", .nothing, "t"),
      ("warn", .nothing, "w"), ("zero", .nothing, "z"), ("tag", .nothing, "tag"),
      ("quiet", .nothing, "quiet"), ("status", .nothing, "status"),
      ("strict", .nothing, "strict"), ("ignore-missing", .nothing, "missing")] }
  let (os, names) ← options t args
  refuseUnfit t os
  if isGiven os "c" then (inputs names).forM (checkList h os)
  else
    let ending := if isGiven os "z" then "\x00" else "\n"
    (inputs names).forM fun name => do
      match ← contents name with
      | .error e =>
        flush
        note (Quoting.name name ++ ": " ++ e.words)
      | .ok text =>
        let d := h.digest (octetsOf text)
        let (shown, isSpecial) := if isGiven os "z" then (name, false) else listedName name
        let mark := if isSpecial then "\\" else ""
        if isGiven os "tag" then put (mark ++ h.name ++ " (" ++ shown ++ ") = " ++ d ++ ending)
        else put (mark ++ d ++ (if isGiven os "b" then " *" else "  ") ++ shown ++ ending)

/-- The digests. -/
def digests : List (String × Program) :=
  [("md5sum", digest ⟨"MD5", 32, Digest.md5⟩), ("sha1sum", digest ⟨"SHA1", 40, Digest.sha1⟩),
   ("sha224sum", digest ⟨"SHA224", 56, Digest.sha224.digest⟩),
   ("sha256sum", digest ⟨"SHA256", 64, Digest.sha256.digest⟩),
   ("sha384sum", digest ⟨"SHA384", 96, Digest.sha384.digest⟩),
   ("sha512sum", digest ⟨"SHA512", 128, Digest.sha512.digest⟩)]

/-- Writes a line for each file. -/
def eachText (f : String → String → String) (names : List String) : Tool Unit :=
  (inputs names).forM fun name => do
    match ← contents name with
    | .error e =>
      flush
      note (Quoting.name name ++ ": " ++ e.words)
    | .ok text => put (f name text ++ "\n")

/-- What stands behind the numbers of a file. -/
def behindNumbers (names : List String) (name : String) : String :=
  if names = [] then "" else " " ++ name

/-- A number with filling in front. -/
def padNumber (fill : Char) (width n : Nat) : String :=
  let ds := toString n
  String.ofList (List.replicate (width - ds.length) fill) ++ ds

/-- A number that is not a digest, with the size of what it is of. -/
inductive Sum where
  | remainder
  | plain
  | turning
  deriving DecidableEq, Inhabited

/-- The line for a file. -/
def Sum.line (names : List String) (name text : String) (s : Sum) : String :=
  let os := octetsOf text
  let blocks (size : Nat) : Nat := (os.length + size - 1) / size
  let numbers := match s with
    | remainder => toString (Digest.crc os) ++ " " ++ toString os.length
    | plain => toString (Digest.plainSum os) ++ " " ++ toString (blocks 512)
    | turning => padNumber '0' 5 (Digest.turningSum os) ++ " " ++ padNumber ' ' 5 (blocks 1024)
  numbers ++ behindNumbers names name

/-- The names of the numbers. -/
def sumNames : List (String × Sum) := [("crc", .remainder), ("sysv", .plain), ("bsd", .turning)]

/-- Writes remainders or digests of files. -/
def cksum : Program := program fun args => do
  let t := { OptionTable.ofLetters "a:" with words := [("algorithm", .argument, "a")] }
  let (os, names) ← options t args
  let kinds := ["bsd", "sysv", "crc", "md5", "sha1", "sha224", "sha256", "sha384", "sha512",
    "blake2b", "sm3"]
  let given := (valueOf? os "a").getD "crc"
  let kind ← if kinds.contains given then pure given
    else refuseChoice t "--algorithm" "invalid" (kinds.map fun k => [k]) given
  match sumNames.lookup kind, digests.lookup (kind ++ "sum") with
  | some s, _ => eachText (fun name text => s.line names name text) names
  | none, some p =>
    let env := (← console).environment
    flush
    fun _ _ => p ("cksum" :: "--tag" :: names) env
  | none, none => fail 1 (kind ++ ": not supported")

/-- Writes sums of files. -/
def sum : Program := program fun args => do
  let t := { OptionTable.ofLetters "rs" with words := [("sysv", .nothing, "s")] }
  let (os, names) ← options t args
  let s : Sum := if lastOf? os ["r", "s"] = some "s" then .plain else .turning
  eachText (fun name text => s.line names name text) names

end Golden.Host.Tool
