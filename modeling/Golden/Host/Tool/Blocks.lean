import Golden.Host.Numbers
import Golden.Host.Tool.Input
import Golden.Host.Tool.Options

/-! # A tool that copies blocks

Octets are read in blocks and written in blocks, from and to given places. The numbers of blocks are
told at the end. -/

namespace Golden.Host.Tool

/-- What is copied. -/
structure Copying where
  input : Option String
  output : Option String
  inputBlock : Nat
  outputBlock : Nat
  /-- Octets are written as they have been read. -/
  isDirect : Bool
  count : Option Nat
  skip : Nat
  seek : Nat
  conversions : List String
  inputFlags : List String
  outputFlags : List String
  status : String
  deriving DecidableEq, Inhabited

/-- The options of `dd`. -/
def ddOptions : OptionTable := OptionTable.ofLetters ""

/-- A size, which may be a product. -/
def ddNumber (text : String) : Tool Nat := do
  let sizes := (text.splitOn "x").map (Sizes.read "bBcwkKMGTPEZYRQ".toList)
  match sizes.mapM id with
  | some ns => return ns.foldl (· * ·) 1
  | none => fail 1 ("invalid number: " ++ Quoting.escaped text)

/-- A size above zero. -/
def ddSize (text : String) : Tool Nat := do
  let n ← ddNumber text
  if n = 0 then fail 1 ("invalid number: " ++ Quoting.escaped text) else return n

/-- Words with commas between them, which must be known. -/
def ddWords (known : List String) (what text : String) : Tool (List String) := do
  let words := text.splitOn ","
  match words.find? fun w => !known.contains w with
  | some w => misuse ddOptions ("invalid " ++ what ++ ": " ++ Quoting.escaped w)
  | none => return words

/-- The conversions. -/
def ddConversions : List String :=
  ["lcase", "ucase", "notrunc", "nocreat", "excl", "noerror", "sync", "fsync", "fdatasync", "swab",
   "sparse"]

/-- The flags. -/
def ddFlags : List String :=
  ["append", "direct", "dsync", "sync", "fullblock", "nonblock", "noatime", "nocache",
   "skip_bytes", "seek_bytes", "count_bytes"]

/-- Reads the arguments. -/
def readCopying (c : Copying) : List String → Tool Copying
  | [] => pure c
  | a :: rest => do
    let key := String.ofList (a.toList.takeWhile (· ≠ '='))
    if key = a then misuse ddOptions ("unrecognized operand " ++ Quoting.escaped a)
    let value := String.ofList (a.toList.drop (key.length + 1))
    let c ← match key with
      | "if" => pure { c with input := some value }
      | "of" => pure { c with output := some value }
      | "bs" => do
        let n ← ddSize value
        pure { c with inputBlock := n, outputBlock := n, isDirect := true }
      | "ibs" => do pure { c with inputBlock := ← ddSize value }
      | "obs" => do pure { c with outputBlock := ← ddSize value }
      | "cbs" => do
        let _ ← ddSize value
        pure c
      | "count" => do pure { c with count := some (← ddNumber value) }
      | "skip" | "iseek" => do pure { c with skip := ← ddNumber value }
      | "seek" | "oseek" => do pure { c with seek := ← ddNumber value }
      | "conv" => do
        pure { c with conversions := c.conversions ++ (← ddWords ddConversions "conversion" value) }
      | "iflag" => do
        pure { c with inputFlags := c.inputFlags ++ (← ddWords ddFlags "input flag" value) }
      | "oflag" => do
        pure { c with outputFlags := c.outputFlags ++ (← ddWords ddFlags "output flag" value) }
      | "status" => do
        if !(["none", "noxfer", "progress"].contains value) then
          misuse ddOptions ("invalid status level: " ++ Quoting.escaped value)
        pure { c with status := value }
      | _ => misuse ddOptions ("unrecognized operand " ++ Quoting.escaped a)
    readCopying c rest

/-- Numbers of whole and of other blocks. -/
structure BlockCount where
  whole : Nat
  short : Nat
  deriving DecidableEq, Inhabited

/-- Counts a block. -/
def BlockCount.add (b : BlockCount) (isWhole : Bool) : BlockCount :=
  if isWhole then { b with whole := b.whole + 1 } else { b with short := b.short + 1 }

/-- The line that tells how many blocks there were. -/
def BlockCount.line (b : BlockCount) (what : String) : String :=
  toString b.whole ++ "+" ++ toString b.short ++ " records " ++ what ++ "\n"

/-- Octets with their neighbours exchanged. -/
def swapPairs : List Char → List Char
  | a :: b :: cs => b :: a :: swapPairs cs
  | cs => cs

/-- What conversions make of octets. -/
def Copying.convert (c : Copying) (text : String) : String :=
  let text := if c.conversions.contains "lcase" then text.map Char.toLower else text
  let text := if c.conversions.contains "ucase" then text.map Char.toUpper else text
  if c.conversions.contains "swab" then String.ofList (swapPairs text.toList) else text

/-- What is copied and counted so far. -/
structure Copied where
  read : BlockCount
  written : BlockCount
  octets : Nat
  /-- What has been read and is not enough for a block. -/
  pending : String
  deriving DecidableEq, Inhabited

/-- Writes a block. -/
def putBlock (d : Nat) (name : String) (size : Nat) (text : String) (x : Copied) : Tool Copied := do
  match ← act (Act.write d text) with
  | .ok () =>
    return { x with
      written := x.written.add (text.length = size), octets := x.octets + text.length }
  | .error e => fail 1 ("error writing " ++ Quoting.always name ++ ": " ++ e.words)

/-- Writes whole blocks of what is pending. -/
def putBlocks (d : Nat) (name : String) (size : Nat) : Nat → Copied → Tool Copied
  | 0, x => pure x
  | n + 1, x => do
    if x.pending.length < size then return x
    let cs := x.pending.toList
    let x ← putBlock d name size (String.ofList (cs.take size))
      { x with pending := String.ofList (cs.drop size) }
    putBlocks d name size n x

/-- Reads a block. It is filled up as far as there is more if `isFull`. -/
def readBlock (d size : Nat) (isFull : Bool) : Nat → String → Tool (Except Errno String)
  | 0, done => pure (.ok done)
  | n + 1, done => do
    match ← readUpTo d (size - done.length) with
    | .error e => return .error e
    | .ok "" => return .ok done
    | .ok text =>
      let all := done ++ text
      if isFull && all.length < size then readBlock d size isFull n all else return .ok all

/-- Copies at most so many blocks. -/
def copyBlocks (c : Copying) (source target : Nat) : Nat → Nat → Copied → Tool (Copied × Bool)
  | 0, _, x => pure (x, true)
  | n + 1, left, x => do
    let byOctets := c.inputFlags.contains "count_bytes"
    if left = 0 then return (x, true)
    let size := if byOctets then min left c.inputBlock else c.inputBlock
    match ← readBlock source size (c.inputFlags.contains "fullblock") Act.manySteps "" with
    | .error e =>
      warn ("error reading " ++ Quoting.always (c.input.getD "standard input") ++ ": " ++ e.words)
      return (x, false)
    | .ok "" => return (x, true)
    | .ok text =>
      let isWhole := text.length = c.inputBlock
      let x := { x with read := x.read.add isWhole }
      let text := c.convert text
      let text := if c.conversions.contains "sync" then
          text ++ String.ofList (List.replicate (c.inputBlock - text.length) '\x00')
        else text
      let name := c.output.getD "standard output"
      let x ← if c.isDirect then putBlock target name c.outputBlock text x
        else do
          let x := { x with pending := x.pending ++ text }
          putBlocks target name c.outputBlock (x.pending.length + 1) x
      copyBlocks c source target n (if byOctets then left - text.length else left - 1) x

/-- Goes on in a file by so many octets. Gives whether there are so many. -/
def passOctets (d octets : Nat) : Tool Bool := do
  if octets = 0 then return true
  let facts : Except Errno Facts ← call (.factsOf d)
  let r : Except Errno Nat ← call (.seek d octets .current)
  match facts, r with
  | .ok f, .ok place => return f.kind ≠ .regular || place ≤ f.size
  | _, _ =>
    match ← readBlock d octets true Act.manySteps "" with
    | .ok text => return text.length = octets
    | .error _ => return true

/-- Copies blocks. -/
def dd : Program := program fun args => do
  let (_, names) ← options ddOptions args
  let c ← readCopying
    { input := none, output := none, inputBlock := 512, outputBlock := 512, isDirect := false
      count := none, skip := 0, seek := 0, conversions := [], inputFlags := []
      outputFlags := [], status := "" } names
  let source ← match c.input with
    | none => pure 0
    | some name => do
      match ← act (Act.openFile name .toRead) with
      | .ok d => pure d
      | .error e => fail 1 ("failed to open " ++ Quoting.always name ++ ": " ++ e.words)
  let target ← match c.output with
    | none => pure 1
    | some name => do
      let isCut := !c.conversions.contains "notrunc" && c.seek = 0
      let how : Opening :=
        { Opening.toWrite with
          empties := isCut
          appends := c.outputFlags.contains "append"
          makes := !c.conversions.contains "nocreat"
          isNew := c.conversions.contains "excl" }
      match ← act (Act.openFile name how) with
      | .ok d => pure d
      | .error e => fail 1 ("failed to open " ++ Quoting.always name ++ ": " ++ e.words)
  let skipped := if c.inputFlags.contains "skip_bytes" then c.skip else c.skip * c.inputBlock
  let sought := if c.outputFlags.contains "seek_bytes" then c.seek else c.seek * c.outputBlock
  if !(← passOctets source skipped) then
    warn (Quoting.name (c.input.getD "standard input") ++ ": cannot skip to specified offset")
  if sought ≠ 0 then
    if !c.conversions.contains "notrunc" then
      let _ ← call (.setLength target sought)
    let _ ← call (.seek target sought .current)
  let (x, isWhole) ← copyBlocks c source target Act.manySteps (c.count.getD Act.manySteps)
    ⟨⟨0, 0⟩, ⟨0, 0⟩, 0, ""⟩
  let x ← if x.pending = "" then pure x
    else putBlock target (c.output.getD "standard output") c.outputBlock x.pending x
  if c.status ≠ "none" then
    complain (x.read.line "in" ++ x.written.line "out")
    if c.status ≠ "noxfer" then
      complain (toString x.octets ++ (if x.octets = 1 then " byte" else " bytes") ++
        " copied, 0.0001 s, " ++ toString (x.octets * 10) ++ " kB/s\n")
  quit (if isWhole then 0 else 1)

end Golden.Host.Tool
