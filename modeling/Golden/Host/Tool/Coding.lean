import Golden.Host.Digest
import Golden.Host.Numbers
import Golden.Host.Tool.Input
import Golden.Host.Tool.Options

/-! # Tools that encode octets

Octets are written as letters that stand for five or six binary digits each, and read back. -/

namespace Golden.Host.Tool

/-- A way to write octets as letters. -/
structure Encoding where
  letters : Array Char
  /-- The number of binary digits of a letter. -/
  digits : Nat
  /-- The numbers of octets and of letters that belong together. -/
  octets : Nat
  letterCount : Nat
  /-- Letters are read only if all that belong together are there. -/
  readsWhole : Bool

/-- Letters of six binary digits. -/
def base64Encoding : Encoding :=
  ⟨"ABCDEFGHIJKLMNOPQRSTUVWXYZabcdefghijklmnopqrstuvwxyz0123456789+/".toList.toArray, 6, 3, 4,
    false⟩

/-- Letters of five binary digits. -/
def base32Encoding : Encoding :=
  ⟨"ABCDEFGHIJKLMNOPQRSTUVWXYZ234567".toList.toArray, 5, 5, 8, true⟩

namespace Encoding

/-- The letters of a group of octets. -/
def encodeGroup (e : Encoding) (cs : List Char) : List Char :=
  let os := cs.map Char.toNat
  let n := Digest.ofOctets (os ++ List.replicate (e.octets - os.length) 0)
  let used := (8 * os.length + e.digits - 1) / e.digits
  (List.range e.letterCount).map fun i =>
    if i < used then
      (e.letters[n / Nat.pow 2 (e.digits * (e.letterCount - 1 - i)) % Nat.pow 2 e.digits]?).getD '='
    else '='

/-- The letters of octets. -/
def encode (e : Encoding) (cs : List Char) : List Char :=
  (Octets.pieces e.octets cs.length cs).flatMap e.encodeGroup

/-- The octets of a group of letters, and whether it is well formed. -/
def decodeGroup (e : Encoding) (cs : List Char) : List Char × Bool :=
  let used := cs.takeWhile e.letters.contains
  let values := used.map fun c => (e.letters.idxOf? c).getD 0
  let n := (values ++ List.replicate (e.letterCount - values.length) 0).foldl
    (fun n v => n * Nat.pow 2 e.digits + v) 0
  let count := used.length * e.digits / 8
  let octets := ((Digest.octets e.octets n).take count).map Char.ofNat
  let rest := cs.drop used.length
  let isFull := cs.length = e.letterCount && rest.all (· = '=') &&
    (used.length * e.digits) % 8 < e.digits && used ≠ []
  (if e.readsWhole && cs.length < e.letterCount then [] else octets, isFull)

/-- The octets of letters up to what is not well formed. -/
def decode (e : Encoding) : List (List Char) → List Char × Bool
  | [] => ([], true)
  | g :: gs =>
    let (cs, isFull) := e.decodeGroup g
    if isFull then
      let (rest, isWhole) := e.decode gs
      (cs ++ rest, isWhole)
    else (cs, false)

end Encoding

/-- Encodes a file, or decodes it. -/
def encodeAs (e : Encoding) : Program := program fun args => do
  let t := { OptionTable.ofLetters "diw:" with
    words := [("decode", .nothing, "d"), ("ignore-garbage", .nothing, "i"),
      ("wrap", .argument, "w")] }
  let (os, names) ← options t args
  let width ← match valueOf? os "w" with
    | none => pure 76
    | some text =>
      match Sizes.read [] text with
      | some n => pure n
      | none => fail 1 ("invalid wrap size: " ++ Quoting.escaped text)
  let name ← match names with
    | [] => pure "-"
    | [a] => pure a
    | _ :: b :: _ => extra t b
  match ← contents name with
  | .error .isDirectory => fail 1 ("read error: " ++ Errno.isDirectory.words)
  | .error err => fail 1 (Quoting.name name ++ ": " ++ err.words)
  | .ok text =>
    if isGiven os "d" then
      let isWanted (c : Char) : Bool :=
        if isGiven os "i" then e.letters.contains c || c = '=' else c ≠ '\n'
      let cs := text.toList.filter isWanted
      let (out, isWhole) := e.decode (Octets.pieces e.letterCount cs.length cs)
      put (String.ofList out)
      if !isWhole then fail 1 "invalid input"
    else
      let cs := e.encode text.toList
      if width = 0 then put (String.ofList cs)
      else (Octets.pieces width cs.length cs).forM fun l => put ((String.ofList l).push '\n')

end Golden.Host.Tool
