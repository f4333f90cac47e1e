/-! # UTF-8

File contents and captured output are sequences of octets, names and messages are texts. `encode`
writes a text as octets. `scan` reads octets back one character at a time: a character that is
encoded well is `some`, and each longest beginning of a character that is cut short or ruled out is
one `none`. A lossy reader puts U+FFFD for every `none` (`decodeLossy`), a strict one refuses them
(`decode?`). -/

namespace Golden

/-- Contents of a file, or what a program wrote. -/
abbrev Bytes := List UInt8

namespace Utf8

/-- The octets of a text. -/
def encode (s : String) : Bytes := s.toList.flatMap String.utf8EncodeChar

/-- Reads `n` more octets of a character whose bits so far are `bits`. The first of them lies
between `lo` and `hi`, the others between `0x80` and `0xBF`. -/
def takeTail : Nat → UInt8 → UInt8 → Nat → Bytes → Option Nat × Bytes
  | 0, _, _, bits, rest => (some bits, rest)
  | _ + 1, _, _, _, [] => (none, [])
  | n + 1, lo, hi, bits, b :: rest =>
    if lo ≤ b && b ≤ hi then takeTail n 0x80 0xBF (bits * 64 + b.toNat % 64) rest
    else (none, b :: rest)

theorem length_takeTail_le (n : Nat) (lo hi : UInt8) (bits : Nat) (rest : Bytes) :
    (takeTail n lo hi bits rest).2.length ≤ rest.length := by
  induction n generalizing lo hi bits rest with
  | zero => simp [takeTail]
  | succ n ih =>
    cases rest with
    | nil => simp [takeTail]
    | cons b rest =>
      simp only [takeTail]
      split
      · exact Nat.le_trans (ih _ _ _ _) (Nat.le_succ _)
      · exact Nat.le_refl _

/-- Reads the character that begins with the octet `b`, and returns it with what follows. -/
def readChar (b : UInt8) (rest : Bytes) : Option Nat × Bytes :=
  let n := b.toNat
  if n < 0x80 then (some n, rest)
  else if n < 0xC2 then (none, rest)
  else if n < 0xE0 then takeTail 1 0x80 0xBF (n % 32) rest
  else if n < 0xF0 then
    takeTail 2 (if n = 0xE0 then 0xA0 else 0x80) (if n = 0xED then 0x9F else 0xBF) (n % 16) rest
  else if n < 0xF5 then
    takeTail 3 (if n = 0xF0 then 0x90 else 0x80) (if n = 0xF4 then 0x8F else 0xBF) (n % 8) rest
  else (none, rest)

theorem length_readChar_le (b : UInt8) (rest : Bytes) :
    (readChar b rest).2.length ≤ rest.length := by
  simp only [readChar]
  repeat' split
  all_goals first
    | exact Nat.le_refl _
    | exact length_takeTail_le _ _ _ _ _

/-- The characters of the octets, with `none` for each malformed one. -/
def scan : Bytes → List (Option Char)
  | [] => []
  | b :: rest => (readChar b rest).1.map Char.ofNat :: scan (readChar b rest).2
termination_by bs => bs.length
decreasing_by exact Nat.lt_succ_of_le (length_readChar_le b rest)

/-- Stands for a character that could not be read. -/
def replacement : Char := '\uFFFD'

/-- The text of the octets, with U+FFFD for each malformed character. -/
def decodeLossy (bs : Bytes) : String :=
  String.ofList ((scan bs).map (·.getD replacement))

/-- The text of the octets, if they are well formed throughout. -/
def decode? (bs : Bytes) : Option String :=
  ((scan bs).mapM id).map String.ofList

end Utf8

/-- The octets of a text. -/
abbrev utf8 (s : String) : Bytes := Utf8.encode s

end Golden
