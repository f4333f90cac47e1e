import Golden.Host.Octets

/-! # Digests

A digest is a number of fixed size that is calculated from octets. Most of them fill the octets up
to whole blocks, and mix the words of each block into a state of a few words, in rounds with
constants that come from roots and sines. -/

namespace Golden.Host.Digest

/-! ### Words and blocks -/

/-- A word turned to the left by some of its `width` digits. -/
def turn (width n x : Nat) : Nat := ((x <<< n) % Nat.pow 2 width) ||| (x >>> (width - n))

/-- A word turned to the right. -/
def turnBack (width n x : Nat) : Nat := turn width (width - n) x

/-- The digits of a word the other way round. -/
def invert (width x : Nat) : Nat := Nat.pow 2 width - 1 - x % Nat.pow 2 width

/-- A number in so many octets, the greatest part first. -/
def octets : Nat → Nat → List Nat
  | 0, _ => []
  | n + 1, x => x / Nat.pow 256 n % 256 :: octets n x

/-- The number that octets stand for, the greatest part first. -/
def ofOctets (os : List Nat) : Nat := os.foldl (fun n o => n * 256 + o) 0

/-- Octets filled up to whole blocks, which end with the number of their binary digits. -/
def filled (block lengthSize : Nat) (isGreatestFirst : Bool) (os : List Nat) : List Nat :=
  let zeros := (2 * block - 1 - lengthSize - os.length % block) % block
  let length := octets lengthSize (8 * os.length)
  os ++ 0x80 :: List.replicate zeros 0 ++ (if isGreatestFirst then length else length.reverse)

/-- The blocks of words that octets make. -/
def blocks (wordSize words lengthSize : Nat) (isGreatestFirst : Bool) (os : List Nat) :
    List (Array Nat) :=
  let all := filled (wordSize * words) lengthSize isGreatestFirst os
  let word (os : List Nat) : Nat := ofOctets (if isGreatestFirst then os else os.reverse)
  (Octets.pieces (wordSize * words) all.length all).map fun b =>
    ((Octets.pieces wordSize b.length b).map word).toArray

/-- A word of a block. -/
def wordAt (ws : Array Nat) (i : Nat) : Nat := ws.getD i 0

/-- Octets in base 16. -/
def inHex (os : List Nat) : String :=
  String.ofList (os.flatMap fun o => [o / 16, o % 16].map Nat.digitChar)

/-- The sums of the words of two states. -/
def addStates (width : Nat) (a b : List Nat) : List Nat :=
  (a.zip b).map fun p => (p.1 + p.2) % Nat.pow 2 width

/-! ### Four words -/

/-- The constant of a round. -/
def sineConstant (i : Nat) : Nat :=
  ((Float.sin (Float.ofNat (i + 1))).abs * 4294967296.0).toUInt64.toNat

/-- The constants of all rounds. -/
def sineConstants : Array Nat := ((List.range 64).map sineConstant).toArray

/-- How far words are turned, in four kinds of rounds. -/
def md5Turns : List (List Nat) :=
  [[7, 12, 17, 22], [5, 9, 14, 20], [4, 11, 16, 23], [6, 10, 15, 21]]

/-- A round with four words. -/
def md5Round (ws : Array Nat) (s : List Nat) (i : Nat) : List Nat :=
  match s with
  | [a, b, c, d] =>
    let (f, g) := match i / 16 with
      | 0 => ((b &&& c) ||| (invert 32 b &&& d), i)
      | 1 => ((d &&& b) ||| (invert 32 d &&& c), (5 * i + 1) % 16)
      | 2 => (b ^^^ c ^^^ d, (3 * i + 5) % 16)
      | _ => (c ^^^ (b ||| invert 32 d), 7 * i % 16)
    let sum := (a + f + wordAt sineConstants i + wordAt ws g) % UInt32.size
    let n := ((md5Turns[i / 16]?).bind fun l => l[i % 4]?).getD 0
    [d, (b + turn 32 n sum) % UInt32.size, b, c]
  | s => s

/-- The digest of 128 binary digits. -/
def md5 (os : List Nat) : String :=
  let start := [0x67452301, 0xefcdab89, 0x98badcfe, 0x10325476]
  let last := (blocks 4 16 8 false os).foldl (fun s ws =>
    addStates 32 s ((List.range 64).foldl (md5Round ws) s)) start
  inHex (last.flatMap fun w => (octets 4 w).reverse)

/-! ### Five words -/

/-- The words of all rounds, from those of the block. -/
def sha1Words (ws : Array Nat) : Array Nat :=
  (List.range' 16 64).foldl (fun ws i =>
    let word (k : Nat) : Nat := wordAt ws (i - k)
    ws.push (turn 32 1 (word 3 ^^^ word 8 ^^^ word 14 ^^^ word 16))) ws

/-- A round with five words. -/
def sha1Round (ws : Array Nat) (s : List Nat) (i : Nat) : List Nat :=
  match s with
  | [a, b, c, d, e] =>
    let (f, k) := match i / 20 with
      | 0 => ((b &&& c) ||| (invert 32 b &&& d), 0x5a827999)
      | 1 => (b ^^^ c ^^^ d, 0x6ed9eba1)
      | 2 => ((b &&& c) ||| (b &&& d) ||| (c &&& d), 0x8f1bbcdc)
      | _ => (b ^^^ c ^^^ d, 0xca62c1d6)
    [(turn 32 5 a + f + e + k + wordAt ws i) % UInt32.size, a, turn 32 30 b, c, d]
  | s => s

/-- The digest of 160 binary digits. -/
def sha1 (os : List Nat) : String :=
  let start := [0x67452301, 0xefcdab89, 0x98badcfe, 0x10325476, 0xc3d2e1f0]
  let last := (blocks 4 16 8 true os).foldl (fun s ws =>
    addStates 32 s ((List.range 80).foldl (sha1Round (sha1Words ws)) s)) start
  inHex (last.flatMap (octets 4))

/-! ### Eight words -/

/-- Whether a number is a prime. -/
def isPrime (n : Nat) : Bool := 2 ≤ n && (List.range' 2 (n - 2)).all fun d => n % d ≠ 0

/-- The first primes. -/
def primes (count : Nat) : List Nat := ((List.range 410).filter isPrime).take count

/-- The greatest number whose power is not above another number, below `2 ^ digits`. -/
def root (power x : Nat) : Nat → Nat → Nat
  | 0, r => r
  | n + 1, r =>
    let next := r + Nat.pow 2 n
    root power x n (if Nat.pow next power ≤ x then next else r)

/-- Binary digits behind the point of a root of a number. -/
def rootDigits (power digits p : Nat) : Nat :=
  root power (p * Nat.pow 2 (power * digits)) (digits + 8) 0 % Nat.pow 2 digits

/-- What distinguishes the digests with eight words. -/
structure Octet where
  /-- The number of octets of a word. -/
  wordSize : Nat
  rounds : Nat
  start : List Nat
  constants : Array Nat
  /-- How far words are turned: twice three numbers for the state, and twice three for the words
  of a block, where the last one shifts. -/
  turns : List (Nat × Nat × Nat)
  /-- The number of words that are kept. -/
  kept : Nat

/-- The binary digits of a word. -/
def Octet.width (h : Octet) : Nat := 8 * h.wordSize

/-- Three turned words mixed. The last one is shifted if `shifts`. -/
def Octet.mix (h : Octet) (kind : Nat) (shifts : Bool) (x : Nat) : Nat :=
  let (a, b, c) := (h.turns[kind]?).getD (0, 0, 0)
  turnBack h.width a x ^^^ turnBack h.width b x ^^^
    (if shifts then x >>> c else turnBack h.width c x)

/-- The words of all rounds, from those of the block. -/
def Octet.words (h : Octet) (ws : Array Nat) : Array Nat :=
  (List.range' 16 (h.rounds - 16)).foldl (fun ws i =>
    ws.push ((wordAt ws (i - 16) + h.mix 2 true (wordAt ws (i - 15)) + wordAt ws (i - 7) +
      h.mix 3 true (wordAt ws (i - 2))) % Nat.pow 2 h.width)) ws

/-- A round with eight words. -/
def Octet.round (h : Octet) (ws : Array Nat) (s : List Nat) (i : Nat) : List Nat :=
  match s with
  | [a, b, c, d, e, f, g, k] =>
    let choice := (e &&& f) ^^^ (invert h.width e &&& g)
    let one := k + h.mix 1 false e + choice + wordAt h.constants i + wordAt ws i
    let majority := (a &&& b) ^^^ (a &&& c) ^^^ (b &&& c)
    let two := h.mix 0 false a + majority
    [(one + two) % Nat.pow 2 h.width, a, b, c, (d + one) % Nat.pow 2 h.width, e, f, g]
  | s => s

/-- The digest of octets. -/
def Octet.digest (h : Octet) (os : List Nat) : String :=
  let last := (blocks h.wordSize 16 (2 * h.wordSize) true os).foldl (fun s ws =>
    addStates h.width s ((List.range h.rounds).foldl (h.round (h.words ws)) s)) h.start
  inHex ((last.take h.kept).flatMap (octets h.wordSize))

/-- The digests with words of four octets. -/
def narrow (start : List Nat) (kept : Nat) : Octet :=
  { wordSize := 4, rounds := 64, start, constants := ((primes 64).map (rootDigits 3 32)).toArray
    turns := [(2, 13, 22), (6, 11, 25), (7, 18, 3), (17, 19, 10)], kept }

/-- The digests with words of eight octets. -/
def wide (start : List Nat) (kept : Nat) : Octet :=
  { wordSize := 8, rounds := 80, start, constants := ((primes 80).map (rootDigits 3 64)).toArray
    turns := [(28, 34, 39), (14, 18, 41), (1, 8, 7), (19, 61, 6)], kept }

/-- The digest of 224 binary digits. -/
def sha224 : Octet := narrow (((primes 16).drop 8).map fun p => rootDigits 2 64 p % UInt32.size) 7

/-- The digest of 256 binary digits. -/
def sha256 : Octet := narrow ((primes 8).map (rootDigits 2 32)) 8

/-- The digest of 384 binary digits. -/
def sha384 : Octet := wide (((primes 16).drop 8).map (rootDigits 2 64)) 6

/-- The digest of 512 binary digits. -/
def sha512 : Octet := wide ((primes 8).map (rootDigits 2 64)) 8

/-! ### Sums -/

/-- Mixes an octet into a remainder of 32 binary digits. -/
def crcStep (crc o : Nat) : Nat :=
  let step (x : Nat) : Nat :=
    if x < Nat.pow 2 31 then 2 * x else (2 * x % UInt32.size) ^^^ 0x04c11db7
  Nat.repeat step 8 (crc ^^^ (o <<< 24))

/-- The octets of a number without zeros, the least part first. -/
def smallOctets : Nat → Nat → List Nat
  | 0, _ => []
  | n + 1, x => if x = 0 then [] else x % 256 :: smallOctets n (x / 256)

/-- The remainder of octets and their number. -/
def crc (os : List Nat) : Nat :=
  invert 32 ((os ++ smallOctets 16 os.length).foldl crcStep 0)

/-- A sum of octets that is turned before each. -/
def turningSum (os : List Nat) : Nat :=
  os.foldl (fun s o => (turnBack 16 1 s + o) % UInt16.size) 0

/-- A sum of octets in 16 binary digits. -/
def plainSum (os : List Nat) : Nat :=
  let s := os.foldl (· + ·) 0 % UInt32.size
  let r := s % UInt16.size + s / UInt16.size
  r % UInt16.size + r / UInt16.size

end Golden.Host.Digest
