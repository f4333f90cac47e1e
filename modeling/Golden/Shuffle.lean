/-! # Random order

A list is shuffled from the front: every item changes places with one that is not behind it, or with
itself. The places come from numbers below a product of consecutive sizes, which serve for several
items each.

The numbers come from a stream of 32-bit words that a seed determines: the seed is spread over a key
of eight words, and the key drives the ChaCha stream cipher with 12 rounds. -/

namespace Golden.Random

/-! ### The key -/

/-- The state of the generator that spreads the seed, after one step. -/
def nextState (state : UInt64) : UInt64 := state * 6364136223846793005 + 11634580027462260723

/-- Turns a word to the right. -/
def rotateRight (x : UInt32) (n : UInt32) : UInt32 := (x >>> n) ||| (x <<< ((32 - n) % 32))

/-- The word that belongs to a state. -/
def outputWord (state : UInt64) : UInt32 :=
  rotateRight (((state >>> 18) ^^^ state) >>> 27).toUInt32 (state >>> 59).toUInt32

/-- The words of the next `n` states. -/
def keyWords : Nat → UInt64 → List UInt32
  | 0, _ => []
  | n + 1, state => outputWord (nextState state) :: keyWords n (nextState state)

/-- The key for a seed. -/
def key (seed : UInt64) : List UInt32 := keyWords 8 seed

/-! ### The stream -/

/-- Turns a word to the left. -/
def rotateLeft (x : UInt32) (n : UInt32) : UInt32 := rotateRight x (32 - n)

/-- A word of a block. -/
def word (block : Array UInt32) (i : Nat) : UInt32 := block.getD i 0

/-- Mixes four words of a block. -/
def quarter (block : Array UInt32) (a b c d : Nat) : Array UInt32 :=
  let wa := word block a + word block b
  let wd := rotateLeft (word block d ^^^ wa) 16
  let wc := word block c + wd
  let wb := rotateLeft (word block b ^^^ wc) 12
  let wa := wa + wb
  let wd := rotateLeft (wd ^^^ wa) 8
  let wc := wc + wd
  let wb := rotateLeft (wb ^^^ wc) 7
  (((block.setIfInBounds a wa).setIfInBounds b wb).setIfInBounds c wc).setIfInBounds d wd

/-- Two rounds: one over the columns of a block, one over its diagonals. -/
def twoRounds (b : Array UInt32) : Array UInt32 :=
  let b := quarter (quarter (quarter (quarter b 0 4 8 12) 1 5 9 13) 2 6 10 14) 3 7 11 15
  quarter (quarter (quarter (quarter b 0 5 10 15) 1 6 11 12) 2 7 8 13) 3 4 9 14

/-- Applies a function `n` times. -/
def times {α : Type} (f : α → α) : Nat → α → α
  | 0, x => x
  | n + 1, x => times f n (f x)

/-- The block of the given number before mixing: four constants, the key, the number, and zeros. -/
def plainBlock (key : List UInt32) (number : UInt64) : Array UInt32 :=
  let constants : List UInt32 := [0x61707865, 0x3320646e, 0x79622d32, 0x6b206574]
  (constants ++ key ++ [number.toUInt32, (number >>> 32).toUInt32, 0, 0]).toArray

/-- The block of the given number. -/
def block (key : List UInt32) (number : UInt64) : Array UInt32 :=
  let plain := plainBlock key number
  Array.zipWith (· + ·) plain (times twoRounds 6 plain)

/-- A stream of random words, and how many were taken from it. -/
structure Source where
  key : List UInt32
  taken : Nat
  current : Array UInt32

/-- The stream of a seed. -/
def Source.ofSeed (seed : UInt64) : Source := ⟨Random.key seed, 0, #[]⟩

/-- The next word of a stream. -/
def Source.next (s : Source) : UInt32 × Source :=
  let current :=
    if s.taken % 16 = 0 then block s.key (UInt64.ofNat (s.taken / 16)) else s.current
  (word current (s.taken % 16), { s with taken := s.taken + 1, current })

end Golden.Random

/-! ### Places -/

namespace Golden.Shuffle

open Golden.Random (Source)

/-- Multiplies `prod` by `cur` and the numbers that follow it, while the product fits into 32 bits.
Returns the product and the first number that was left out. -/
def widen : Nat → Nat → Nat → Nat × Nat
  | 0, prod, cur => (prod, cur)
  | n + 1, prod, cur =>
    if prod * cur < UInt32.size then widen n (prod * cur) (cur + 1) else (prod, cur)

/-- A random number below `bound`. A second word is taken when the first is close to a boundary. -/
def below (bound : Nat) (s : Source) : Nat × Source :=
  let (x, s) := s.next
  let product := x.toNat * bound
  let hi := product / UInt32.size
  let lo := product % UInt32.size
  if UInt32.size - bound < lo then
    let (y, s) := s.next
    if UInt32.size ≤ lo + y.toNat * bound / UInt32.size then (hi + 1, s) else (hi, s)
  else (hi, s)

/-- What is left of a random number, for how many sizes it still serves, and the last size. -/
structure Places where
  chunk : Nat
  remaining : Nat
  size : Nat
  source : Source

/-- The places at the beginning. -/
def Places.ofSeed (seed : UInt64) : Places := ⟨0, 1, 0, .ofSeed seed⟩

/-- A random number that serves for the size `m` and for some that follow. -/
def Places.refill (p : Places) (m : Nat) : Places :=
  if p.remaining = 0 then
    let (prod, cur) := widen 32 m (m + 1)
    let (chunk, source) := below prod p.source
    { p with chunk, remaining := cur - m, source }
  else p

/-- A place among one item more than last time. -/
def Places.next (p : Places) : Nat × Places :=
  let m := p.size + 1
  let p := p.refill m
  let remaining := p.remaining - 1
  if remaining = 0 then (p.chunk, { p with remaining, size := m })
  else (p.chunk % m, { p with chunk := p.chunk / m, remaining, size := m })

variable {α : Type}

/-- Lets `x` change places with the item of the list at `i`, or appends it if there is none. -/
def place (done : List α) (x : α) (i : Nat) : List α :=
  match done[i]? with
  | some y => done.set i x ++ [y]
  | none => done ++ [x]

/-- Gives every item its place among those that are done and itself. -/
def placeAll : List α → List α → Places → List α
  | done, [], _ => done
  | done, x :: xs, p =>
    let (i, p) := p.next
    placeAll (place done x i) xs p

/-- The items in the random order of the seed. -/
def shuffle (items : List α) (seed : UInt64) : List α :=
  if items.length ≤ 1 then items else placeAll [] items (.ofSeed seed)

end Golden.Shuffle
