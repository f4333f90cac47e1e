import Std.Data.HashMap

/-! # Arrays with an order

The elements of an array are found by texts. Texts that are whole numbers can also be found by their
numbers, and as long as they are the array does not look at the texts. The keys lie in heaps, which
tell the order in which they are gone through: those of a heap lie in the order in which they have
been looked for, the latest first. -/

namespace Golden.Host.Awk

/-- The number of a text from which its heap is told. -/
def keyNumber (s : String) : Nat :=
  s.foldl (fun h c => (((h.toUInt32 ^^^ c.val) * 16777619).toNat)) 2166136261

/-- An array. -/
structure Table (α : Type) where
  values : Std.HashMap String α
  /-- The keys that are numbers, in heaps. -/
  numbers : Array (List Int)
  /-- The keys that have been looked at as texts, in heaps. -/
  texts : Array (List String)
  /-- All keys lie in heaps of texts. -/
  hasTexts : Bool
  /-- The keys are the numbers from one up to that of elements. -/
  isRow : Bool

namespace Table

variable {α : Type}

/-- The number of heaps at first. -/
def firstHeaps : Nat := 64

/-- An array with no elements. -/
def empty : Table α :=
  ⟨∅, Array.replicate firstHeaps [], Array.replicate firstHeaps [], false, false⟩

instance : Inhabited (Table α) := ⟨empty⟩

/-- The number of elements. -/
def size (t : Table α) : Nat := t.values.size

/-- The heap of a number. -/
def numberHeap (t : Table α) (n : Int) : Nat := (n % (t.numbers.size : Int)).toNat

/-- The heap of a text. -/
def textHeap (t : Table α) (s : String) : Nat := keyNumber s % t.texts.size

/-- Puts a number on top of its heap. -/
def raiseNumber (t : Table α) (n : Int) : Table α :=
  { t with numbers := t.numbers.modify (t.numberHeap n) fun l => n :: l.erase n }

/-- Puts a text on top of its heap. -/
def raiseText (t : Table α) (s : String) : Table α :=
  { t with texts := t.texts.modify (t.textHeap s) fun l => s :: l.erase s }

/-- Doubles the number of heaps. -/
def widen (t : Table α) : Table α :=
  let n := 2 * t.texts.size
  let heap (s : String) : Nat := keyNumber s % n
  let numberHeap (k : Int) : Nat := (k % (n : Int)).toNat
  let split {β : Type} (heaps : Array (List β)) (heap : β → Nat) : Array (List β) :=
    (Array.range n).map fun i =>
      ((heaps[i % heaps.size]?).getD []).filter fun k => heap k = i
  { t with numbers := split t.numbers numberHeap, texts := split t.texts heap }

/-- The greatest number of keys of a heap, if all have as many. -/
def heapLimit : Nat := 12

/-- Makes room for one more element. -/
def grow (t : Table α) : Table α := if heapLimit * t.texts.size < t.size then t.widen else t

/-- The keys of a row as numbers in heaps. -/
def settle (t : Table α) : Table α :=
  if t.isRow then
    let rec heaps (k : Nat) : Nat → Nat
      | 0 => k
      | n + 1 => if heapLimit * k < t.size then heaps (2 * k) n else k
    let k := heaps firstHeaps t.size
    let base : Table α := ⟨t.values, Array.replicate k [], Array.replicate k [], false, false⟩
    (List.range t.size).foldl (fun b (i : Nat) => b.raiseNumber ((i : Int) + 1)) base
  else t

/-- Looks at all keys as texts. -/
def addTexts (t : Table α) : Table α :=
  let t := t.settle
  if t.hasTexts then t
  else
    let known (s : String) : Bool := ((t.texts[t.textHeap s]?).getD []).contains s
    let t := t.numbers.foldl (fun t l => l.foldl (fun t n =>
      let s := toString n
      if known s then t else t.raiseText s) t) t
    { t with hasTexts := true }

/-- Notes that a text has been looked for, which is there. -/
def touchText (t : Table α) (s : String) : Table α := t.addTexts.raiseText s

/-- Notes that a number has been looked for, which is there. -/
def touchNumber (t : Table α) (n : Int) : Table α :=
  if t.isRow then t
  else
    let isKnown := ((t.numbers[t.numberHeap n]?).getD []).contains n
    if isKnown then t.raiseNumber n else (t.touchText (toString n)).raiseNumber n

/-- The value of a text. -/
def get? (t : Table α) (s : String) : Option α := t.values[s]?

/-- Makes an element that is found by a text. -/
def makeText (t : Table α) (s : String) (a : α) : Table α :=
  let t := t.addTexts
  ({ t with values := t.values.insert s a }).grow.raiseText s

/-- Makes an element that is found by a number. -/
def makeNumber (t : Table α) (n : Int) (a : α) : Table α :=
  let t := t.settle
  if t.hasTexts then (t.makeText (toString n) a).raiseNumber n
  else ({ t with values := t.values.insert (toString n) a }).grow.raiseNumber n

/-- Changes the value of an element. -/
def set (t : Table α) (s : String) (a : α) : Table α :=
  { t with values := t.values.insert s a }

/-- Takes an element away. -/
def erase (t : Table α) (s : String) : Table α :=
  let t := t.settle
  let numbers := match s.toInt? with
    | some n => if toString n = s then t.numbers.modify (t.numberHeap n) (·.erase n) else t.numbers
    | none => t.numbers
  let t := { t with
    values := t.values.erase s
    numbers
    texts := t.texts.modify (t.textHeap s) (·.erase s) }
  if t.size = 0 then empty else t

/-- An array whose keys are the numbers from one on. -/
def ofList (as : List α) : Table α :=
  if as.isEmpty then empty
  else
    let values := (as.foldl (fun (m : Std.HashMap String α × Nat) a =>
      (m.1.insert (toString m.2) a, m.2 + 1)) (∅, 1)).1
    { (empty : Table α) with values, isRow := true }

/-- The keys in their order. All keys have been looked at as texts then. -/
def keys (t : Table α) : List String × Table α :=
  let t := t.addTexts
  (t.texts.toList.flatten, t)

end Table

end Golden.Host.Awk
