import Golden.Host.CharClass

/-! # Patterns of the shell

A pattern is a text some of whose characters are quoted: these stand for themselves. It is made into
items, and a text is accepted if it is made of what the items stand for. -/

namespace Golden.Host.Shell

/-- A character that may be quoted. -/
structure Letter where
  char : Char
  isQuoted : Bool
  deriving DecidableEq, Inhabited

namespace Pattern

/-- What brackets hold. -/
inductive Member where
  | range (first last : Char)
  | named (name : String)
  deriving DecidableEq, Inhabited

/-- A part of a pattern. -/
inductive Item where
  | one
  | many
  | char (c : Char)
  | set (isInverted : Bool) (members : List Member)
  deriving DecidableEq, Inhabited

/-- The letters of a pattern: a backslash that is not quoted quotes what follows. -/
def settle : List Letter → List Letter
  | [] => []
  | [l] => [l]
  | l :: m :: rest =>
    if l = ⟨'\\', false⟩ then ⟨m.char, true⟩ :: settle rest else l :: settle (m :: rest)

/-- The members of brackets up to the closing one, from behind the opening one. The first letter
does not close them. -/
def members : Nat → Bool → List Letter → Option (List Member × List Letter)
  | 0, _, _ => none
  | _, _, [] => none
  | n + 1, isFirst, l :: rest =>
    if l = ⟨']', false⟩ && !isFirst then some ([], rest)
    else
      let go (m : Member) (rest : List Letter) : Option (List Member × List Letter) :=
        (members n false rest).map fun r => (m :: r.1, r.2)
      let known := if l = ⟨'[', false⟩ then
          (CharClass.atStart? ((rest.takeWhile (!·.isQuoted)).map Letter.char)).filter
            fun c => (CharClass.named? c.1).isSome
        else none
      match known, rest with
      | some (name, more), _ =>
        let used := (rest.takeWhile (!·.isQuoted)).length - more.length
        go (.named name) (rest.drop used)
      | none, ⟨'-', false⟩ :: last :: more =>
        if last = ⟨']', false⟩ then go (.range l.char l.char) rest
        else go (.range l.char last.char) more
      | none, _ => go (.range l.char l.char) rest

/-- The items of a pattern. Brackets that stay open stand for themselves. -/
def items : Nat → List Letter → List Item
  | 0, _ => []
  | _, [] => []
  | n + 1, l :: rest =>
    if l.isQuoted then .char l.char :: items n rest
    else
      match l.char with
      | '?' => .one :: items n rest
      | '*' => .many :: items n rest
      | '[' =>
        let (isInverted, inner) := match rest with
          | ⟨'!', false⟩ :: inner | ⟨'^', false⟩ :: inner => (true, inner)
          | _ => (false, rest)
        match members (inner.length + 1) true inner with
        | some (ms, more) => .set isInverted ms :: items n more
        | none => .char '[' :: items n rest
      | c => .char c :: items n rest

/-- The items of a pattern. -/
def compile (ls : List Letter) : List Item :=
  let ls := settle ls
  items (ls.length + 1) ls

/-- The place of an octet in the order of ranges. -/
def order (c : Char) : Int := if c.toNat < 128 then c.toNat else (c.toNat : Int) - 256

/-- Whether a member of brackets stands for a character. -/
def Member.accepts (c : Char) : Member → Bool
  | .range a b => order a ≤ order c && order c ≤ order b
  | .named name => ((CharClass.named? name).getD fun _ => false) c

/-- Whether items stand for a text. -/
def accepts : List Item → List Char → Bool
  | [], cs => cs.isEmpty
  | .many :: is, cs => accepts is cs || skip is cs
  | .one :: is, _ :: cs => accepts is cs
  | .char c :: is, d :: cs => c = d && accepts is cs
  | .set isInverted ms :: is, c :: cs => (ms.any (·.accepts c) != isInverted) && accepts is cs
  | _ :: _, [] => false
where
  /-- Whether items stand for an end of a text other than the whole. -/
  skip (is : List Item) : List Char → Bool
    | [] => false
    | _ :: cs => accepts is cs || skip is cs

end Pattern

end Golden.Host.Shell
