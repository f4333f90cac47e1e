import Golden.Host.Shell.Variables

/-! # Arguments of the commands of a shell -/

namespace Golden.Host.Shell

/-- A command of the shell: what it does with its arguments, and the status that it leaves. -/
abbrev Builtin : Type := List String → Sh Nat

namespace Builtin

/-- The letters of options. A letter with a colon behind it takes an argument. -/
def takesArgument? (letters : List Char) (c : Char) : Option Bool :=
  match letters with
  | [] => none
  | ':' :: rest => takesArgument? rest c
  | d :: rest => if c = d && c ≠ ':' then some (rest.head? = some ':') else takesArgument? rest c

/-- The options in an argument behind its dash. -/
def readLetters (letters : List Char) :
    List Char → List String → List (Char × String) → Sh (List (Char × String) × List String)
  | [], args, done => pure (done, args)
  | c :: cs, args, done =>
    match takesArgument? letters c with
    | none => Sh.fail ("Illegal option -" ++ String.singleton c)
    | some false => readLetters letters cs args (done ++ [(c, "")])
    | some true =>
      match cs, args with
      | [], [] => Sh.fail ("No arg for -" ++ String.singleton c ++ " option")
      | [], a :: args => pure (done ++ [(c, a)], args)
      | cs, args => pure (done ++ [(c, String.ofList cs)], args)

/-- The options at the beginning of arguments, with their own arguments, and the other arguments. -/
def readOptions (letters : List Char) :
    Nat → List String → List (Char × String) → Sh (List (Char × String) × List String)
  | 0, args, done => pure (done, args)
  | _, [], done => pure (done, [])
  | n + 1, a :: args, done =>
    match a.toList with
    | ['-', '-'] => pure (done, args)
    | '-' :: c :: cs => do
      let (done, args) ← readLetters letters (c :: cs) args done
      readOptions letters n args done
    | _ => pure (done, a :: args)

/-- The options at the beginning of arguments, and the other arguments. -/
def options (letters : String) (args : List String) : Sh (List (Char × String) × List String) :=
  readOptions letters.toList (args.length + 1) args []

/-- A whole number that a text stands for. -/
def integer (s : String) : Sh Int :=
  match Numbers.whole? (some 10) s with
  | some n => pure n
  | none => Sh.fail ("Illegal number: " ++ s)

/-- The greatest number of 32 bits. -/
def greatestNumber : Int := 2147483647

/-- A number that is not below zero. -/
def number (s : String) : Sh Nat := do
  match Numbers.whole? (some 10) s with
  | some n =>
    if 0 ≤ n && n ≤ greatestNumber then return n.toNat else Sh.fail ("Illegal number: " ++ s)
  | none => Sh.fail ("Illegal number: " ++ s)

end Builtin

end Golden.Host.Shell
