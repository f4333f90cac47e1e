import Golden.Host.CharClass

/-! # The syntax of the shell

A script is a list of commands. A command holds words, and a word is a list of marks: characters,
and signs that say where something is put in the place of a name, a command or an expression. What
belongs to such a sign goes up to the mark that closes it. A mark holds the command whose output
is put into a word, so that words and commands are defined together. -/

namespace Golden.Host.Shell

/-- What stands in a word for the value of a parameter. -/
inductive Usage where
  /-- A use that makes no sense. -/
  | bad
  | value
  /-- The word that follows, if the parameter is not set. -/
  | otherwise
  /-- The word that follows, if the parameter is set. -/
  | instead
  /-- An error with the word that follows, if the parameter is not set. -/
  | require
  /-- The word that follows, which the parameter is set to if it is not set. -/
  | assign
  /-- What is left when a pattern is cut off the front or the back. -/
  | cut (front longest : Bool)
  | length
  deriving DecidableEq, Inhabited

/-- Where a descriptor is opened to. -/
inductive Direction where
  | input
  | output
  | append
  /-- Output to a file, whether or not it is there. -/
  | clobber
  | both
  deriving DecidableEq, Inhabited

mutual

/-- A part of a word. -/
inductive Mark where
  /-- A character that is not quoted. -/
  | plain (c : Char)
  /-- A character that is quoted. -/
  | quoted (c : Char)
  /-- Where quotes begin or end. -/
  | quote
  /-- A parameter. Unless its value alone is used, a word follows, up to `close`. A parameter that
  is set to nothing counts as not set if `emptyToo`. -/
  | parameter (name : String) (usage : Usage) (emptyToo : Bool)
  | close
  /-- The output of a command. -/
  | output (c : Command)
  /-- The value of the expression that follows, up to `closeExpression`. -/
  | expression
  | closeExpression

/-- A command. The lines are those on which commands begin. -/
inductive Command where
  | empty
  /-- Assignments, the words of a command, and redirections. -/
  | simple (line : Nat) (assignments words : List (List Mark)) (redirects : List Redirect)
  | pipe (commands : List Command) (background : Bool)
  | redirected (line : Nat) (body : Command) (redirects : List Redirect)
  | background (line : Nat) (body : Command) (redirects : List Redirect)
  | subshell (line : Nat) (body : Command) (redirects : List Redirect)
  | both (first second : Command)
  | either (first second : Command)
  | seq (first second : Command)
  | negated (body : Command)
  | choice (condition yes : Command) (no : Option Command)
  | loop (condition body : Command) (untilHolds : Bool)
  | each (line : Nat) (name : String) (words : List (List Mark)) (body : Command)
  /-- The first branch one of whose patterns accepts the word. -/
  | select (line : Nat) (word : List Mark) (branches : List (List (List Mark) × Option Command))
  | function (name : String) (body : Command)

/-- A redirection of a descriptor. -/
inductive Redirect where
  | file (descriptor : Nat) (direction : Direction) (target : List Mark)
  /-- The descriptor becomes another one, which a word names. -/
  | same (descriptor : Nat) (isInput : Bool) (target : List Mark)
  /-- Input is a document, which stands on the lines behind and is known by its number. -/
  | document (descriptor : Nat) (number : Nat) (isExpanded : Bool)

end

instance : Inhabited Mark := ⟨.close⟩
instance : Inhabited Command := ⟨.empty⟩
instance : Inhabited Redirect := ⟨.document 0 0 false⟩

/-- A word of a command. -/
abbrev Word := List Mark

namespace Mark

/-- A text in a word. -/
def text (quoted : Bool) (s : String) : Word :=
  s.toList.map fun c => if quoted then .quoted c else .plain c

/-- The character of a mark. -/
def char? : Mark → Option Char
  | .plain c | .quoted c => some c
  | _ => none

/-- The characters of a word. -/
def textOf (w : Word) : String := String.ofList (w.filterMap char?)

end Mark

/-- Whether a text is a name. -/
def isName (s : String) : Bool :=
  match s.toList with
  | [] => false
  | c :: cs => CharClass.isNameStart c && cs.all CharClass.isNameChar

end Golden.Host.Shell
