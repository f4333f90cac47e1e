import Golden.Host.Shell.Expand

/-! # Redirections

The descriptors of a command are opened elsewhere as its redirections say. What they were before is
kept on descriptors that the command does not know, and put back afterwards. -/

namespace Golden.Host.Shell

/-- A descriptor as it was before a redirection: where it is kept, if it was open. -/
structure Kept where
  descriptor : Nat
  copy : Option Nat
  deriving DecidableEq, Inhabited

namespace Redirect

/-- The words for a refusal to open a file. -/
def openWords : Errno → String
  | .noEntry | .notDirectory => "No such file"
  | e => e.words

/-- The words for a refusal to make a file. -/
def makeWords : Errno → String
  | .noEntry | .notDirectory => "Directory nonexistent"
  | e => e.words

/-- What a redirection leads to: a file, a descriptor or nothing, or a text. -/
inductive Target where
  | path (path : String)
  | descriptor (d : Option Nat)
  | document (w : Word) (isExpanded : Bool)

/-- The descriptor that a text names. -/
def descriptorOf (text : String) : Sh Target := do
  match text.toList with
  | ['-'] => return .descriptor none
  | [c] =>
    if c.isDigit then return .descriptor (some (c.toNat - '0'.toNat))
    else Sh.fail "Bad fd number"
  | _ => Sh.fail "Bad fd number"

/-- The descriptor of a redirection, and what it leads to. -/
def targetOf (run : Expand.Runner) (r : Redirect) : Sh (Nat × Redirect × Target) := do
  match r with
  | .file d _ w => return (d, r, .path (← Expand.text run .single w))
  | .same d _ w => return (d, r, ← descriptorOf (← Expand.text run .single w))
  | .document d n isExpanded => do
    let s ← get
    return (d, r, .document ((s.documents.lookup n).getD []) isExpanded)

/-- Opens a file, and says so if that is refused. -/
def openFile (path : String) (how : Opening) : Sh Nat := do
  match ← Sh.act (Act.openFile path how) with
  | .ok d => return d
  | .error e =>
    if how.makes then Sh.fail ("cannot create " ++ path ++ ": " ++ makeWords e)
    else Sh.fail ("cannot open " ++ path ++ ": " ++ openWords e)

/-- Opens a file for output that must not be replaced. -/
def openCareful (path : String) : Sh Nat := do
  let refused : Sh Nat := Sh.fail ("cannot create " ++ path ++ ": " ++ makeWords .alreadyThere)
  match ← Sh.act (Act.facts? path true) with
  | none => openFile path .toMake
  | some f =>
    if f.kind = .regular then refused
    else openFile path { Opening.toWrite with makes := false, empties := false }

/-- The number of octets of a document that are written at once. -/
def documentLimit : Nat := 4096

/-- Opens a pipe from which a text can be read. -/
def openText (text : String) : Sh Nat := do
  match ← Sh.call .pipe with
  | .error _ => Sh.fail "Pipe call failed"
  | .ok ((r, w) : Nat × Nat) =>
    if text.length ≤ documentLimit then
      let _ ← Sh.act (Act.write w text)
      pure ()
    else
      let writer : Act Nat := do
        Act.close r
        let _ ← Act.write w text
        return 0
      let _ ← Sh.act (Act.fork writer)
      pure ()
    Sh.act (Act.close w)
    return r

/-- Opens what a redirection leads to. The descriptor is new unless it is named. -/
def openTarget (run : Expand.Runner) (r : Redirect) (t : Target) : Sh (Option Nat × Bool) := do
  match t, r with
  | .descriptor d, _ => return (d, false)
  | .document w isExpanded, _ =>
    let text ← if isExpanded then Expand.text run .document w else pure (Mark.textOf w)
    return (some (← openText text), true)
  | .path path, .file _ direction _ =>
    match direction with
    | .input => return (some (← openFile path .toRead), true)
    | .both => return (some (← openFile path .toBoth), true)
    | .append => return (some (← openFile path .toAppend), true)
    | .clobber => return (some (← openFile path .toWrite), true)
    | .output =>
      let s ← get
      if s.has 'C' then return (some (← openCareful path), true)
      else return (some (← openFile path .toWrite), true)
  | .path _, _ => return (none, false)

/-- The least descriptor that copies are kept on. -/
def firstCopy : Nat := 10

/-- Keeps a descriptor as it is. -/
def keep (d : Nat) : Sh Kept := do
  match ← Sh.call (.duplicate d firstCopy true) with
  | .ok (n : Nat) => return ⟨d, some n⟩
  | .error _ => return ⟨d, none⟩

/-- Lets a descriptor lead to what has been opened. -/
def install (d : Nat) (opened : Option Nat) (isNew : Bool) : Sh Unit := do
  match opened with
  | none => Sh.act (Act.close d)
  | some f =>
    if f ≠ d then
      match ← Sh.call (.duplicateTo f d) with
      | .ok _ => if isNew then Sh.act (Act.close f) else pure ()
      | .error e =>
        Sh.fail (toString f ++ ": " ++ e.words)

/-- Follows redirections. What the descriptors were before is kept if `keeps`, even when a
redirection fails. -/
def follow (run : Expand.Runner) (keeps : Bool) :
    List (Nat × Redirect × Target) → List Kept → Sh (Except Stop Unit × List Kept)
  | [], kept => pure (.ok (), kept)
  | (d, r, t) :: rest, kept => do
    match ← Sh.attempt (openTarget run r t) with
    | .error e => return (.error e, kept)
    | .ok (opened, isNew) =>
      if opened = some d && !isNew then follow run keeps rest kept
      else do
        let isKept := kept.any (·.descriptor = d)
        let kept ← if keeps && !isKept then do
            if opened = some d then pure (kept ++ [⟨d, none⟩])
            else do
              let k ← keep d
              pure (kept ++ [k])
          else pure kept
        match ← Sh.attempt (install d opened isNew) with
        | .error e => return (.error e, kept)
        | .ok () => follow run keeps rest kept

/-- Puts descriptors back. -/
def restore (kept : List Kept) : Sh Unit :=
  kept.forM fun k =>
    match k.copy with
    | none => Sh.act (Act.close k.descriptor)
    | some n => do
      let _ ← Sh.call (.duplicateTo n k.descriptor)
      Sh.act (Act.close n)

/-- Forgets how descriptors were. -/
def forget (kept : List Kept) : Sh Unit :=
  kept.forM fun k =>
    match k.copy with
    | none => pure ()
    | some n => Sh.act (Act.close n)

end Redirect

end Golden.Host.Shell
