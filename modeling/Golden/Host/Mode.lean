import Golden.Host.Numbers

/-! # Permissions

Permissions are told as digits of base eight, or as changes: for whom, whether they are added, taken
away or set, and which. -/

namespace Golden.Host.Mode

/-- The permissions that letters ask for, for everyone. Some depend on what is there. -/
def permissionsOf (isDirectory : Bool) (mode : Nat) : List Char → Option Nat
  | [] => some 0
  | c :: cs => do
    let rest ← permissionsOf isDirectory mode cs
    let own ← match c with
      | 'r' => some 0o444
      | 'w' => some 0o222
      | 'x' => some 0o111
      | 'X' => some (if isDirectory || mode &&& 0o111 ≠ 0 then 0o111 else 0)
      | 's' => some 0o6000
      | 't' => some 0o1000
      | 'u' => some ((mode / 64 % 8) * 0o111)
      | 'g' => some ((mode / 8 % 8) * 0o111)
      | 'o' => some ((mode % 8) * 0o111)
      | _ => none
    return own ||| rest

/-- The part of a mode that letters for users stand for. -/
def usersOf : List Char → Nat
  | [] => 0
  | c :: cs =>
    let own := match c with
      | 'u' => 0o4700
      | 'g' => 0o2070
      | 'o' => 0o1007
      | _ => 0o7777
    own ||| usersOf cs

/-- A mode without some bits. -/
def without (mode bits : Nat) : Nat := mode - (mode &&& bits)

/-- Applies operators, each with permissions, for some users. -/
def applyAll (users : Nat) (isDirectory : Bool) : Nat → Nat → List Char → Option Nat
  | 0, _, _ => none
  | _, mode, [] => some mode
  | n + 1, mode, op :: cs => do
    if op ≠ '+' && op ≠ '-' && op ≠ '=' then none
    let letters := cs.takeWhile fun c => c ≠ '+' && c ≠ '-' && c ≠ '='
    let bits := (← permissionsOf isDirectory mode letters) &&& users
    let kept := if isDirectory then users &&& 0o777 else users
    let mode := match op with
      | '+' => mode ||| bits
      | '-' => without mode bits
      | _ => without mode kept ||| bits
    applyAll users isDirectory n mode (cs.drop letters.length)

/-- Applies one of the changes that commas separate. -/
def applyOne (isDirectory : Bool) (mask mode : Nat) (cs : List Char) : Option Nat :=
  let who := cs.takeWhile fun c => c ∈ ['u', 'g', 'o', 'a']
  let users := if who = [] then without 0o7777 mask else usersOf who
  let rest := cs.drop who.length
  if rest = [] then none else applyAll users isDirectory (rest.length + 1) mode rest

/-- A mode after a change. A change without users spares what the mask holds. -/
def change? (text : String) (mode : Nat) (isDirectory : Bool) (mask : Nat) : Option Nat :=
  if text ≠ "" && text.toList.all fun c => '0' ≤ c && c ≤ '7' then
    let n := Numbers.ofDigits 8 text.toList
    if n ≤ 0o7777 then some n else none
  else
    (text.splitOn ",").foldl
      (fun m t => m.bind fun m => applyOne isDirectory mask m t.toList) (some mode)

/-- The letters of a mode. -/
def spell (mode : Nat) : String :=
  let three (n : Nat) (special : Bool) (small large : Char) : List Char :=
    [if n &&& 4 ≠ 0 then 'r' else '-', if n &&& 2 ≠ 0 then 'w' else '-',
     if special then (if n &&& 1 ≠ 0 then small else large)
     else if n &&& 1 ≠ 0 then 'x' else '-']
  String.ofList (three (mode / 64 % 8) (mode &&& 0o4000 ≠ 0) 's' 'S' ++
    three (mode / 8 % 8) (mode &&& 0o2000 ≠ 0) 's' 'S' ++
    three (mode % 8) (mode &&& 0o1000 ≠ 0) 't' 'T')

end Golden.Host.Mode
