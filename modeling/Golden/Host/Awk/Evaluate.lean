import Golden.Host.Awk.Natives
import Golden.Host.Awk.Streams
import Golden.Host.Calendar

/-! # Evaluating programs that go through records

An expression has a value, and a statement does something; both may change the state. A step deals
with one expression or statement, and leaves its parts to what it is given (`Doing`), so that
nothing lies deeper than a number of steps (`doing`). -/

namespace Golden.Host.Awk

/-- The functions of a program by their names. -/
abbrev Library : Type := Std.HashMap String Function

/-- How expressions and statements are dealt with. -/
structure Doing where
  value : Expr → Run Value
  perform : Stmt → Run Unit

namespace Run

/-! ### Places of values -/

/-- What can be given a value. -/
inductive Spot where
  | name (v : Place)
  | element (table : String) (k : Key)
  | field (n : Nat)
  deriving DecidableEq, Inhabited

/-- The array that a name stands for. -/
def tableOf (v : Place) : Run String := do
  match v with
  | .global name => return name
  | .argument i =>
    match (← state).cells[i]? with
    | some (.table key) => return key
    | _ => return ""

/-- The value of a name. -/
def getName (v : Place) : Run Value := do
  match v with
  | .global name => getScalar name
  | .argument i =>
    match (← state).cells[i]? with
    | some (.value v) => return v
    | _ => return .nothing

/-- The key that subscripts are. -/
def keyOfAll (d : Doing) (es : List Expr) : Run Key := do
  match es with
  | [e] => keyOf (← d.value e)
  | es =>
    let vs ← es.mapM d.value
    let texts ← spellAll vs
    return .text ((← scalarText "SUBSEP").intercalate texts)
where
  /-- The texts of values. -/
  spellAll : List Value → Run (List String)
    | [] => pure []
    | v :: vs => do
      let text ← textOf v
      return text :: (← spellAll vs)

/-- The number of a field. -/
def fieldNumber (v : Value) : Run Nat := do
  let n := toPlace v.toNumber
  if n < 0 then fail ("negative field index $" ++ toString n)
  return n.toNat

/-- What an expression names that can be given a value. -/
def spotOf (d : Doing) (e : Expr) : Run Spot := do
  match e with
  | .name v => return .name v
  | .element v es =>
    let k ← keyOfAll d es
    return .element (← tableOf v) k
  | .field e => return .field (← fieldNumber (← d.value e))
  | _ => return .field 0

/-- The value at a place. -/
def getSpot (p : Spot) : Run Value :=
  match p with
  | .name v => getName v
  | .element table k => element table k
  | .field n => field n

/-- Gives a value to a place. -/
def setSpot (p : Spot) (v : Value) : Run Unit :=
  match p with
  | .name (.global name) => setScalar name v
  | .name (.argument i) => change fun s => { s with cells := s.cells.setIfInBounds i (.value v) }
  | .element table k => setElement table k v
  | .field n => setField n v

/-- The value that is given: a text from outside stays what it is. -/
def assign (d : Doing) (target : Expr) (o : Option Operation) (e : Expr) : Run Value := do
  let p ← spotOf d target
  match p with
  | .element table k => let _ ← element table k
  | _ => pure ()
  let v ← d.value e
  let v ← match o with
    | none => pure v
    | some o => do
      let old ← getSpot p
      pure (Value.number (o.apply old.toNumber v.toNumber))
  setSpot p v
  return v

/-- Adds one to a place, or takes one away. -/
def step (d : Doing) (isUp isBefore : Bool) (target : Expr) : Run Value := do
  let p ← spotOf d target
  let old := (← getSpot p).toNumber
  let new := if isUp then old.add (Real.ofInt 1) else old.sub (Real.ofInt 1)
  setSpot p (.number new)
  return .number (if isBefore then new else old)

/-! ### Patterns -/

/-- The pattern that an expression stands for. -/
def matcherOf (d : Doing) (e : Expr) : Run Matcher := do
  match e with
  | .pattern m => return m
  | e =>
    let text ← textOf (← d.value e)
    ofPattern text (patternOf text)

/-- Whether a pattern matches a value. -/
def isMatch (m : Matcher) (v : Value) : Run Bool := do
  return m.accepts (← textOf v).toList.toArray

/-! ### Functions of the program -/

/-- What the arguments of a function stand for. `areTables` tells for each argument whether it is an
array. Gives also the arrays that have been made. -/
def cellsOf (d : Doing) : List Bool → List Expr → Run (List Cell × List String)
  | [], _ => pure ([], [])
  | true :: areTables, .name v :: es => do
    let key ← tableOf v
    let (cells, made) ← cellsOf d areTables es
    return (.table key :: cells, made)
  | true :: areTables, es => do
    let n := (← state).made
    change fun s => { s with made := n + 1 }
    let (cells, made) ← cellsOf d areTables es.tail
    return (.table (toString n) :: cells, toString n :: made)
  | false :: areTables, es => do
    let v ← match es with
      | e :: _ => d.value e
      | [] => pure .nothing
    let (cells, made) ← cellsOf d areTables es.tail
    return (.value v :: cells, made)

/-- Calls a function of the program. -/
def call (library : Library) (d : Doing) (name : String) (es : List Expr) : Run Value := do
  match library[name]? with
  | none => return .nothing
  | some f =>
    let (cells, made) ← cellsOf d f.areTables es
    let before := (← state).cells
    change fun s => { s with cells := cells.toArray }
    let r ← attempt (d.perform f.body)
    change fun s => { s with
      cells := before
      tables := made.foldl (fun t key => t.erase key) s.tables }
    match r with
    | .ok () => return .nothing
    | .error (.giveBack v) => return v
    | .error w => stop w

/-! ### Functions that every program has -/

/-- Replaces matches in a place. -/
def replace (d : Doing) (all : Bool) (es : List Expr) : Run Value := do
  match es with
  | pattern :: replacement :: rest =>
    let m ← matcherOf d pattern
    let new ← textOf (← d.value replacement)
    let p ← match rest with
      | e :: _ => spotOf d e
      | [] => pure (.field 0)
    let text ← textOf (← getSpot p)
    let (changed, n) := replaced m all new text
    if n ≠ 0 then setSpot p (.text changed)
    return .ofNat n
  | _ => return .nothing

/-- Cuts a text into the elements of an array. -/
def splitInto (d : Doing) (es : List Expr) : Run Value := do
  match es with
  | e :: .name v :: rest =>
    let text ← textOf (← d.value e)
    let p ← match rest with
      | [] => do
        let fs ← scalarText "FS"
        ofPattern fs (Splitter.ofText fs)
      | .pattern m :: _ => pure (.pattern m)
      | e :: _ => do
        let separator ← textOf (← d.value e)
        ofPattern separator (Splitter.ofText separator)
    let parts := p.split text
    setTable (← tableOf v) (.ofList (parts.map .given))
    return .ofNat parts.length
  | _ => return .nothing

/-- Looks for a pattern, and notes where it is. -/
def locate (d : Doing) (es : List Expr) : Run Value := do
  match es with
  | [e, pattern] =>
    let text ← textOf (← d.value e)
    let m ← matcherOf d pattern
    let place := (m.find? text.toList.toArray 0).bind fun c => c.getD 0 none
    let (start, length) : Nat × Int := match place with
      | some (a, b) => (a + 1, (b - a : Nat))
      | none => (0, -1)
    putScalar "RSTART" (.ofNat start)
    putScalar "RLENGTH" (.number (Real.ofInt length))
    return .ofNat start
  | _ => return .nothing

/-- Lays out a text. What has been laid out before a mistake is written if `to` tells where. -/
def layOutAll (target : Option (Option (Direction × String))) (statement : String)
    (vs : List Value) : Run String := do
  match vs with
  | [] => return ""
  | v :: vs =>
    let format ← textOf v
    let conversion ← conversion
    match layOut (fun v => v.toText conversion) format vs with
    | (text, none) => return text
    | (text, some fault) =>
      match target with
      | some target => write target text
      | none => pure ()
      let rest := statement ++ "(\"" ++ format ++ "\")"
      match fault with
      | .fewValues => fail ("not enough arguments passed to " ++ rest)
      | .badItem n => fail ("improper conversion(number " ++ toString n ++ ") in " ++ rest)

/-- The number of nanoseconds in a second. -/
def nanosecond : Int := 1000000000

/-- The number of elements of an array, or of characters of a text. -/
def measure (d : Doing) (es : List Expr) : Run Value := do
  let ofText (v : Value) : Run Value := do
    return .ofNat (← textOf v).length
  match es with
  | [] => ofText (← field 0)
  | .name (.global name) :: _ =>
    match (← state).tables[name]? with
    | some t => return .ofNat t.size
    | none => ofText (← getScalar name)
  | .name (.argument i) :: _ =>
    match (← state).cells[i]? with
    | some (.table key) => withTable key fun t => (.ofNat t.size, t)
    | some (.value v) => ofText v
    | none => ofText .nothing
  | e :: _ => ofText (← d.value e)

/-- The moment that the words of a text stand for. -/
def momentOf? (text : String) : Option Int :=
  let numbers := ((text.splitToList isBlank).filter (· ≠ "")).map fun w =>
    (Numbers.scan (some 10) w.toList).value
  match numbers with
  | year :: month :: day :: hour :: minute :: second :: _ =>
    let month := year * 12 + month - 1
    let first := Calendar.dayNumber (month / 12) ((month % 12).toNat + 1) 1
    some ((first + day - 1) * 86400 + hour * 3600 + minute * 60 + second)
  | _ => none

/-- Calls a function that every program has. -/
def native (d : Doing) (f : Native) (es : List Expr) : Run Value := do
  match f with
  | .length => measure d es
  | .sub => replace d false es
  | .gsub => replace d true es
  | .split => splitInto d es
  | .matchFirst => locate d es
  | f =>
    let vs ← es.mapM d.value
    match f, vs with
    | .index, [a, b] =>
      let text ← textOf a
      let part ← textOf b
      return .ofNat (placeOf part.toList 1 text.toList)
    | .substr, a :: b :: rest =>
      let text ← textOf a
      let length := rest.head?.map fun v => toPlace v.toNumber
      return .text (partOf text (toPlace b.toNumber) length)
    | .sprintf, vs => return .text (← layOutAll none "sprintf" vs)
    | .lower, [a] => return .text ((← textOf a).map Char.toLower)
    | .upper, [a] => return .text ((← textOf a).map Char.toUpper)
    | .atan2, [a, b] =>
      return .number (Real.ofFloat (Float.atan2 a.toNumber.toFloat b.toNumber.toFloat))
    | .rand, _ =>
      let n := nextRandom (← state).random
      change fun s => { s with random := n }
      return .number ((Real.ofInt n).div (Real.ofInt 2147483648))
    | .srand, vs =>
      let before := (← state).seed
      let now : Nat ← ask .now
      let seed := vs.headD (.ofNat (now / 1000000000))
      change fun s => { s with seed, random := (toPlace seed.toNumber).natAbs }
      return before
    | .system, [a] =>
      flushAll
      let command ← textOf a
      let ending : Ending ← ask (.perform command)
      return .ofNat (statusOf ending)
    | .close, [a] => return .number (Real.ofInt (← close (← textOf a)))
    | .flush, [] =>
      ask .flush
      return .ofNat 0
    | .flush, a :: _ =>
      let name ← textOf a
      let sinks := (← state).sinks.filter (·.name = name)
      sinks.forM drain
      change fun s => { s with
        sinks := s.sinks.map fun k => if k.name = name then { k with pending := "" } else k }
      return .number (Real.ofInt (if sinks = [] then -1 else 0))
    | .now, _ =>
      let now : Nat ← ask .now
      return .ofNat (now / 1000000000)
    | .formatTime, vs =>
      let now : Nat ← ask .now
      let format ← match vs with
        | v :: _ => textOf v
        | [] => pure "%c"
      let time := match vs with
        | _ :: t :: _ => toPlace t.toNumber * nanosecond
        | _ => now
      return .text (String.ofList (Calendar.format (Calendar.momentOf time) format.toList))
    | .makeTime, [a] =>
      return .number (Real.ofInt ((momentOf? (← textOf a)).getD (-1)))
    | f, vs =>
      match f.real?, vs with
      | some g, v :: _ => return .number (g v.toNumber)
      | _, _ => return .nothing

/-! ### Records -/

/-- Notes a record that has been read. -/
def keepRecord (target : Option Spot) (text : String) : Run Unit := do
  match target with
  | some p => setSpot p (.given text)
  | none => setRecord (.given text)

/-- Reads a record. The value is one, or zero at the end, or less if there is nothing to read. -/
def readRecord (d : Doing) (o : Origin) (source target : Option Expr) : Run Value := do
  let name ← match source with
    | some e => do textOf (← d.value e)
    | none => pure ""
  let p ← match target with
    | some e => some <$> spotOf d e
    | none => pure none
  let result (n : Int) : Run Value := pure (.number (Real.ofInt n))
  match o with
  | .main =>
    match ← nextMain manySteps with
    | some text =>
      keepRecord p text
      result 1
    | none => result 0
  | o =>
    match ← nextOf (o = .command) name with
    | none => result (-1)
    | some none => result 0
    | some (some text) =>
      keepRecord p text
      result 1

/-! ### Expressions -/

/-- The value of an expression. -/
def valueStep (library : Library) (d : Doing) (e : Expr) : Run Value := do
  match e with
  | .number r => return .number r
  | .text s => return .text s
  | .pattern m => return ofBool (← isMatch m (← field 0))
  | .name v => getName v
  | .element .. => getSpot (← spotOf d e)
  | .field .. => getSpot (← spotOf d e)
  | .assign t o e => assign d t o e
  | .step isUp isBefore t => step d isUp isBefore t
  | .calculate o a b =>
    let x ← d.value a
    let y ← d.value b
    return .number (o.apply x.toNumber y.toNumber)
  | .join a b =>
    let x ← textOf (← d.value a)
    let y ← textOf (← d.value b)
    return .text (x ++ y)
  | .compare r a b =>
    let x ← d.value a
    let y ← d.value b
    return ofBool (r.holds (x.order (← conversion) y))
  | .matching isInverted a b =>
    let x ← d.value a
    let m ← matcherOf d b
    return ofBool ((← isMatch m x) != isInverted)
  | .isIn es v =>
    let k ← keyOfAll d es
    return ofBool (← hasElement (← tableOf v) k)
  | .and a b =>
    let x ← d.value a
    if x.isTrue then return ofBool (← d.value b).isTrue else return ofBool false
  | .or a b =>
    let x ← d.value a
    if x.isTrue then return ofBool true else return ofBool (← d.value b).isTrue
  | .not a => return ofBool !(← d.value a).isTrue
  | .minus a => return .number (← d.value a).toNumber.neg
  | .plus a => return .number (← d.value a).toNumber
  | .choose c a b =>
    let x ← d.value c
    if x.isTrue then d.value a else d.value b
  | .call f es => call library d f es
  | .native f es => native d f es
  | .read o source target => readRecord d o source target

/-! ### Statements -/

/-- Goes through a loop as long as it goes on. -/
def loop (c : Run Bool) (step body : Run Unit) : Nat → Run Unit
  | 0 => pure ()
  | n + 1 => do
    let goesOn ← c
    if goesOn then
      match ← attempt body with
      | .ok () | .error .nextRound =>
        step
        loop c step body n
      | .error .leaveLoop => return ()
      | .error w => stop w
    else return ()

/-- Goes through the keys of an array. -/
def eachKey (set : Value → Run Unit) (body : Run Unit) : List String → Run Unit
  | [] => pure ()
  | k :: ks => do
    set (.given k)
    match ← attempt body with
    | .ok () | .error .nextRound => eachKey set body ks
    | .error .leaveLoop => return ()
    | .error w => stop w

/-- Where something is written to. -/
def directionOf (d : Doing) (target : Option (Direction × Expr)) :
    Run (Option (Direction × String)) := do
  match target with
  | none => return none
  | some (how, e) => return some (how, ← textOf (← d.value e))

/-- The texts of values that are written. -/
def shown (format : String) (vs : List Value) : List String := vs.map (·.toText format)

/-- Whether an expression is true. -/
def isTrue (d : Doing) (e : Expr) : Run Bool := do
  return (← d.value e).isTrue

/-- Evaluates an expression for what it does. -/
def evaluate (d : Doing) (e : Expr) : Run Unit := do
  let _ ← d.value e

/-- Does what a statement says. -/
def performStep (d : Doing) (s : Stmt) : Run Unit := do
  match s with
  | .expr e => evaluate d e
  | .print es target =>
    let vs ← match es with
      | [] => do pure [← field 0]
      | es => es.mapM d.value
    let target ← directionOf d target
    let format ← scalarText "OFMT"
    let ofs ← scalarText "OFS"
    let ors ← scalarText "ORS"
    write target (ofs.intercalate (shown format vs) ++ ors)
  | .printf es target =>
    let vs ← es.mapM d.value
    let target ← directionOf d target
    write target (← layOutAll (some target) "printf" vs)
  | .block ss => ss.forM d.perform
  | .choose c a b =>
    let holds ← isTrue d c
    if holds then d.perform a
    else
      match b with
      | some s => d.perform s
      | none => return ()
  | .loop c body => loop (isTrue d c) (pure ()) (d.perform body) manySteps
  | .loopBehind body c =>
    match ← attempt (d.perform body) with
    | .ok () | .error .nextRound => loop (isTrue d c) (pure ()) (d.perform body) manySteps
    | .error .leaveLoop => return ()
    | .error w => stop w
  | .loopWith first c step body =>
    match first with
    | some s => d.perform s
    | none => pure ()
    let holds : Run Bool := match c with
      | some e => isTrue d e
      | none => pure true
    let step : Run Unit := match step with
      | some s => d.perform s
      | none => pure ()
    loop holds step (d.perform body) manySteps
  | .each t v body =>
    let keys ← withTable (← tableOf v) Table.keys
    let p ← spotOf d t
    eachKey (setSpot p) (d.perform body) keys
  | .next => stop .next
  | .nextFile => stop .nextFile
  | .exit e =>
    match e with
    | some e =>
      let v ← d.value e
      change fun s => { s with status := (toPlace v.toNumber % 256).toNat }
    | none => pure ()
    stop .exit
  | .giveBack e =>
    match e with
    | some e => stop (.giveBack (← d.value e))
    | none => stop (.giveBack .nothing)
  | .leaveLoop => stop .leaveLoop
  | .nextRound => stop .nextRound
  | .delete v es =>
    let table ← tableOf v
    match es with
    | [] => setTable table .empty
    | es => deleteElement table (← keyOfAll d es)

/-- Deals with expressions and statements whose parts lie at most `n` deep in each other. -/
def doing (library : Library) : Nat → Doing
  | 0 => ⟨fun _ => stop .exit, fun _ => stop .exit⟩
  | n + 1 =>
    ⟨fun e => valueStep library (doing library n) e, fun s => performStep (doing library n) s⟩

/-! ### Rules -/

/-- Whether a rule applies to the record. A range is known by the number of its rule. -/
def applies (d : Doing) (number : Nat) (p : Pattern) : Run Bool := do
  match p with
  | .begins | .ends => return false
  | .always => return true
  | .when e => isTrue d e
  | .range a b =>
    let isOpen := (← state).ranges.contains number
    let begins ← if isOpen then pure true else isTrue d a
    if begins then
      let isLast ← isTrue d b
      let others := (← state).ranges.filter (· ≠ number)
      change fun s => { s with ranges := if isLast then others else number :: others }
      return true
    else return false

/-- Applies rules to the record. -/
def applyRules (d : Doing) : List (Rule × Nat) → Run Unit
  | [] => pure ()
  | (r, number) :: rest => do
    let isWanted ← applies d number r.pattern
    if isWanted then d.perform (r.body.getD (.print [] none))
    applyRules d rest

/-- Applies rules to all records. -/
def applyToAll (d : Doing) (rules : List (Rule × Nat)) : Nat → Run Unit
  | 0 => pure ()
  | n + 1 => do
    match ← nextMain manySteps with
    | none => return ()
    | some text =>
      setRecord (.given text)
      match ← attempt (applyRules d rules) with
      | .ok () | .error .next => applyToAll d rules n
      | .error .nextFile =>
        leaveFile
        applyToAll d rules n
      | .error w => stop w

/-- Does what the rules of a kind say, one behind the other. -/
def performAll (d : Doing) (rules : List Rule) : Run Unit :=
  rules.forM fun r => d.perform (r.body.getD (.block []))

/-- Whether a rule is done first. -/
def isFirst (r : Rule) : Bool := match r.pattern with
  | .begins => true
  | _ => false

/-- Whether a rule is done last. -/
def isLast (r : Rule) : Bool := match r.pattern with
  | .ends => true
  | _ => false

/-- Runs a program. -/
def code (c : Code) : Run Unit := do
  let library : Library := c.functions.foldl (fun l f => l.insert f.name f) ∅
  let d := doing library manySteps
  let first := c.rules.filter isFirst
  let last := c.rules.filter isLast
  let others := c.rules.zipIdx.filter fun r => !isFirst r.1 && !isLast r.1
  let front : Run Unit := do
    performAll d first
    if others.isEmpty && last.isEmpty then return ()
    applyToAll d others manySteps
  let r ← attempt front
  let r ← match r with
    | .ok () | .error .exit =>
      match ← attempt (performAll d last) with
      | .error (.failure e) => pure (Except.error (Stop.failure e))
      | _ => pure (Except.ok ())
    | r => pure r
  closeAll
  match r with
  | .error (.failure e) => stop (.failure e)
  | _ => return ()

end Run

end Golden.Host.Awk
