import Golden.Host.Numbers

/-! # The calendar

A moment is counted in nanoseconds from the beginning of 1970, in universal time. It is read from
texts (`Calendar.read?`) and written as a format asks (`Calendar.format`). -/

namespace Golden.Host.Calendar

/-- A day and a time of day. -/
structure Moment where
  year : Int
  month : Nat
  day : Nat
  hour : Nat
  minute : Nat
  second : Nat
  nano : Nat
  deriving DecidableEq, Inhabited

/-- The number of a day of the calendar, from the first day of 1970. -/
def dayNumber (year : Int) (month day : Nat) : Int :=
  let y := if month ≤ 2 then year - 1 else year
  let era := y / 400
  let ofEra := y % 400
  let shifted : Int := if 2 < month then month - 3 else month + 9
  let ofYear := (153 * shifted + 2) / 5 + day - 1
  era * 146097 + (ofEra * 365 + ofEra / 4 - ofEra / 100 + ofYear) - 719468

/-- The day of the calendar that has a number. -/
def dayOf (n : Int) : Int × Nat × Nat :=
  let z := n + 719468
  let era := z / 146097
  let ofEra := z % 146097
  let y := (ofEra - ofEra / 1460 + ofEra / 36524 - ofEra / 146096) / 365
  let ofYear := ofEra - (365 * y + y / 4 - y / 100)
  let shifted := (5 * ofYear + 2) / 153
  let day := ofYear - (153 * shifted + 2) / 5 + 1
  let month := if shifted < 10 then shifted + 3 else shifted - 9
  (y + era * 400 + (if month ≤ 2 then 1 else 0), month.toNat, day.toNat)

/-- The nanoseconds in a second. -/
def nanosecond : Int := 1000000000

/-- The moment at a number of nanoseconds. -/
def momentOf (t : Int) : Moment :=
  let seconds := t / nanosecond
  let (year, month, day) := dayOf (seconds / 86400)
  let ofDay := (seconds % 86400).toNat
  ⟨year, month, day, ofDay / 3600, ofDay / 60 % 60, ofDay % 60, (t % nanosecond).toNat⟩

/-- The number of nanoseconds at a moment. -/
def timeOf (m : Moment) : Int :=
  (dayNumber m.year m.month m.day * 86400 + m.hour * 3600 + m.minute * 60 + m.second) *
    nanosecond + m.nano

/-! ### Reading -/

/-- The names of the months. -/
def months : List String :=
  ["January", "February", "March", "April", "May", "June", "July", "August", "September",
   "October", "November", "December"]

/-- The names of the days of the week. -/
def weekDays : List String :=
  ["Sunday", "Monday", "Tuesday", "Wednesday", "Thursday", "Friday", "Saturday"]

/-- The place of a name or of its first three letters in a list. -/
def place? (names : List String) (word : String) : Option Nat :=
  names.findIdx? fun n => n.toLower = word || ((n.take 3).toString.toLower = word)

/-- The digits of a number. -/
def digits? (s : String) : Option Nat :=
  if s ≠ "" && s.toList.all Char.isDigit then some (Numbers.ofDigits 10 s.toList) else none

/-- The nanoseconds that the digits behind a point stand for. -/
def fraction (s : String) : Nat :=
  Numbers.ofDigits 10 ((s.toList ++ List.replicate 9 '0').take 9)

/-- Whether there is such a day. -/
def isDay (year : Int) (month day : Nat) : Bool :=
  1 ≤ month && month ≤ 12 && 1 ≤ day && dayOf (dayNumber year month day) = (year, month, day)

/-- What is read of a date: a day, a time of day, and what is added. -/
structure Reading where
  base : Moment
  hasTime : Bool
  hasDay : Bool
  months : Int
  seconds : Int
  deriving DecidableEq, Inhabited

/-- Sets the day. -/
def Reading.withDay? (r : Reading) (year : Int) (month day : Nat) : Option Reading :=
  if isDay year month day then
    some { r with base := { r.base with year, month, day }, hasDay := true }
  else none

/-- Reads a time of day. -/
def Reading.withTime? (r : Reading) (word : String) : Option Reading := do
  let (word, zone) := if word.endsWith "z" then ((word.take (word.length - 1)).toString, 0)
    else
      match word.splitOn "+", word.splitOn "-" with
      | [w, z], _ => (w, zoneOf z)
      | _, [w, z] => (w, -zoneOf z)
      | _, _ => (word, 0)
  let (hour, minute, rest) ← match word.splitOn ":" with
    | [h, m] => some (← digits? h, ← digits? m, "0")
    | [h, m, s] => some (← digits? h, ← digits? m, s)
    | _ => none
  let (second, nano) ← match rest.splitOn "." with
    | [s] => some (← digits? s, 0)
    | [s, f] => some (← digits? s, fraction f)
    | _ => none
  if 24 ≤ hour || 60 ≤ minute || 61 ≤ second then none
  return { r with
    base := { r.base with hour, minute, second, nano }
    hasTime := true
    seconds := r.seconds - zone }
where
  /-- The seconds that a zone is ahead. -/
  zoneOf (z : String) : Int :=
    let ds := z.toList.filter Char.isDigit
    let n := Numbers.ofDigits 10 ds
    if ds.length ≤ 2 then n * 3600 else n / 100 * 3600 + n % 100 * 60

/-- The seconds in a unit of time. -/
def unitSeconds? (word : String) : Option Int :=
  let word := if word.endsWith "s" then (word.take (word.length - 1)).toString else word
  [("sec", 1), ("second", 1), ("min", 60), ("minute", 60), ("hour", 3600), ("day", 86400),
    ("week", 604800), ("fortnight", 1209600)].lookup word

/-- The months in a unit of time. -/
def unitMonths? (word : String) : Option Int :=
  let word := if word.endsWith "s" then (word.take (word.length - 1)).toString else word
  [("month", 1), ("year", 12)].lookup word

/-- Adds a number of units of time. -/
def Reading.add? (r : Reading) (n : Int) (unit : String) : Option Reading :=
  match unitSeconds? unit, unitMonths? unit with
  | some s, _ => some { r with seconds := r.seconds + n * s }
  | none, some m => some { r with months := r.months + n * m }
  | none, none => none

/-- Reads the words of a date. -/
def readWords (r : Reading) : Nat → List String → Option Reading
  | 0, _ => none
  | _, [] => some r
  | n + 1, word :: rest =>
    let number? : Option Int := Numbers.whole? (some 10) word
    match word, number?, rest with
    | "now", _, _ => readWords { r with hasTime := true } n rest
    | "today", _, _ => readWords { r with hasTime := true } n rest
    | "yesterday", _, _ => readWords { r with hasTime := true, seconds := r.seconds - 86400 } n rest
    | "tomorrow", _, _ => readWords { r with hasTime := true, seconds := r.seconds + 86400 } n rest
    | "utc", _, _ | "gmt", _, _ => readWords r n rest
    | "next", _, unit :: rest => do readWords { ← r.add? 1 unit with hasTime := true } n rest
    | "last", _, unit :: rest => do readWords { ← r.add? (-1) unit with hasTime := true } n rest
    | _, some k, unit :: "ago" :: rest => do
      readWords { ← r.add? (-k) unit with hasTime := true } n rest
    | _, some k, unit :: rest =>
      match r.add? k unit with
      | some r => readWords { r with hasTime := r.hasTime || !r.hasDay } n rest
      | none => do
        let month ← place? months unit
        match rest.head?.bind digits? with
        | some year => readWords (← r.withDay? year (month + 1) k.toNat) n rest.tail
        | none => readWords (← r.withDay? r.base.year (month + 1) k.toNat) n rest
    | _, _, _ => do
      let isZone := word.length = 1 && word ≠ "j" && word.toList.all Char.isAlpha
      if isZone then readWords r n rest
      else if word.contains ':' && !word.contains 't' then readWords (← r.withTime? word) n rest
      else
        match word.splitOn "-" with
        | [y, m, d] =>
          match d.splitOn "t" with
          | [d] => readWords (← r.withDay? (← digits? y) (← digits? m) (← digits? d)) n rest
          | [d, t] =>
            let r ← r.withDay? (← digits? y) (← digits? m) (← digits? d)
            readWords (← r.withTime? t) n rest
          | _ => none
        | _ =>
          match word.splitOn "/" with
          | [m, d, y] =>
            readWords (← r.withDay? (← digits? y) (← digits? m) (← digits? d)) n rest
          | _ =>
            match place? months word, rest with
            | some month, day :: rest =>
              let day ← digits? ((day.toList.filter (· ≠ ',')).foldl String.push "")
              match rest.head?.bind digits? with
              | some year => readWords (← r.withDay? year (month + 1) day) n rest.tail
              | none => readWords (← r.withDay? r.base.year (month + 1) day) n rest
            | _, _ =>
              if (place? weekDays word).isSome then readWords r n rest
              else
                let k ← digits? word
                if word.length = 8 then
                  readWords (← r.withDay? (k / 10000) (k / 100 % 100) (k % 100)) n rest
                else none

/-- The moment that a text stands for, as seen from another moment. -/
def read? (now : Int) (text : String) : Option Int := do
  let text := text.trimAscii.toString
  match text.toList with
  | '@' :: rest =>
    match (String.ofList rest).splitOn "." with
    | [s] => (Numbers.whole? (some 10) s).map (· * nanosecond)
    | [s, f] => (Numbers.whole? (some 10) s).map (· * nanosecond + fraction f)
    | _ => none
  | _ =>
    let words := (text.toLower.splitOn " ").filter (· ≠ "")
    let start : Reading := ⟨momentOf now, words = [], false, 0, 0⟩
    let start := if words = [] then
        { start with base := { start.base with hour := 0, minute := 0, second := 0, nano := 0 } }
      else start
    let r ← readWords start (words.length + 1) words
    let base := if r.hasDay && !r.hasTime then
        { r.base with hour := 0, minute := 0, second := 0, nano := 0 }
      else r.base
    let base := if r.hasDay && words.length = 1 && !r.hasTime then { base with nano := 0 }
      else base
    let month := base.year * 12 + base.month - 1 + r.months
    let first := timeOf { base with year := month / 12, month := (month % 12).toNat + 1, day := 1 }
    return first + ((base.day : Int) - 1) * 86400 * nanosecond + r.seconds * nanosecond

/-- The moment that a stamp of digits stands for: `[[CC]YY]MMDDhhmm[.ss]`. -/
def stamp? (now : Int) (text : String) : Option Int := do
  let (front, second) ← match text.splitOn "." with
    | [f] => some (f, 0)
    | [f, s] => if s.length = 2 then some (f, ← digits? s) else none
    | _ => none
  let n ← digits? front
  let year : Int ← match front.length with
    | 8 => some (momentOf now).year
    | 10 =>
      let y := n / 100000000
      some (if y < 69 then 2000 + y else 1900 + y)
    | 12 => some (n / 100000000)
    | _ => none
  let month := n / 1000000 % 100
  let day := n / 10000 % 100
  let hour := n / 100 % 100
  let minute := n % 100
  if isDay year month day && hour < 24 && minute < 60 && second < 61 then
    return timeOf ⟨year, month, day, hour, minute, second, 0⟩
  else none

/-! ### Writing -/

/-- Digits with filling in front of them. -/
def padded (fill : Char) (width : Nat) (n : Int) : String :=
  let ds := toString n.natAbs
  let sign := if n < 0 then "-" else ""
  sign ++ String.ofList (List.replicate (width - ds.length) fill) ++ ds

/-- The number of the day in its year, from zero on. -/
def yearDay (m : Moment) : Int := dayNumber m.year m.month m.day - dayNumber m.year 1 1

/-- The number of the day in its week, from Sunday on. -/
def weekDay (m : Moment) : Nat := ((dayNumber m.year m.month m.day + 4) % 7).toNat

/-- The year and the number of the week that begins with a Monday and has most of its days in the
year. -/
def isoWeek (m : Moment) : Int × Int :=
  let n := dayNumber m.year m.month m.day
  let thursday := n - ((weekDay m : Int) + 6) % 7 + 3
  let (year, _, _) := dayOf thursday
  (year, (thursday - dayNumber year 1 1) / 7 + 1)

/-- What a letter of a format stands for. -/
def item? (m : Moment) (flag : Option Char) (c : Char) : Option String :=
  let number (fill : Char) (width : Nat) (n : Int) : String :=
    match flag with
    | some '-' => toString n
    | some '_' => padded ' ' width n
    | some '0' => padded '0' width n
    | _ => padded fill width n
  let name (s : String) : String := if flag = some '^' then s.toUpper else s
  let month := (months[m.month - 1]?).getD ""
  let day := (weekDays[weekDay m]?).getD ""
  let short (s : String) : String := (s.take 3).toString
  let hour12 := if m.hour % 12 = 0 then 12 else m.hour % 12
  let clock := padded '0' 2 m.hour ++ ":" ++ padded '0' 2 m.minute
  let isoDate := padded '0' 4 m.year ++ "-" ++ padded '0' 2 m.month ++ "-" ++ padded '0' 2 m.day
  let usDate := "/".intercalate ([(m.month : Int), m.day, m.year % 100].map (padded '0' 2))
  let (isoYear, week) := isoWeek m
  match c with
  | '%' => some "%"
  | 'a' => some (name (short day))
  | 'A' => some (name day)
  | 'b' | 'h' => some (name (short month))
  | 'B' => some (name month)
  | 'c' =>
    some (short day ++ " " ++ short month ++ " " ++ padded ' ' 2 m.day ++ " " ++ clock ++ ":" ++
      padded '0' 2 m.second ++ " " ++ toString m.year)
  | 'C' => some (number '0' 2 (m.year / 100))
  | 'd' => some (number '0' 2 m.day)
  | 'D' | 'x' => some usDate
  | 'e' => some (number ' ' 2 m.day)
  | 'F' => some isoDate
  | 'g' => some (number '0' 2 (isoYear % 100))
  | 'G' => some (number '0' 4 isoYear)
  | 'H' => some (number '0' 2 m.hour)
  | 'I' => some (number '0' 2 hour12)
  | 'j' => some (number '0' 3 (yearDay m + 1))
  | 'k' => some (number ' ' 2 m.hour)
  | 'l' => some (number ' ' 2 hour12)
  | 'm' => some (number '0' 2 m.month)
  | 'M' => some (number '0' 2 m.minute)
  | 'n' => some "\n"
  | 'N' => some (padded '0' 9 m.nano)
  | 'p' => some (if m.hour < 12 then "AM" else "PM")
  | 'P' => some (if m.hour < 12 then "am" else "pm")
  | 'q' => some (toString ((m.month - 1) / 3 + 1))
  | 'r' =>
    some (padded '0' 2 hour12 ++ ":" ++ padded '0' 2 m.minute ++ ":" ++ padded '0' 2 m.second ++
      (if m.hour < 12 then " AM" else " PM"))
  | 'R' => some clock
  | 's' => some (toString (timeOf m / nanosecond))
  | 'S' => some (number '0' 2 m.second)
  | 't' => some "\t"
  | 'T' | 'X' => some (clock ++ ":" ++ padded '0' 2 m.second)
  | 'u' => some (toString (if weekDay m = 0 then 7 else weekDay m))
  | 'U' => some (number '0' 2 ((yearDay m + 7 - weekDay m) / 7))
  | 'V' => some (number '0' 2 week)
  | 'w' => some (toString (weekDay m))
  | 'W' => some (number '0' 2 ((yearDay m + 7 - ((weekDay m : Int) + 6) % 7) / 7))
  | 'y' => some (number '0' 2 (m.year % 100))
  | 'Y' => some (number '0' 4 m.year)
  | 'z' => some "+0000"
  | 'Z' => some "UTC"
  | _ => none

/-- What stands in a format behind the sign: flags, a width, colons, and a letter. -/
structure Directive where
  flags : List Char
  width : Option Nat
  colons : Nat
  letter : Char
  deriving DecidableEq, Inhabited

/-- Reads a directive. Gives the number of characters that it has too. -/
def directive? (cs : List Char) : Option (Directive × Nat) :=
  let flags := cs.takeWhile fun c => c = '-' || c = '_' || c = '0' || c = '^' || c = '#' || c = '+'
  let cs := cs.drop flags.length
  let digits := cs.takeWhile Char.isDigit
  let cs := cs.drop digits.length
  let width := if digits = [] then none else some (Numbers.ofDigits 10 digits)
  let colons := (cs.takeWhile (· = ':')).length
  let taken := flags.length + digits.length + colons + 1
  match cs.drop colons with
  | 'E' :: c :: _ =>
    if ['c', 'C', 'x', 'X', 'y', 'Y'].contains c then some (⟨flags, width, colons, c⟩, taken + 1)
    else none
  | 'O' :: c :: _ =>
    if ['d', 'e', 'H', 'I', 'm', 'M', 'S', 'u', 'U', 'V', 'w', 'W', 'y'].contains c then
      some (⟨flags, width, colons, c⟩, taken + 1)
    else none
  | c :: _ => some (⟨flags, width, colons, c⟩, taken)
  | [] => none

/-- The zone, with colons in it as asked. -/
def zoneText? : Nat → Option String
  | 0 => some "+0000"
  | 1 => some "+00:00"
  | 2 => some "+00:00:00"
  | 3 => some "+00"
  | _ => none

/-- A name in the case that a flag asks for: the other one than usual. -/
def otherCase (letter : Char) (s : String) : String :=
  if letter = 'p' || letter = 'Z' then s.toLower else s.toUpper

/-- What a directive stands for. -/
def Directive.text? (m : Moment) (d : Directive) : Option (List Char) := do
  let flag := d.flags.findRev? fun c => c = '-' || c = '_' || c = '0'
  let isName := ['a', 'A', 'b', 'B', 'h', 'p', 'P', 'Z'].contains d.letter
  let s ← if d.colons ≠ 0 then if d.letter = 'z' then zoneText? d.colons else none
    else item? m (if d.flags.contains '^' then some '^' else flag) d.letter
  let s := if d.flags.contains '#' && isName then otherCase d.letter s else s
  let cs := s.toList
  match d.width with
  | none => return cs
  | some w =>
    if d.letter = 'N' then return (cs ++ List.replicate (w - 9) '0').take w
    let texts := ['c', 'e', 'k', 'l', 'n', 't', '%', 'D', 'r', 'R', 'T', 'x', 'X']
    let isBlank := isName || texts.contains d.letter
    let fill : Char := match flag with
      | some '0' => '0'
      | some '_' => ' '
      | _ => if isBlank then ' ' else '0'
    if flag = some '-' then return cs
    return List.replicate (w - cs.length) fill ++ cs

/-- Writes a moment as a format asks, of which at most `n` characters are left. -/
def formatFrom (m : Moment) : Nat → List Char → List Char
  | 0, cs => cs
  | _, [] => []
  | n + 1, '%' :: cs =>
    match (directive? cs).bind fun (d, taken) => (d.text? m).map fun s => (s, taken) with
    | some (s, taken) => s ++ formatFrom m n (cs.drop taken)
    | none => '%' :: formatFrom m n cs
  | n + 1, c :: cs => c :: formatFrom m n cs

/-- Writes a moment as a format asks. -/
def format (m : Moment) (cs : List Char) : List Char := formatFrom m cs.length cs

end Golden.Host.Calendar
