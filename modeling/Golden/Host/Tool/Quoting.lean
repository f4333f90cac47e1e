import Golden.Host.Numbers

/-! # Names in messages

A name stands in a message so that it can be told where it ends: in single quotes as a shell reads
them (`Quoting.shell`), if there is any need, or with its special characters escaped
(`Quoting.escaped`). -/

namespace Golden.Host.Quoting

/-- Three digits of base eight. -/
def octal (c : Char) : List Char :=
  let n := c.toNat
  [n / 64, n / 8 % 8, n % 8].map fun d => Char.ofNat (d + '0'.toNat)

/-- The letter behind a backslash that stands for a character. -/
def letter? (c : Char) : Option Char :=
  [('\x07', 'a'), ('\x08', 'b'), ('\x0c', 'f'), ('\n', 'n'), ('\x0d', 'r'), ('\t', 't'),
    ('\x0b', 'v')].lookup c

/-- Whether a character can be shown. -/
def isShown (c : Char) : Bool := ' ' ≤ c && c ≤ '~'

/-- What stands for a character that cannot be shown. -/
def escape (c : Char) : List Char :=
  '\\' :: (match letter? c with
    | some l => [l]
    | none => octal c)

/-- The characters that mean something to a shell wherever they stand. -/
def special : List Char :=
  [' ', '!', '"', '$', '&', '(', ')', '*', ';', '<', '=', '>', '[', '^', '\x60', '|', '\'', '?',
   '\\']

/-- Whether a name has to be quoted. -/
def needsQuotes (colons : Bool) (cs : List Char) : Bool :=
  let isFirstSpecial := match cs with
    | [] => true
    | ['\x7b'] | ['\x7d'] => true
    | c :: _ => c = '#' || c = '~'
  isFirstSpecial || cs.any fun c => special.contains c || !isShown c || (colons && c = ':')

/-- Whether a character means the same in all kinds of quotes. -/
def isHarmless (c : Char) : Bool :=
  c.isAlphanum || ['%', '+', ',', '-', '.', '/', ':', ']', '_', ' ', '\''].contains c

/-- A name between single quotes, with what such quotes cannot hold in quotes of other kinds.
`escapes` tells whether those of escapes have been opened. -/
def inQuotes (escapes : Bool) : List Char → List Char
  | [] => ['\'']
  | c :: cs =>
    if isShown c then
      (if escapes then ['\'', '\''] else []) ++
        (if c = '\'' then ['\'', '\\', '\'', '\''] else [c]) ++ inQuotes false cs
    else (if escapes then [] else ['\'', '$', '\'']) ++ escape c ++ inQuotes true cs

/-- A name in quotes as a shell reads them. -/
def always (s : String) : String :=
  let cs := s.toList
  if cs.contains '\'' && cs.all isHarmless then "\"" ++ s ++ "\""
  else String.ofList ('\'' :: inQuotes false cs)

/-- A name in quotes as a shell reads them, if it needs any. -/
def shell (s : String) : String := if needsQuotes false s.toList then always s else s

/-- A name in quotes if it needs any, or if there is a colon in it. -/
def name (s : String) : String := if needsQuotes true s.toList then always s else s

/-- A text in single quotes with its special characters escaped. -/
def escaped (s : String) : String :=
  let one (c : Char) : List Char :=
    if c = '\\' || c = '\'' then ['\\', c] else if isShown c then [c] else escape c
  String.ofList ('\'' :: s.toList.flatMap one ++ ['\''])

end Golden.Host.Quoting
