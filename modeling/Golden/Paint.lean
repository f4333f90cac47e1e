/-! # Colored lines

A report may be colored. A painted text stands between an opening sequence, which sets the
color, and the reset sequence. Where the text resets the color itself, the color is set again
behind that. -/

namespace Golden

/-- What a color says. -/
inductive Style where
  | success
  | failure
  | notice
  | removed
  | added
  | unchanged
  deriving DecidableEq, Inhabited

/-- The number of the color: bright green, red and yellow, then red, green and bright black. -/
def Style.code : Style → String
  | success => "92"
  | failure => "91"
  | notice => "93"
  | removed => "31"
  | added => "32"
  | unchanged => "90"

/-- The sequence that sets the color of a style. -/
def Style.opening (s : Style) : List Char := '\x1B' :: '[' :: (s.code.toList ++ ['m'])

/-- The sequence that resets the color. -/
def resetColor : List Char := ['\x1B', '[', '0', 'm']

/-- Puts `opening` behind every reset sequence. -/
def reopen (opening : List Char) : List Char → List Char
  | '\x1B' :: '[' :: '0' :: 'm' :: rest => resetColor ++ opening ++ reopen opening rest
  | c :: rest => c :: reopen opening rest
  | [] => []

/-- Whether reports are colored. -/
structure Painter where
  colored : Bool
  deriving DecidableEq, Inhabited

namespace Painter

/-- A painter that leaves every text as it is. -/
def plain : Painter := ⟨false⟩

/-- Paints a text. -/
def paint (p : Painter) (s : Style) (text : String) : String :=
  if p.colored then String.ofList (s.opening ++ reopen s.opening text.toList ++ resetColor)
  else text

end Painter

end Golden
