import Golden.Text.Utf8

/-! # Octets as text

Programs see files, arguments and paths as octets. A text whose characters are all below 256 stands
for the octets with the same numbers (`Octets.pack`, `Octets.unpack`). A text of any characters is
told to programs in UTF-8 (`Octets.ofText`). -/

namespace Golden.Host.Octets

/-- The octets that a text stands for. -/
def pack (s : String) : ByteArray :=
  s.foldl (fun bs c => bs.push c.toUInt8) (ByteArray.emptyWithCapacity s.utf8ByteSize)

/-- The text that stands for octets. -/
def unpack (bs : ByteArray) : String := bs.foldl (fun s b => s.push (Char.ofUInt8 b)) ""

/-- What programs see of a text. -/
def ofText (s : String) : String :=
  if s.utf8ByteSize = s.length then s else unpack s.toUTF8

/-- What is to be seen of octets as a text. -/
def toText (s : String) : String :=
  if s.utf8ByteSize = s.length then s else Utf8.decodeLossy (pack s).toList

/-- A list in pieces of `size` elements, of which at most as many as the second argument tells. -/
def pieces {α : Type} (size : Nat) : Nat → List α → List (List α)
  | 0, _ => []
  | _, [] => []
  | n + 1, as => as.take size :: pieces size n (as.drop size)

/-- The octets in a list. -/
def ofBytes (bs : Bytes) : ByteArray := ⟨bs.toArray⟩

end Golden.Host.Octets
