import QueryWire.Text

/-!
Decimal digits and blanks of all scripts, in Unicode 14: category Nd and the white space property.
Numbers in text may be spelled with any of them.
-/

namespace QueryWire

/-- The zero of each script; its ten digits follow one another. -/
def scriptZeros : List Nat := [
  0x30, 0x660, 0x6F0, 0x7C0, 0x966, 0x9E6, 0xA66, 0xAE6, 0xB66, 0xBE6, 0xC66, 0xCE6, 0xD66, 0xDE6,
  0xE50, 0xED0, 0xF20, 0x1040, 0x1090, 0x17E0, 0x1810, 0x1946, 0x19D0, 0x1A80, 0x1A90, 0x1B50,
  0x1BB0, 0x1C40, 0x1C50, 0xA620, 0xA8D0, 0xA900, 0xA9D0, 0xA9F0, 0xAA50, 0xABF0, 0xFF10, 0x104A0,
  0x10D30, 0x11066, 0x110F0, 0x11136, 0x111D0, 0x112F0, 0x11450, 0x114D0, 0x11650, 0x116C0,
  0x11730, 0x118E0, 0x11950, 0x11C50, 0x11D50, 0x11DA0, 0x16A60, 0x16AC0, 0x16B50, 0x1D7CE,
  0x1D7D8, 0x1D7E2, 0x1D7EC, 0x1D7F6, 0x1E140, 0x1E2F0, 0x1E950, 0x1FBF0]

namespace CodePoint

def digitValue? (point : CodePoint) : Option Nat :=
  if point.isAscii then if point.isDigit then some (point.val - 0x30) else none
  else (scriptZeros.find? fun first => point.within first (first + 9)).map (point.val - ·)

/-- The blanks that may stand around a number: of ASCII the space, and tab to carriage return. -/
def isBlank (point : CodePoint) : Bool :=
  point.within 0x09 0x0D || point.val == 0x20 || point.val == 0x85 || point.val == 0xA0
    || point.val == 0x1680 || point.within 0x2000 0x200A || point.within 0x2028 0x2029
    || point.val == 0x202F || point.val == 0x205F || point.val == 0x3000

end CodePoint

end QueryWire
