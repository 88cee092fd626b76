/-!
Texts are lists of code points. A surrogate is a code point like any other here: it can stand in a
key, a message or a secret, and only the encodings below refuse it.
-/

namespace QueryWire

-- Powers are those of the core library, also where another library brings its own.
attribute [scoped instance (2000)] instPowNat

structure CodePoint where
  val : Nat
  isLt : val < 0x110000
deriving DecidableEq

abbrev Text := List CodePoint

abbrev Octets := List UInt8

namespace CodePoint

def ofChar (c : Char) : CodePoint :=
  ⟨c.toNat, by
    have valid := c.valid
    simp only [UInt32.isValidChar, Nat.isValidChar] at valid
    simp only [Char.toNat]
    omega⟩

/-- The replacement character stands in for numbers that are no code point. -/
def ofNat (n : Nat) : CodePoint :=
  if bound : n < 0x110000 then ⟨n, bound⟩ else ⟨0xFFFD, by decide⟩

def replacement : CodePoint := ⟨0xFFFD, by decide⟩

def is (point : CodePoint) (c : Char) : Bool := point.val == c.toNat

def within (point : CodePoint) (low high : Nat) : Bool := low ≤ point.val && point.val ≤ high

def isHighSurrogate (point : CodePoint) : Bool := point.within 0xD800 0xDBFF

def isLowSurrogate (point : CodePoint) : Bool := point.within 0xDC00 0xDFFF

def isSurrogate (point : CodePoint) : Bool := point.within 0xD800 0xDFFF

def isAscii (point : CodePoint) : Bool := point.val < 0x80

def isDigit (point : CodePoint) : Bool := point.within 0x30 0x39

def isLetter (point : CodePoint) : Bool := point.within 0x41 0x5A || point.within 0x61 0x7A

def hexValue? (point : CodePoint) : Option Nat :=
  if point.within 0x30 0x39 then some (point.val - 0x30)
  else if point.within 0x41 0x46 then some (point.val - 0x37)
  else if point.within 0x61 0x66 then some (point.val - 0x57)
  else none

def hexDigit (n : Nat) : CodePoint := ofNat (if n < 10 then 0x30 + n else 0x57 + n)

def hexDigitUpper (n : Nat) : CodePoint := ofNat (if n < 10 then 0x30 + n else 0x37 + n)

def toLowerAscii (point : CodePoint) : CodePoint :=
  if point.within 0x41 0x5A then ofNat (point.val + 0x20) else point

end CodePoint

namespace Text

def ofString (s : String) : Text := s.toList.map CodePoint.ofChar

instance : Coe String Text := ⟨ofString⟩

def hex (width n : Nat) : Text :=
  (List.range width).reverse.map fun place => CodePoint.hexDigit (n / 16 ^ place % 16)

def hasChar (text : Text) (c : Char) : Bool := text.any (·.is c)

/-- The pieces between the occurrences of a character; a text without it is one piece. -/
def pieces (c : Char) : Text → List Text
  | [] => [[]]
  | point :: rest =>
    if point.is c then [] :: pieces c rest
    else match pieces c rest with
      | [] => [[point]]
      | piece :: others => (point :: piece) :: others

def joinWith (separator : Text) : List Text → Text
  | [] => []
  | [piece] => piece
  | piece :: others => piece ++ separator ++ joinWith separator others

def cut? (c : Char) (text : Text) : Option (Text × Text) :=
  match text.dropWhile (!·.is c) with
  | [] => none
  | _ :: after => some (text.takeWhile (!·.is c), after)

def cutLast? (c : Char) (text : Text) : Option (Text × Text) :=
  (cut? c text.reverse).map fun (after, before) => (before.reverse, after.reverse)

end Text

end QueryWire
