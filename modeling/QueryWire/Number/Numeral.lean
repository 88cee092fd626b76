import QueryWire.Text.Digit

/-!
Integers as decimal texts, written and read. Conversion between integers and texts stops at 4300
digits, in both directions.
-/

namespace QueryWire.Numeral

def digitLimit : Nat := 4300

def limitMessage : Text :=
  "Exceeds the limit (4300 digits) for integer string conversion; " ++
    ("use sys.set_int_max_str_digits() to increase the limit" : Text)

def ofNat (n : Nat) : Text := (Nat.toDigits 10 n).map CodePoint.ofChar

def ofInt (n : Int) : Text := if n < 0 then .ofChar '-' :: ofNat n.natAbs else ofNat n.natAbs

def fits (n : Int) : Bool := n.natAbs < 10 ^ digitLimit

def value (digits : Text) : Nat := digits.foldl (fun n digit => n * 10 + (digit.val - 0x30)) 0

/-- Digits of other scripts become ASCII digits and blanks beyond ASCII become spaces. What is
neither becomes a question mark, which no number contains. -/
def plain (spelling : Text) : Text :=
  spelling.map fun point =>
    if point.val < 0x7F then point
    else if point.isBlank then .ofChar ' '
    else match point.digitValue? with
      | some digit => .ofNat (0x30 + digit)
      | none => .ofChar '?'

def isAsciiBlank (point : CodePoint) : Bool := point.within 0x09 0x0D || point.val == 0x20

def trim (text : Text) : Text :=
  ((text.dropWhile isAsciiBlank).reverse.dropWhile isAsciiBlank).reverse

/-- A spelling without its underscores, if each of them stands between two digits. -/
def ungroup? : (afterDigit : Bool) → Text → Option Text
  | _, [] => some []
  | afterDigit, point :: rest =>
    if point.is '_' then
      match rest with
      | next :: _ => if afterDigit && next.isDigit then ungroup? false rest else none
      | [] => none
    else (point :: ·) <$> ungroup? point.isDigit rest

def sign (text : Text) : Bool × Text :=
  match text with
  | point :: rest =>
    if point.is '-' then (true, rest) else (false, if point.is '+' then rest else text)
  | [] => (false, [])

/-- Blanks around it, a sign before it and single underscores between its digits are allowed. -/
def readInt? (spelling : Text) : Option Int := do
  let (negative, digits) := sign (trim (plain spelling))
  let digits ← ungroup? false digits
  if digits.isEmpty || !digits.all (·.isDigit) || digits.length > digitLimit then none
  else
    let n := value digits
    some (if negative then -n else n)

end QueryWire.Numeral
