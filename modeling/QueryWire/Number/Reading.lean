import QueryWire.Number.Binary64
import QueryWire.Number.Numeral

/-!
Binary numbers read from texts: decimals with optional fraction and exponent, and the words for
infinity and NaN, in any case. Blanks may surround the number and single underscores group digits.
-/

namespace QueryWire.Binary64

def lower (text : Text) : Text := text.map (·.toLowerAscii)

def exponent? : Text → Option Int
  | [] => some 0
  | mark :: rest =>
    if mark.is 'e' || mark.is 'E' then
      let (negative, digits) := Numeral.sign rest
      if digits.isEmpty || !digits.all (·.isDigit) then none
      else some (if negative then -(Numeral.value digits) else Numeral.value digits)
    else none

def decimal? (negative : Bool) (text : Text) : Option Binary64 := do
  let whole := text.takeWhile (·.isDigit)
  let rest := text.dropWhile (·.isDigit)
  let (fraction, rest) : Text × Text :=
    match rest with
    | point :: after =>
      if point.is '.' then (after.takeWhile (·.isDigit), after.dropWhile (·.isDigit))
      else ([], rest)
    | [] => ([], [])
  let power ← exponent? rest
  let digits := (whole ++ fraction).dropWhile (·.is '0')
  if whole.isEmpty && fraction.isEmpty then none
  else some (ofDecimal negative (Numeral.value digits) digits.length (power - fraction.length))

def spelled? (identity : Nat) (text : Text) : Option Binary64 :=
  let (negative, body) := Numeral.sign text
  if lower body = "inf" ∨ lower body = "infinity" then some (.infinite negative)
  else if lower body = "nan" then some (.nan identity)
  else decimal? negative body

def read? (identity : Nat) (spelling : Text) : Option Binary64 :=
  (Numeral.ungroup? false (Numeral.trim spelling)).bind (spelled? identity)

def ofText? (identity : Nat) (spelling : Text) : Option Binary64 :=
  read? identity (Numeral.plain spelling)

def ofOctets? (identity : Nat) (spelling : Octets) : Option Binary64 :=
  read? identity (spelling.map fun octet => .ofNat octet.toNat)

end QueryWire.Binary64
