/-!
Binary floating point numbers of 64 bits. A finite number is `significand * 2 ^ exponent` in the one
form with `2 ^ 52 ≤ significand < 2 ^ 53`, or with exponent -1074 and a smaller significand. Every
number is made by rounding an exact quotient to the nearest, ties to the even significand.
-/

namespace QueryWire

-- Powers are those of the core library, also where another library brings its own.
attribute [scoped instance (2000)] instPowNat

/-- A NaN carries an identity, by which collections recognise the very number they hold. -/
inductive Binary64 where
  | finite (negative : Bool) (significand : Nat) (exponent : Int)
  | infinite (negative : Bool)
  | nan (identity : Nat)
deriving DecidableEq

namespace Binary64

def roundQuotient (num den : Nat) : Nat :=
  let quotient := num / den
  let twice := 2 * (num % den)
  if twice < den then quotient
  else if twice > den then quotient + 1
  else quotient + quotient % 2

def scaled (num den : Nat) (exponent : Int) : Nat × Nat :=
  if exponent < 0 then (num * 2 ^ exponent.natAbs, den) else (num, den * 2 ^ exponent.natAbs)

/-- The exponent at which a positive quotient has a significand of 53 bits, or the least one. -/
def exponentFor (num den : Nat) : Int :=
  let low : Int := (num.log2 : Int) - (den.log2 : Int) - 53
  let (top, bottom) := scaled num den low
  max (if top / bottom < 2 ^ (53 : Nat) then low else low + 1) (-1074)

def ofQuotient (negative : Bool) (num den : Nat) : Binary64 :=
  if num = 0 then .finite negative 0 (-1074)
  else
    let exponent := exponentFor num den
    let (top, bottom) := scaled num den exponent
    let significand := roundQuotient top bottom
    let (significand, exponent) :=
      if significand = 2 ^ (53 : Nat) then (2 ^ (52 : Nat), exponent + 1) else (significand, exponent)
    if exponent > 971 then .infinite negative else .finite negative significand exponent

def ofInt? (n : Int) : Option Binary64 :=
  match ofQuotient (n < 0) n.natAbs 1 with
  | .infinite _ => none
  | number => some number

/-- The number nearest to `digits * 10 ^ power`, where `digits` has `count` decimal digits. Powers
far out of range are settled without computing them. -/
def ofDecimal (negative : Bool) (digits count : Nat) (power : Int) : Binary64 :=
  if digits = 0 then .finite negative 0 (-1074)
  else if power + count > 309 then .infinite negative
  else if power + count < -324 then .finite negative 0 (-1074)
  else if power < 0 then ofQuotient negative digits (10 ^ power.natAbs)
  else ofQuotient negative (digits * 10 ^ power.natAbs) 1

def isZero : Binary64 → Bool
  | .finite _ significand _ => significand == 0
  | _ => false

def isFinite : Binary64 → Bool
  | .finite .. => true
  | _ => false

def isAtMostZero : Binary64 → Bool
  | .finite negative significand _ => negative || significand == 0
  | .infinite negative => negative
  | .nan _ => false

/-- Equality of numbers: both zeros are equal, and a NaN equals nothing. -/
def numEq : Binary64 → Binary64 → Bool
  | .finite negative m e, .finite negative' m' e' =>
    (m == 0 && m' == 0) || (negative == negative' && m == m' && e == e')
  | .infinite negative, .infinite negative' => negative == negative'
  | _, _ => false

def eqInt (x : Binary64) (n : Int) : Bool :=
  match x with
  | .finite negative significand exponent =>
    if significand = 0 then n == 0
    else
      (negative == decide (n < 0)) &&
        if exponent < 0 then n.natAbs * 2 ^ exponent.natAbs == significand
        else n.natAbs == significand * 2 ^ exponent.natAbs
  | _ => false

end Binary64

end QueryWire
