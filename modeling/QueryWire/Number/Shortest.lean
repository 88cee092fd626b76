import QueryWire.Number.Binary64
import QueryWire.Number.Numeral

/-!
The shortest decimal that reads back as a given binary number, and the text it is written as. The
reals that round to `m * 2 ^ e` form an interval around it, whose ends belong to it when `m` is
even. On the grids of one, two, ... seventeen digits only the two neighbours of the number can lie
in it; the first grid with a hit wins, and of two hits the nearer.
-/

namespace QueryWire.Binary64

def decimalLe (a : Nat) (power : Int) (b : Nat) (exponent : Int) : Bool :=
  let left := a * (if power < 0 then 1 else 10 ^ power.natAbs) *
    (if exponent < 0 then 2 ^ exponent.natAbs else 1)
  let right := b * (if exponent < 0 then 1 else 2 ^ exponent.natAbs) *
    (if power < 0 then 10 ^ power.natAbs else 1)
  left ≤ right

def decimalLt (a : Nat) (power : Int) (b : Nat) (exponent : Int) : Bool :=
  let left := a * (if power < 0 then 1 else 10 ^ power.natAbs) *
    (if exponent < 0 then 2 ^ exponent.natAbs else 1)
  let right := b * (if exponent < 0 then 1 else 2 ^ exponent.natAbs) *
    (if power < 0 then 10 ^ power.natAbs else 1)
  left < right

/-- Whether `digits * 10 ^ power` reads back as `m * 2 ^ e`. Bounds are counted in quarters of a
unit in the last place; below a power of two the spacing is halved. -/
def readsBack (m : Nat) (e : Int) (digits : Nat) (power : Int) : Bool :=
  let low := if m = 2 ^ (52 : Nat) ∧ e > -1074 then 4 * m - 1 else 4 * m - 2
  let high := 4 * m + 2
  if m % 2 = 0 then
    !decimalLt digits power low (e - 2) && decimalLe digits power high (e - 2)
  else
    !decimalLe digits power low (e - 2) && decimalLt digits power high (e - 2)

def magnitude (m : Nat) (e : Int) : Int :=
  let guess := Int.fdiv (((m.log2 : Int) + e) * 30103) 100000
  let candidates := [guess - 1, guess, guess + 1, guess + 2]
  (candidates.find? fun k => !decimalLe 1 k m e).getD (guess + 2)

def floorAt (m : Nat) (e power : Int) : Nat :=
  let top := m * (if e < 0 then 1 else 2 ^ e.natAbs) * (if power < 0 then 10 ^ power.natAbs else 1)
  let bottom := (if e < 0 then 2 ^ e.natAbs else 1) * (if power < 0 then 1 else 10 ^ power.natAbs)
  top / bottom

/-- The neighbour on a grid that reads back, if there is one; the nearer if both do, and of two
equally near the even one. -/
def hit? (m : Nat) (e power : Int) : Option Nat :=
  let below := floorAt m e power
  let above := below + 1
  match readsBack m e below power, readsBack m e above power with
  | true, true =>
    -- The middle between them is `(2 * below + 1) / 2` steps of the grid.
    let middle := 2 * below + 1
    if decimalLt middle power (2 * m) e then some above
    else if decimalLe middle power (2 * m) e then some (below + below % 2)
    else some below
  | true, false => some below
  | false, true => some above
  | false, false => none

def shortest (m : Nat) (e : Int) : Nat × Int :=
  let top := magnitude m e
  let grids := (List.range 17).map fun (n : Nat) => top - 1 - (n : Int)
  (grids.findSome? fun power => (hit? m e power).map (·, power)).getD
    (floorAt m e (top - 17), top - 17)

def stripZeros : (fuel : Nat) → Nat → Int → Nat × Int
  | 0, digits, power => (digits, power)
  | fuel + 1, digits, power =>
    if digits % 10 = 0 ∧ digits ≠ 0 then stripZeros fuel (digits / 10) (power + 1)
    else (digits, power)

def zeros (count : Nat) : Text := List.replicate count (.ofChar '0')

/-- Positional from 1e-4 up to below 1e16, always with a fraction; otherwise one digit, the rest
behind a point, and an exponent with sign and at least two digits. -/
def layout (digits : Nat) (power : Int) : Text :=
  let shown := Numeral.ofNat digits
  let point : Int := (shown.length : Int) + power
  if -4 < point ∧ point ≤ 16 then
    if point ≤ 0 then "0." ++ zeros point.natAbs ++ shown
    else if shown.length ≤ point.natAbs then
      shown ++ zeros (point.natAbs - shown.length) ++ ".0"
    else shown.take point.natAbs ++ "." ++ shown.drop point.natAbs
  else
    let fraction : Text := if shown.length ≤ 1 then [] else .ofChar '.' :: shown.drop 1
    let exponent := Numeral.ofNat (point - 1).natAbs
    let exponent := zeros (2 - exponent.length) ++ exponent
    shown.take 1 ++ fraction ++ "e" ++ (if point - 1 < 0 then "-" else "+" : Text) ++ exponent

def toText : Binary64 → Text
  | .finite negative significand exponent =>
    let body : Text :=
      if significand = 0 then "0.0"
      else
        let (digits, power) := shortest significand exponent
        let (digits, power) := stripZeros 17 digits power
        layout digits power
    if negative then .ofChar '-' :: body else body
  | .infinite negative => if negative then "-inf" else "inf"
  | .nan _ => "nan"

end QueryWire.Binary64
