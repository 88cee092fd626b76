import QueryWire.Json
import QueryWire.Number.Numeral
import QueryWire.Number.Binary64

/-!
The tokens of JSON text. A text is a list of tokens that ends, where the text cannot be read any
further, in the reason. Integers are read when they are met, so one with too many digits counts as
the first thing that is wrong even where the text goes on badly.
-/

namespace QueryWire.Json

inductive Token where
  | openArray
  | closeArray
  | openObject
  | closeObject
  | comma
  | colon
  | scalar (value : Json)
  | text (value : Text)

inductive ReadFault where
  | malformed
  | tooManyDigits
  | tooDeep
deriving DecidableEq

abbrev Scanned := Except ReadFault (Token × Text)

def simpleEscape? (point : CodePoint) : Option CodePoint :=
  if point.is '"' || point.is '\\' || point.is '/' then some point
  else if point.is 'b' then some (.ofNat 0x08)
  else if point.is 'f' then some (.ofNat 0x0C)
  else if point.is 'n' then some (.ofChar '\n')
  else if point.is 'r' then some (.ofChar '\r')
  else if point.is 't' then some (.ofChar '\t')
  else none

inductive Pending where
  | nothing
  /-- A backslash. -/
  | escape
  /-- A backslash and `u`, with the digits read so far; `high` is a high surrogate right before. -/
  | digits (high : Option Nat) (count value : Nat)
  /-- An escaped high surrogate, which a low one may join. -/
  | high (unit : Nat)
  /-- An escaped high surrogate and a backslash. -/
  | highEscape (unit : Nat)

def joinUnits (high : Option Nat) (unit : Nat) : Text × Pending :=
  match high with
  | some first =>
    if 0xDC00 ≤ unit ∧ unit ≤ 0xDFFF then
      ([.ofNat (0x10000 + (first - 0xD800) * 0x400 + (unit - 0xDC00))], .nothing)
    else if 0xD800 ≤ unit ∧ unit ≤ 0xDBFF then ([.ofNat first], .high unit)
    else ([.ofNat first, .ofNat unit], .nothing)
  | none =>
    if 0xD800 ≤ unit ∧ unit ≤ 0xDBFF then ([], .high unit) else ([.ofNat unit], .nothing)

def scanText : Pending → Text → Option (Text × Text)
  | _, [] => none
  | .nothing, point :: rest =>
    if point.is '"' then some ([], rest)
    else if point.is '\\' then scanText .escape rest
    else if point.val < 0x20 then none
    else (fun (read, after) => (point :: read, after)) <$> scanText .nothing rest
  | .escape, point :: rest =>
    if point.is 'u' then scanText (.digits none 0 0) rest
    else match simpleEscape? point with
      | some escaped => (fun (read, after) => (escaped :: read, after)) <$> scanText .nothing rest
      | none => none
  | .digits high count value, point :: rest =>
    match point.hexValue? with
    | none => none
    | some digit =>
      if count < 3 then scanText (.digits high (count + 1) (value * 16 + digit)) rest
      else
        let (joined, pending) := joinUnits high (value * 16 + digit)
        (fun (read, after) => (joined ++ read, after)) <$> scanText pending rest
  | .high unit, point :: rest =>
    if point.is '"' then some ([.ofNat unit], rest)
    else if point.is '\\' then scanText (.highEscape unit) rest
    else if point.val < 0x20 then none
    else (fun (read, after) => (.ofNat unit :: point :: read, after)) <$> scanText .nothing rest
  | .highEscape unit, point :: rest =>
    if point.is 'u' then scanText (.digits (some unit) 0 0) rest
    else match simpleEscape? point with
      | some escaped =>
        (fun (read, after) => (.ofNat unit :: escaped :: read, after)) <$> scanText .nothing rest
      | none => none

def scanFraction (text : Text) : Option (Text × Text) :=
  match text with
  | point :: first :: rest =>
    if point.is '.' && first.isDigit then
      some (first :: rest.takeWhile (·.isDigit), rest.dropWhile (·.isDigit))
    else none
  | _ => none

def scanExponent (text : Text) : Option (Int × Text) :=
  match text with
  | mark :: rest =>
    let (negative, digits) := Numeral.sign rest
    if (mark.is 'e' || mark.is 'E') && (digits.head?.any (·.isDigit)) then
      let n : Int := Numeral.value (digits.takeWhile (·.isDigit))
      some (if negative then -n else n, digits.dropWhile (·.isDigit))
    else none
  | [] => none

def scanWhole (text : Text) : Option (Text × Text) :=
  match text with
  | first :: rest =>
    if first.is '0' then some ([first], rest)
    else if first.isDigit then
      some (first :: rest.takeWhile (·.isDigit), rest.dropWhile (·.isDigit))
    else none
  | [] => none

/-- A number is an integer unless it has a fraction or an exponent. -/
def scanNumber (negative : Bool) (text : Text) : Scanned :=
  match scanWhole text with
  | none => .error .malformed
  | some (whole, rest) =>
    let (fraction, rest) := (scanFraction rest).elim (none, rest) fun (f, r) => (some f, r)
    let (exponent, rest) := (scanExponent rest).elim (none, rest) fun (e, r) => (some e, r)
    if fraction.isNone && exponent.isNone then
      if whole.length > Numeral.digitLimit then .error .tooManyDigits
      else
        let n : Int := Numeral.value whole
        .ok (.scalar (.int (if negative then -n else n)), rest)
    else
      let digits := (whole ++ fraction.getD []).dropWhile (·.is '0')
      let power := exponent.getD 0 - (fraction.getD []).length
      .ok (.scalar (.float (.ofDecimal negative (Numeral.value digits) digits.length power)), rest)

def after? (word : String) (text : Text) : Option Text :=
  let word := Text.ofString word
  if word.isPrefixOf text then some (text.drop word.length) else none

def scanWord (text : Text) : Scanned :=
  let words : List (String × Json) :=
    [("null", .null), ("true", .bool true), ("false", .bool false), ("NaN", .float (.nan 0)),
      ("Infinity", .float (.infinite false)), ("-Infinity", .float (.infinite true))]
  match words.findSome? fun (word, value) => (after? word text).map (value, ·) with
  | some (value, rest) => .ok (.scalar value, rest)
  | none =>
    match text with
    | point :: rest => if point.is '-' then scanNumber true rest else scanNumber false text
    | [] => .error .malformed

def scanToken (point : CodePoint) (rest : Text) : Scanned :=
  if point.is '[' then .ok (.openArray, rest)
  else if point.is ']' then .ok (.closeArray, rest)
  else if point.val = 0x7B then .ok (.openObject, rest)
  else if point.val = 0x7D then .ok (.closeObject, rest)
  else if point.is ',' then .ok (.comma, rest)
  else if point.is ':' then .ok (.colon, rest)
  else if point.is '"' then
    match scanText .nothing rest with
    | some (read, after) => .ok (.text read, after)
    | none => .error .malformed
  else scanWord (point :: rest)

def isBlank (point : CodePoint) : Bool :=
  point.is ' ' || point.is '\t' || point.is '\n' || point.is '\r'

/-- The tokens of a text, read by at most `fuel` steps; a step takes at least one code point. -/
def tokensWithin : (fuel : Nat) → Text → List (Except ReadFault Token)
  | 0, _ => []
  | _, [] => []
  | fuel + 1, point :: rest =>
    if isBlank point then tokensWithin fuel rest
    else match scanToken point rest with
      | .ok (token, after) => .ok token :: tokensWithin fuel after
      | .error fault => [.error fault]

def tokens (text : Text) : List (Except ReadFault Token) := tokensWithin text.length text

end QueryWire.Json
