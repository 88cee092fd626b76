import QueryWire.Fault
import QueryWire.Url.Parse

/-!
Equality of values, and which values can be keys. Numbers are equal across their types, lists and
tuples are not; nodes and responses are equal when their types and fields are; builders and foreign
things are equal only to themselves. To compare a url with a text the text is parsed, which may
fail, so it matters what is compared at all: keys only if they are spelled alike, and the entries of
two mappings in the order of one of them.
-/

namespace QueryWire.Value

variable [Platform]

def number? : Value → Option (Int ⊕ Binary64)
  | .bool value => some (.inl (if value then 1 else 0))
  | .int value => some (.inl value)
  | .float value => some (.inr value)
  | _ => none

def numberEq : Int ⊕ Binary64 → Int ⊕ Binary64 → Bool
  | .inl m, .inl n => m == n
  | .inl m, .inr x => x.eqInt m
  | .inr x, .inl n => x.eqInt n
  | .inr x, .inr y => x.numEq y

def readUrl (content : Text) : Except Fault Url :=
  match Url.parse content with
  | .ok parsed => .ok parsed
  | .error .unencodable => .error (.ambient .unicodeEncodeError [])
  | .error fault => .error (.ambient .invalidUrl fault.message)

/-- A url equals the texts that parse to it; a text that parses to none is a fault. -/
def urlEqText (url : Url) (content : Text) : Except Fault Bool := do
  return (← readUrl content).toText = url.toText

def findKey (test : Value → Except Fault Bool) : List (Value × Value) → Except Fault (Option Value)
  | [] => .ok none
  | (key, value) :: rest => do if ← test key then return some value else findKey test rest

/-- Equality of values without parts. Inside collections and fields a NaN equals the very same NaN.
-/
def eqSimple (inside : Bool) : Value → Value → Bool
  | .null, .null => true
  | .float (.nan i), .float (.nan j) => inside && i == j
  | .text a, .text b => a = b
  | .bytes a, .bytes b => a = b
  | .duration a, .duration b => a = b
  | .url a, .url b => a.toText = b.toText
  | .bare i, .bare j => i = j
  | .term i _, .term j _ => i = j
  | .builder _ i _, .builder _ j _ => i = j
  | .cursor i _, .cursor j _ => i = j
  | .foreign i _ _, .foreign j _ _ => i = j
  | .unknown i, .unknown j => i = j
  | .failure i _, .failure j _ => i = j
  | a, b =>
    match a.number?, b.number? with
    | some m, some n => numberEq m n
    | _, _ => false

/-- The parts that a key is spelled with; a node is spelled as the tuple of its fields. -/
def keyParts? : Value → Option (List Value)
  | .tuple items => some items
  | .literal part | .array part | .object part | .level part => some [part]
  | .ref id parent => some [id, parent]
  | .query _ verb argument => some [verb, argument]
  | _ => none

mutual

/-- Whether two keys are spelled alike, where a url is spelled as the text it is written as. -/
def spelledAlike : Value → Value → Bool
  | .url a, .text b => a.toText = b
  | .text a, .url b => a = b.toText
  | .tuple xs, key =>
    match key.keyParts? with
    | some ys => allSpelledAlike xs ys
    | none => false
  | .literal x, key | .array x, key | .object x, key | .level x, key =>
    match key.keyParts? with
    | some [y] => spelledAlike x y
    | _ => false
  | .ref x x', key | .query _ x x', key =>
    match key.keyParts? with
    | some [y, y'] => spelledAlike x y && spelledAlike x' y'
    | _ => false
  | a, b => eqSimple true a b

def allSpelledAlike : List Value → List Value → Bool
  | [], [] => true
  | x :: xs, y :: ys => spelledAlike x y && allSpelledAlike xs ys
  | _, _ => false

end

/-- An entry as what it can be compared with: a test of another key, and one of another value, which
is told whether it is that value that is asked. -/
abbrev EntryTest := (Value → Except Fault Bool) × (Bool → Value → Except Fault Bool)

def eqInOrderOfFirst : List EntryTest → List (Value × Value) → Except Fault Bool
  | [], _ => .ok true
  | (sameKey, sameValue) :: rest, others => do
    match ← findKey sameKey others with
    | some found =>
      if ← sameValue false found then eqInOrderOfFirst rest others else return false
    | none => return false

def findTest (key : Value) :
    List EntryTest → Except Fault (Option (Bool → Value → Except Fault Bool))
  | [] => .ok none
  | (sameKey, sameValue) :: rest => do
    if ← sameKey key then return some sameValue else findTest key rest

def eqInOrderOfSecond (tests : List EntryTest) : List (Value × Value) → Except Fault Bool
  | [] => .ok true
  | (key, value) :: rest => do
    match ← findTest key tests with
    | some sameValue =>
      if ← sameValue true value then eqInOrderOfSecond tests rest else return false
    | none => return false

def eqMappings (byFirst : Bool) (tests : List EntryTest) (others : List (Value × Value)) :
    Except Fault Bool :=
  if tests.length ≠ others.length then .ok false
  else if byFirst then eqInOrderOfFirst tests others
  else eqInOrderOfSecond tests others

mutual

/-- Equality. One value is asked about the other, the second one if `swapped`. This matters to two
mappings: the one that is asked sets the order, unless the other one is a view. -/
def eqWith (inside swapped : Bool) : Value → Value → Except Fault Bool
  | .url a, .text b => urlEqText a b
  | .text a, .url b => urlEqText b a
  | .list xs, .list ys => if xs.length = ys.length then eqItems swapped xs ys else .ok false
  | .tuple xs, .tuple ys => eqItems swapped xs ys
  | .set xs, .set ys => if xs.length = ys.length then eqMembers xs ys else .ok false
  | .dict xs, .dict ys => eqMappings (!swapped) (entryTests xs) ys
  | .dict xs, .view ys => eqMappings false (entryTests xs) ys
  | .view xs, .dict ys => eqMappings true (entryTests xs) ys
  | .view xs, .view ys => eqMappings swapped (entryTests xs) ys
  | .literal a, .literal b => eqWith true swapped a b
  | .array a, .array b => eqWith true swapped a b
  | .object a, .object b => eqWith true swapped a b
  | .ref a b, .ref c d => do
    if ← eqWith true swapped a c then eqWith true swapped b d else return false
  | .query p a b, .query q c d => do
    if p ≠ q then return false
    if ← eqWith true swapped a c then eqWith true swapped b d else return false
  | .level a, .level b => eqWith true swapped a b
  | .response a, .response b => eqWith true swapped a b
  | .errorDetail a b c, .errorDetail d e f => do
    if ← eqWith true swapped a d then
      if ← eqWith true swapped b e then eqWith true swapped c f else return false
    else return false
  | .errors a, .errors b => eqWith true swapped a b
  | a, b => .ok (eqSimple inside a b)

def eqItems (swapped : Bool) : List Value → List Value → Except Fault Bool
  | [], [] => .ok true
  | x :: xs, y :: ys => do
    if ← eqWith true swapped x y then eqItems swapped xs ys else return false
  | _, _ => .ok false

def eqMembers : List Value → List Value → Except Fault Bool
  | [], _ => .ok true
  | x :: xs, ys => do
    if ← ys.anyM fun y => if spelledAlike x y then eqWith true false x y else .ok false then
      eqMembers xs ys
    else return false

def entryTests : List (Value × Value) → List EntryTest
  | [] => []
  | (key, value) :: rest =>
    (fun other => if spelledAlike key other then eqWith true false key other else .ok false,
      fun swapped other => eqWith true swapped value other) :: entryTests rest

end

def eq (a b : Value) : Except Fault Bool := eqWith false false a b

def sameKey (a b : Value) : Except Fault Bool :=
  if a.spelledAlike b then eqWith true false a b else .ok false

mutual

def unhashable? : Value → Option String
  | .list _ => some "list"
  | .set _ => some "set"
  | .dict _ => some "dict"
  | .view _ => some "mappingproxy"
  | .response _ => some "Response"
  | .errorDetail .. => some "FaunaErrorDetail"
  | .errors _ => some "FaunaErrors"
  | .tuple items => unhashableItem? items
  | .fieldSource path => unhashable? path
  | .literal value => unhashable? value
  | .array items => unhashable? items
  | .object fields => unhashable? fields
  | .ref id parent => (unhashable? id).or (unhashable? parent)
  | .query _ verb argument => (unhashable? verb).or (unhashable? argument)
  | .level value => unhashable? value
  | .bindingSource name => unhashable? name
  | _ => none

def unhashableItem? : List Value → Option String
  | [] => none
  | item :: items => (unhashable? item).or (unhashableItem? items)

end

def checkHashable (value : Value) : Except Fault Unit :=
  match value.unhashable? with
  | some typeName => .error (.unhashable typeName)
  | none => .ok ()

/-- Adds an entry: the value of an equal key is replaced and the key stays where it is. -/
def insertEntry (key value : Value) :
    List (Value × Value) → Except Fault (List (Value × Value))
  | [] => .ok [(key, value)]
  | (found, old) :: rest => do
    if ← sameKey found key then return (found, value) :: rest
    else return (found, old) :: (← insertEntry key value rest)

end QueryWire.Value
