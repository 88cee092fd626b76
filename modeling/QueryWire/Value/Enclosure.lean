import QueryWire.Value

/-!
Which collections and nodes are one and the same. A collection can come to contain itself, but only
through a builder in it that holds it again, so it has its identity at the builders it contains:
each of them says what it stands in. What contains no builder needs no identity.
-/

namespace QueryWire.Value

/-- Whether a value encloses its parts: whether it is a collection or a node, or a record like one.
Terms and failures do not count; what they hold stands in what they stand in. -/
def encloses : Value → Bool
  | .list _ | .tuple _ | .set _ | .dict _ | .view _ | .literal _ | .array _ | .object _ | .ref ..
  | .query .. | .level _ | .response _ | .errorDetail .. | .errors _ | .fieldSource _
  | .bindingSource _ => true
  | _ => false

abbrev Enclosure := Nat × List Nat

def Enclosure.deeper (enclosure : Enclosure) : Enclosure := (enclosure.1 + 1, enclosure.2)

mutual

def enclosure? : Value → Option Enclosure
  | .builder _ _ around => some (0, around)
  | .list items | .tuple items | .set items =>
    (enclosureOfItems? items).map Enclosure.deeper
  | .dict entries | .view entries => (enclosureOfEntries? entries).map Enclosure.deeper
  | .literal part | .array part | .object part | .level part | .response part | .errors part
  | .fieldSource part | .bindingSource part => (enclosure? part).map Enclosure.deeper
  | .ref id parent => ((enclosure? id).or (enclosure? parent)).map Enclosure.deeper
  | .query _ verb argument => ((enclosure? verb).or (enclosure? argument)).map Enclosure.deeper
  | .errorDetail code description position =>
    ((enclosure? code).or ((enclosure? description).or (enclosure? position))).map Enclosure.deeper
  | .term _ source => enclosure? source
  | .failure _ (.plain _ message code) => (enclosure? message).or (enclosure? code)
  | .failure _ (.unauthorized message) => enclosure? message
  | .failure _ (.emptyResponse message) => enclosure? message
  | .failure _ (.badRequest _ code reported) => (enclosure? code).or (enclosure? reported)
  | .failure _ (.notFound _ code reported) => (enclosure? code).or (enclosure? reported)
  | .failure _ (.database _ body status) => (enclosure? body).or (enclosure? status)
  | _ => none

def enclosureOfItems? : List Value → Option Enclosure
  | [] => none
  | item :: items => (enclosure? item).or (enclosureOfItems? items)

def enclosureOfEntries? : List (Value × Value) → Option Enclosure
  | [] => none
  | (key, value) :: entries =>
    ((enclosure? key).or (enclosure? value)).or (enclosureOfEntries? entries)

end

def identity? (value : Value) : Option Nat :=
  if value.encloses then
    match value.enclosure? with
    | some (depth, around) => (around[depth - 1]?).filter (· ≠ 0)
    | none => none
  else none

/-- What a builder that a new value encloses says of its surroundings: the inner ones as before, as
many as stand between, and the new value outside. -/
def surround (identity : Nat) : (depth : Nat) → List Nat → List Nat
  | 0, around => around
  | 1, _ => [identity]
  | depth + 2, around => around.headD 0 :: surround identity (depth + 1) around.tail

mutual

def withIdentity (identity depth : Nat) : Value → Value
  | .builder kind handle around => .builder kind handle (surround identity depth around)
  | .list items => .list (itemsWithIdentity identity (depth + 1) items)
  | .tuple items => .tuple (itemsWithIdentity identity (depth + 1) items)
  | .set items => .set (itemsWithIdentity identity (depth + 1) items)
  | .dict entries => .dict (entriesWithIdentity identity (depth + 1) entries)
  | .view entries => .view (entriesWithIdentity identity (depth + 1) entries)
  | .literal value => .literal (withIdentity identity (depth + 1) value)
  | .array items => .array (withIdentity identity (depth + 1) items)
  | .object fields => .object (withIdentity identity (depth + 1) fields)
  | .level value => .level (withIdentity identity (depth + 1) value)
  | .response resource => .response (withIdentity identity (depth + 1) resource)
  | .errors details => .errors (withIdentity identity (depth + 1) details)
  | .fieldSource path => .fieldSource (withIdentity identity (depth + 1) path)
  | .bindingSource name => .bindingSource (withIdentity identity (depth + 1) name)
  | .ref id parent =>
    .ref (withIdentity identity (depth + 1) id) (withIdentity identity (depth + 1) parent)
  | .query construct verb argument =>
    .query construct (withIdentity identity (depth + 1) verb)
      (withIdentity identity (depth + 1) argument)
  | .errorDetail code description position =>
    .errorDetail (withIdentity identity (depth + 1) code)
      (withIdentity identity (depth + 1) description) (withIdentity identity (depth + 1) position)
  | .term own source => .term own (withIdentity identity depth source)
  | .failure own (.plain kind message code) =>
    .failure own (.plain kind (withIdentity identity depth message)
      (withIdentity identity depth code))
  | .failure own (.unauthorized message) =>
    .failure own (.unauthorized (withIdentity identity depth message))
  | .failure own (.emptyResponse message) =>
    .failure own (.emptyResponse (withIdentity identity depth message))
  | .failure own (.badRequest message code reported) =>
    .failure own (.badRequest message (withIdentity identity depth code)
      (withIdentity identity depth reported))
  | .failure own (.notFound message code reported) =>
    .failure own (.notFound message (withIdentity identity depth code)
      (withIdentity identity depth reported))
  | .failure own (.database message body status) =>
    .failure own (.database message (withIdentity identity depth body)
      (withIdentity identity depth status))
  | value => value

def itemsWithIdentity (identity depth : Nat) : List Value → List Value
  | [] => []
  | item :: items =>
    withIdentity identity depth item :: itemsWithIdentity identity depth items

def entriesWithIdentity (identity depth : Nat) : List (Value × Value) → List (Value × Value)
  | [] => []
  | (key, value) :: entries =>
    (withIdentity identity depth key, withIdentity identity depth value) ::
      entriesWithIdentity identity depth entries

end

end QueryWire.Value
