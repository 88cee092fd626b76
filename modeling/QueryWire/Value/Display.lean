import QueryWire.Number.Shortest
import QueryWire.Text.Quoted
import QueryWire.Value.Iteration

/-!
Values as texts: the quoted form that messages show, and the plain form that formatting uses, which
differs from it for texts, urls, durations, views, failures and lists of errors. Both fail on
integers that are too long to be written. A list of errors is read to be written, so a one-shot
sequence in it is used up. What comes up within itself is not shown again.
-/

namespace QueryWire

def durationParts (microseconds : Int) : Int × Nat × Nat :=
  let seconds := Int.fdiv microseconds 1000000
  (Int.fdiv seconds 86400, (Int.fmod seconds 86400).toNat, (Int.fmod microseconds 1000000).toNat)

def displayDuration (microseconds : Int) : Text :=
  let (days, seconds, rest) := durationParts microseconds
  let part (name : String) (n : Int) : List Text :=
    if n = 0 then [] else [Text.ofString name ++ "=" ++ Numeral.ofInt n]
  let parts := part "days" days ++ part "seconds" seconds ++ part "microseconds" rest
  let shown : Text := if parts.isEmpty then "0" else Text.joinWith ", " parts
  "datetime.timedelta(" ++ shown ++ ")"

def padded (width n : Nat) : Text :=
  let digits := Numeral.ofNat n
  List.replicate (width - digits.length) (.ofChar '0') ++ digits

def plainDuration (microseconds : Int) : Text :=
  let (days, seconds, rest) := durationParts microseconds
  let day : Text :=
    if days = 0 then []
    else Numeral.ofInt days ++ Text.ofString (if days.natAbs = 1 then " day, " else " days, ")
  let clock : Text := Numeral.ofNat (seconds / 3600) ++ ":" ++ padded 2 (seconds / 60 % 60) ++
    ":" ++ padded 2 (seconds % 60)
  day ++ clock ++ (if rest = 0 then [] else .ofChar '.' :: padded 6 rest)

def displayInt (n : Int) : Except Fault Text :=
  if Numeral.fits n then .ok (Numeral.ofInt n) else .error .tooManyDigits

def enclosed (opening : String) (items : List Text) (closing : String) : Text :=
  Text.ofString opening ++ Text.joinWith ", " items ++ Text.ofString closing

def record (name : String) (fields : List (String × Text)) : Text :=
  Text.ofString name ++ "(" ++
    Text.joinWith ", " (fields.map fun (field, text) => Text.ofString field ++ "=" ++ text) ++ ")"

namespace Value

def ellipsis : Value → Text
  | .list _ => "[...]"
  | .tuple _ => "(...)"
  | .set _ => "set(...)"
  | .dict _ => "\x7b...\x7d"
  | .view _ => "mappingproxy(\x7b...\x7d)"
  | _ => "..."

def showing (opened : List Nat) (value : Value) (again : Text) (body : List Nat → Run Text) :
    Run Text :=
  match value.identity? with
  | none => body opened
  | some identity => if opened.contains identity then return again else body (identity :: opened)

/-- The text of a builder, given the identities of what is being shown, its kind and its handle. -/
abbrev BuilderDisplay := List Nat → BuilderKind → Nat → Run Text

mutual

def displayWith (builders : BuilderDisplay) (opened : List Nat) (value : Value) : Run Text :=
  showing opened value value.ellipsis fun opened => do
    match value with
    | .null => return "None"
    | .bool value => return (if value then "True" else "False")
    | .int value => displayInt value
    | .float value => return value.toText
    | .text value => return Quoted.text value
    | .bytes value => return Quoted.octets value
    | .list items => return enclosed "[" (← displayItems builders opened items) "]"
    | .tuple [item] => return "(" ++ (← displayWith builders opened item) ++ ",)"
    | .tuple items => return enclosed "(" (← displayItems builders opened items) ")"
    | .set [] => return "set()"
    | .set items => return enclosed "\x7b" (← displayItems builders opened items) "\x7d"
    | .dict entries => return enclosed "\x7b" (← displayEntries builders opened entries) "\x7d"
    | .view entries =>
      return enclosed "mappingproxy(\x7b" (← displayEntries builders opened entries) "\x7d)"
    | .duration microseconds => return displayDuration microseconds
    | .url value => return value.display
    | .bare _ => return "<Expr object>"
    | .literal value =>
      return record "Literal" [("value", ← displayWith builders opened value)]
    | .array items => return record "Array" [("items", ← displayWith builders opened items)]
    | .object fields => return record "Object" [("fields", ← displayWith builders opened fields)]
    | .ref id parent =>
      let id ← displayWith builders opened id
      return record "Ref" [("id", id), ("class_ref", ← displayWith builders opened parent)]
    | .query construct verb argument =>
      let verb ← displayWith builders opened verb
      let argument ← displayWith builders opened argument
      return record construct.name [("verb", verb), ("argument", argument)]
    | .level value => return record "Level" [("value", ← displayWith builders opened value)]
    | .response resource =>
      return record "Response" [("resource", ← displayWith builders opened resource)]
    | .errorDetail code description position =>
      let code ← displayWith builders opened code
      let description ← displayWith builders opened description
      let position ← displayWith builders opened position
      return record "FaunaErrorDetail" [("code", code), ("description", description),
        ("position", position)]
    | .errors details =>
      return record "FaunaErrors" [("errors", ← displayWith builders opened details)]
    | .fieldSource path => return record "_Field" [("path", ← displayWith builders opened path)]
    | .bindingSource name =>
      return record "_Binding" [("name", ← displayWith builders opened name)]
    | .term _ source => return enclosed "Term(" [← displayWith builders opened source] ")"
    | .builder kind handle _ => builders opened kind handle
    | .cursor _ _ => return "<list_iterator object>"
    | .foreign .. => return "<Duck object>"
    | .unknown _ => return "<opaque>"
    | .failure _ (.plain kind message _) =>
      return enclosed (kind.name ++ "(") [← displayWith builders opened message] ")"
    | .failure _ (.unauthorized message) =>
      return enclosed "Unauthorized(" [← displayWith builders opened message] ")"
    | .failure _ (.emptyResponse message) =>
      return enclosed "EmptyResponse(" [← displayWith builders opened message] ")"
    | .failure _ (.badRequest message _ _) =>
      return enclosed "BadRequest(" [Quoted.text message] ")"
    | .failure _ (.notFound message _ _) =>
      return enclosed "NotFound(" [Quoted.text message] ")"
    | .failure _ (.database message _ _) =>
      return enclosed "DatabaseError(" [Quoted.text message] ")"

def displayItems (builders : BuilderDisplay) (opened : List Nat) : List Value → Run (List Text)
  | [] => return []
  | item :: items => do
    let first ← displayWith builders opened item
    return first :: (← displayItems builders opened items)

def displayEntries (builders : BuilderDisplay) (opened : List Nat) :
    List (Value × Value) → Run (List Text)
  | [] => return []
  | (key, value) :: entries => do
    let key ← displayWith builders opened key
    let value ← displayWith builders opened value
    return (key ++ ": " ++ value) :: (← displayEntries builders opened entries)

end

mutual

def plainWith (builders : BuilderDisplay) (opened : List Nat) : Value → Run Text
  | .text value => return value
  | .url value => return value.toText
  | .duration microseconds => return plainDuration microseconds
  | .view entries =>
    showing opened (.view entries) "\x7b...\x7d" fun opened => do
      return enclosed "\x7b" (← displayEntries builders opened entries) "\x7d"
  | .failure _ (.plain _ message _) => plainWith builders opened message
  | .failure _ (.unauthorized message) => plainWith builders opened message
  | .failure _ (.emptyResponse message) => plainWith builders opened message
  | .failure _ (.badRequest message _ _) => return message
  | .failure _ (.notFound message _ _) => return message
  | .failure _ (.database message _ _) => return message
  | .errors details => do
    let lines ← errorLines builders opened details
    return Text.joinWith "; " (← lines.forEach id)
  | value => value.displayWith builders opened

def errorLines (builders : BuilderDisplay) (opened : List Nat) :
    Value → Except Fault (Iteration (Run Text))
  | .list items | .tuple items | .set items => .ok ⟨none, itemLines builders opened items⟩
  | .dict entries | .view entries => .ok ⟨none, keyLines builders opened entries⟩
  | .cursor handle items => .ok ⟨some handle, itemLines builders opened items⟩
  | .errors details => errorLines builders opened details
  | .text points => .ok ⟨none, points.map fun _ => throw .noAttribute⟩
  | .bytes octets => .ok ⟨none, octets.map fun _ => throw .noAttribute⟩
  | value => .error (.notIterable value)

def itemLines (builders : BuilderDisplay) (opened : List Nat) : List Value → List (Run Text)
  | [] => []
  | item :: items => errorLine builders opened item :: itemLines builders opened items

def keyLines (builders : BuilderDisplay) (opened : List Nat) :
    List (Value × Value) → List (Run Text)
  | [] => []
  | (key, _) :: entries => errorLine builders opened key :: keyLines builders opened entries

/-- The line of an error entry. A failure has a code too, but no description. -/
def errorLine (builders : BuilderDisplay) (opened : List Nat) : Value → Run Text
  | .errorDetail code description _ => do
    let code ← plainWith builders opened code
    let description ← plainWith builders opened description
    return code ++ ": " ++ description
  | .failure _ (.plain _ _ code) => do
    let _ ← plainWith builders opened code
    throw .noAttribute
  | .failure _ (.badRequest _ code _) => do
    let _ ← plainWith builders opened code
    throw .noAttribute
  | .failure _ (.notFound _ code _) => do
    let _ ← plainWith builders opened code
    throw .noAttribute
  | _ => throw .noAttribute

end

/-- How builders are shown, through at most `fuel` builders within one another. An index value
shows its parts, any other builder only its kind. -/
def displayBuilder : (fuel : Nat) → BuilderDisplay
  | 0 => fun _ _ _ => throw .tooDeep
  | fuel + 1 => fun opened kind handle => do
    match (← Run.store).builders[handle]? with
    | some (.indexValue source reverse) =>
      let source ← source.displayWith (displayBuilder fuel) opened
      let reverse ← reverse.plainWith (displayBuilder fuel) opened
      return "IndexValue(" ++ source ++ ", reverse=" ++ reverse ++ ")"
    | _ => return "<" ++ Text.ofString kind.name ++ " object>"

/-- How many builders may be shown within one another. Builders that hold each other without a
collection between them would be shown without end. -/
def displayDepth : Nat := 1000

def display (value : Value) : Run Text := value.displayWith (displayBuilder displayDepth) []

def plain (value : Value) : Run Text := value.plainWith (displayBuilder displayDepth) []

end Value

end QueryWire
