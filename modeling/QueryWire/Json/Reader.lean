import QueryWire.Json.Token

/-!
JSON trees from tokens. The reader keeps the arrays and objects that are open, innermost first, and
says what it expects next; no token is ever taken back. There is room for so many open ones and no
more.
-/

namespace QueryWire.Json

/-- An open array, its items in reverse, or an open object that waits for the value of
`key`. -/
inductive Frame where
  | array (done : List Json)
  | object (done : List (Text × Json)) (key : Text)

/-- What may come next. The members of the innermost open object are carried where no key is open.
-/
inductive Expected where
  | value
  | itemOrClose
  | keyOrClose
  | key (done : List (Text × Json))
  | colon (done : List (Text × Json)) (key : Text)
  | separator (last : Json)

structure Reader where
  frames : List Frame
  expected : Expected

namespace Reader

def initial : Reader := ⟨[], .value⟩

def completed (frames : List Frame) (value : Json) : Except ReadFault Reader :=
  .ok ⟨frames, .separator value⟩

def opened (room : Nat) (frames : List Frame) (expected : Expected) : Except ReadFault Reader :=
  if frames.length < room then .ok ⟨frames, expected⟩ else .error .tooDeep

def onValue (room : Nat) (frames : List Frame) : Token → Except ReadFault Reader
  | .openArray => opened room frames .itemOrClose
  | .openObject => opened room frames .keyOrClose
  | .scalar value => completed frames value
  | .text value => completed frames (.text value)
  | _ => .error .malformed

def onSeparator (frames : List Frame) (last : Json) (token : Token) : Except ReadFault Reader :=
  match frames, token with
  | .array done :: outer, .comma => .ok ⟨.array (last :: done) :: outer, .value⟩
  | .array done :: outer, .closeArray => completed outer (.array (last :: done).reverse)
  | .object done key :: outer, .comma => .ok ⟨outer, .key (insertMember key last done)⟩
  | .object done key :: outer, .closeObject =>
    completed outer (.object (insertMember key last done))
  | _, _ => .error .malformed

def step (room : Nat) (reader : Reader) (token : Token) : Except ReadFault Reader :=
  match reader.expected, token with
  | .value, token => onValue room reader.frames token
  | .itemOrClose, .closeArray => completed reader.frames (.array [])
  | .itemOrClose, token => onValue room (.array [] :: reader.frames) token
  | .keyOrClose, .closeObject => completed reader.frames (.object [])
  | .keyOrClose, .text key => .ok ⟨reader.frames, .colon [] key⟩
  | .keyOrClose, _ => .error .malformed
  | .key done, .text key => .ok ⟨reader.frames, .colon done key⟩
  | .key _, _ => .error .malformed
  | .colon done key, .colon => .ok ⟨.object done key :: reader.frames, .value⟩
  | .colon _ _, _ => .error .malformed
  | .separator last, token => onSeparator reader.frames last token

def run (room : Nat) : Reader → List (Except ReadFault Token) → Except ReadFault Json
  | ⟨[], .separator value⟩, [] => .ok value
  | _, [] => .error .malformed
  | reader, .ok token :: rest =>
    match reader.step room token with
    | .ok next => run room next rest
    | .error fault => .error fault
  | reader, .error fault :: _ =>
    match reader.expected, fault with
    | .value, .tooManyDigits => .error .tooManyDigits
    | .itemOrClose, .tooManyDigits => .error .tooManyDigits
    | _, _ => .error .malformed

end Reader

/-- Reads a whole text as one value, with room for so many arrays and objects in each other. -/
def parse (room : Nat) (text : Text) : Except ReadFault Json :=
  Reader.initial.run room (tokens text)

end QueryWire.Json
