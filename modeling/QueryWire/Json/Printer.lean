import QueryWire.Json
import QueryWire.Number.Shortest

/-!
JSON text in printable ASCII: every other code point is escaped, beyond the basic plane as a pair of
surrogates. A comma and a colon are each followed by one space.
-/

namespace QueryWire.Json

def unicodeEscape (unit : Nat) : Text := "\\u" ++ Text.hex 4 unit

def escapePoint (point : CodePoint) : Text :=
  if point.is '"' then "\\\""
  else if point.is '\\' then "\\\\"
  else if point.is '\n' then "\\n"
  else if point.is '\r' then "\\r"
  else if point.is '\t' then "\\t"
  else if point.val = 0x0C then "\\f"
  else if point.val = 0x08 then "\\b"
  else if point.within 0x20 0x7E then [point]
  else if point.val < 0x10000 then unicodeEscape point.val
  else
    unicodeEscape (0xD800 + (point.val - 0x10000) / 0x400) ++
      unicodeEscape (0xDC00 + (point.val - 0x10000) % 0x400)

def renderText (text : Text) : Text :=
  [.ofChar '"'] ++ text.flatMap escapePoint ++ [.ofChar '"']

mutual

def render : Json → Text
  | .null => "null"
  | .bool value => if value then "true" else "false"
  | .int value => Numeral.ofInt value
  | .float value => value.toText
  | .text value => renderText value
  | .array items => [.ofChar '['] ++ Text.joinWith ", " (renderItems items) ++ [.ofChar ']']
  | .object members =>
    [.ofNat 0x7B] ++ Text.joinWith ", " (renderMembers members) ++ [.ofNat 0x7D]

def renderItems : List Json → List Text
  | [] => []
  | item :: items => render item :: renderItems items

def renderMembers : List (Text × Json) → List Text
  | [] => []
  | (key, value) :: members => (renderText key ++ ": " ++ render value) :: renderMembers members

end

end QueryWire.Json
