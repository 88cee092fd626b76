import QueryWire.Text.Unprintable

/-!
Texts and octets as they are quoted in messages: in single quotes, or in double quotes where the
content has single quotes only. Unprintable code points are escaped with the shortest of the three
numeric forms that holds them.
-/

namespace QueryWire.Quoted

def mark (hasSingle hasDouble : Bool) : Char := if hasSingle && !hasDouble then '"' else '\''

def common? (quote : Char) (point : CodePoint) : Option Text :=
  if point.is quote || point.is '\\' then some [.ofChar '\\', point]
  else if point.is '\n' then some "\\n"
  else if point.is '\r' then some "\\r"
  else if point.is '\t' then some "\\t"
  else none

def escapePoint (quote : Char) (point : CodePoint) : Text :=
  (common? quote point).getD <|
    if point.isPrintable then [point]
    else if point.val < 0x100 then "\\x" ++ Text.hex 2 point.val
    else if point.val < 0x10000 then "\\u" ++ Text.hex 4 point.val
    else "\\U" ++ Text.hex 8 point.val

def text (content : Text) : Text :=
  let quote := mark (content.hasChar '\'') (content.hasChar '"')
  [.ofChar quote] ++ content.flatMap (escapePoint quote) ++ [.ofChar quote]

def escapeOctet (quote : Char) (octet : UInt8) : Text :=
  let point := CodePoint.ofNat octet.toNat
  (common? quote point).getD <|
    if point.within 0x20 0x7E then [point] else "\\x" ++ Text.hex 2 octet.toNat

def octets (content : Octets) : Text :=
  let quote := mark (content.any (· == 0x27)) (content.any (· == 0x22))
  [.ofChar 'b', .ofChar quote] ++ content.flatMap (escapeOctet quote) ++ [.ofChar quote]

end QueryWire.Quoted
