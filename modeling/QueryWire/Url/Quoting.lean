import QueryWire.Text.Utf8

/-!
Percent quoting. Each part of a url has its own set of code points that need no quoting; an escape
that is already there stays as it is.
-/

namespace QueryWire.Url

def isUnreserved (point : CodePoint) : Bool :=
  point.isLetter || point.isDigit || point.is '-' || point.is '.' || point.is '_' || point.is '~'

def oneOf (characters : String) (point : CodePoint) : Bool := characters.toList.any point.is

def printableExcept (characters : String) (point : CodePoint) : Bool :=
  point.within 0x21 0x7E && !oneOf characters point

def safeInHost (point : CodePoint) : Bool :=
  oneOf "!$&'()*+,;=\"`%|\\" point || point.val == 0x7B || point.val == 0x7D

def safeInPath : CodePoint → Bool := printableExcept "\"#<>?`\x7b\x7d"

def safeInQuery : CodePoint → Bool := printableExcept "\"#<>"

def safeInFragment : CodePoint → Bool := printableExcept "\"<>`"

def safeInUserinfo (point : CodePoint) : Bool :=
  safeInPath point && !oneOf "/;=@[\\]^|" point

def escapeOctet (octet : UInt8) : Text :=
  [.ofChar '%', .hexDigitUpper (octet.toNat / 16), .hexDigitUpper (octet.toNat % 16)]

def escapePoint? (point : CodePoint) : Option Text :=
  if point.isSurrogate then none else some ((Utf8.encodePoint point).flatMap escapeOctet)

def quotePoint? (safe : CodePoint → Bool) (point : CodePoint) : Option Text :=
  if isUnreserved point || safe point then some [point] else escapePoint? point

def isEscape (mark high low : CodePoint) : Bool :=
  mark.is '%' && high.hexValue?.isSome && low.hexValue?.isSome

/-- Quotes what is neither safe nor part of an escape. Fails on a surrogate. -/
def quote? (safe : CodePoint → Bool) : Text → Option Text
  | a :: b :: c :: rest =>
    if isEscape a b c then (fun quoted => a :: b :: c :: quoted) <$> quote? safe rest
    else do
      let first ← quotePoint? safe a
      let quoted ← quote? safe (b :: c :: rest)
      some (first ++ quoted)
  | a :: rest => do
    let first ← quotePoint? safe a
    let quoted ← quote? safe rest
    some (first ++ quoted)
  | [] => some []

def unquote : Text → Octets
  | a :: b :: c :: rest =>
    match a.is '%', b.hexValue?, c.hexValue? with
    | true, some high, some low => .ofNat (high * 16 + low) :: unquote rest
    | _, _, _ => .ofNat a.val :: unquote (b :: c :: rest)
  | a :: rest => .ofNat a.val :: unquote rest
  | [] => []

end QueryWire.Url
