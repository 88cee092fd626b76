import QueryWire.Text.Utf8

/-!
JSON texts in octets. A byte order mark tells the encoding; without one the zeros among the first
octets tell it, since a JSON text begins with ASCII characters. Surrogates that were encoded one by
one are read as such.
-/

namespace QueryWire.Json

inductive Encoding where
  | utf8
  | utf16 (bigEndian : Bool)
  | utf32 (bigEndian : Bool)
deriving DecidableEq

namespace Encoding

def unmarked : Octets → Encoding
  | a :: b :: c :: d :: _ =>
    if a = 0 then if b = 0 then .utf32 true else .utf16 true
    else if b = 0 then if c = 0 ∧ d = 0 then .utf32 false else .utf16 false
    else .utf8
  | [a, b] => if a = 0 then .utf16 true else if b = 0 then .utf16 false else .utf8
  | _ => .utf8

def detect : Octets → Encoding × Octets
  | 0x00 :: 0x00 :: 0xFE :: 0xFF :: rest => (.utf32 true, rest)
  | 0xFF :: 0xFE :: 0x00 :: 0x00 :: rest => (.utf32 false, rest)
  | 0xFE :: 0xFF :: rest => (.utf16 true, rest)
  | 0xFF :: 0xFE :: rest => (.utf16 false, rest)
  | 0xEF :: 0xBB :: 0xBF :: rest => (.utf8, rest)
  | octets => (unmarked octets, octets)

def number (bigEndian : Bool) (octets : Octets) : Nat :=
  (if bigEndian then octets else octets.reverse).foldl (fun n octet => n * 256 + octet.toNat) 0

def pairs? (bigEndian : Bool) : Octets → Option (List Nat)
  | [] => some []
  | a :: b :: rest => (number bigEndian [a, b] :: ·) <$> pairs? bigEndian rest
  | _ => none

def quads? (bigEndian : Bool) : Octets → Option (List Nat)
  | [] => some []
  | a :: b :: c :: d :: rest => (number bigEndian [a, b, c, d] :: ·) <$> quads? bigEndian rest
  | _ => none

/-- The text of UTF-16 units. A high surrogate joins the low one right behind it. -/
def joinSurrogates : List Nat → Text
  | high :: low :: rest =>
    if (CodePoint.ofNat high).isHighSurrogate && (CodePoint.ofNat low).isLowSurrogate then
      .ofNat (0x10000 + (high - 0xD800) * 1024 + (low - 0xDC00)) :: joinSurrogates rest
    else .ofNat high :: joinSurrogates (low :: rest)
  | units => units.map .ofNat

/-- The octets before the first surrogate that is encoded on its own, and each such surrogate with
the octets behind it. -/
def cutSurrogates : Octets → Octets × List (CodePoint × Octets)
  | a :: b :: c :: rest =>
    if a = 0xED ∧ 0xA0 ≤ b ∧ b ≤ 0xBF ∧ 0x80 ≤ c ∧ c ≤ 0xBF then
      let (run, more) := cutSurrogates rest
      ([], (.ofNat (0xD000 + (b.toNat - 0x80) * 64 + (c.toNat - 0x80)), run) :: more)
    else
      let (run, more) := cutSurrogates (b :: c :: rest)
      (a :: run, more)
  | octets => (octets, [])

def decodeUtf8? (octets : Octets) : Option Text := do
  let (run, more) := cutSurrogates octets
  let first ← Utf8.decode? run
  let others ← more.mapM fun (surrogate, run) => (surrogate :: ·) <$> Utf8.decode? run
  return first ++ others.flatten

end Encoding

def decodeOctets? (octets : Octets) : Option Text :=
  match Encoding.detect octets with
  | (.utf8, octets) => Encoding.decodeUtf8? octets
  | (.utf16 bigEndian, octets) => Encoding.joinSurrogates <$> Encoding.pairs? bigEndian octets
  | (.utf32 bigEndian, octets) => do
    let units ← Encoding.quads? bigEndian octets
    if units.all (· < 0x110000) then some (units.map .ofNat) else none

end QueryWire.Json
