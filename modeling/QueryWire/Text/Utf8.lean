import QueryWire.Text

/-!
UTF-8. One machine reads octets and says, piece by piece, which code point it met or that a piece
was broken; a broken piece is the longest start of some character that stands there, or one octet.
The strict reading accepts a sequence without broken pieces, the lenient one puts U+FFFD for each.
-/

namespace QueryWire.Utf8

/-- Where the machine stands: between characters, or owing some octets. The next octet must lie
between `low` and `high`; later ones are ordinary continuations. -/
inductive State where
  | start
  | owing (count low high value : Nat)

def lead (octet : Nat) : List (Option CodePoint) × State :=
  if octet < 0x80 then ([some (.ofNat octet)], .start)
  else if octet < 0xC2 then ([none], .start)
  else if octet < 0xE0 then ([], .owing 1 0x80 0xBF (octet - 0xC0))
  else if octet = 0xE0 then ([], .owing 2 0xA0 0xBF 0)
  else if octet = 0xED then ([], .owing 2 0x80 0x9F 0xD)
  else if octet < 0xF0 then ([], .owing 2 0x80 0xBF (octet - 0xE0))
  else if octet = 0xF0 then ([], .owing 3 0x90 0xBF 0)
  else if octet < 0xF4 then ([], .owing 3 0x80 0xBF (octet - 0xF0))
  else if octet = 0xF4 then ([], .owing 3 0x80 0x8F 4)
  else ([none], .start)

def step : State → Nat → List (Option CodePoint) × State
  | .start, octet => lead octet
  | .owing count low high value, octet =>
    if low ≤ octet ∧ octet ≤ high then
      let value := value * 64 + (octet - 0x80)
      if count ≤ 1 then ([some (.ofNat value)], .start)
      else ([], .owing (count - 1) 0x80 0xBF value)
    else
      let (pieces, next) := lead octet
      (none :: pieces, next)

def scanFrom : State → Octets → List (Option CodePoint)
  | .start, [] => []
  | .owing .., [] => [none]
  | state, octet :: rest =>
    let (pieces, next) := step state octet.toNat
    pieces ++ scanFrom next rest

def scan (octets : Octets) : List (Option CodePoint) := scanFrom .start octets

def decode? (octets : Octets) : Option Text :=
  let pieces := scan octets
  if pieces.all Option.isSome then some (pieces.filterMap id) else none

def decodeReplacing (octets : Octets) : Text := (scan octets).map (·.getD .replacement)

/-- The octets of one code point. Surrogates have a form too, which `encode` keeps out. -/
def encodePoint (point : CodePoint) : Octets :=
  let n := point.val
  if n < 0x80 then [.ofNat n]
  else if n < 0x800 then [.ofNat (0xC0 + n / 64), .ofNat (0x80 + n % 64)]
  else if n < 0x10000 then
    [.ofNat (0xE0 + n / 4096), .ofNat (0x80 + n / 64 % 64), .ofNat (0x80 + n % 64)]
  else
    [.ofNat (0xF0 + n / 262144), .ofNat (0x80 + n / 4096 % 64), .ofNat (0x80 + n / 64 % 64),
      .ofNat (0x80 + n % 64)]

/-- The first run of surrogates of a text: how many code points precede it, and the run. -/
structure Refusal where
  position : Nat
  run : Text

def encode (text : Text) : Except Refusal Octets :=
  match text.dropWhile (!·.isSurrogate) with
  | [] => .ok (text.flatMap encodePoint)
  | found => .error ⟨(text.takeWhile (!·.isSurrogate)).length, found.takeWhile (·.isSurrogate)⟩

end QueryWire.Utf8
