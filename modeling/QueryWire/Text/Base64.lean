import QueryWire.Text

/-!
Base64 with the standard alphabet and padding.
-/

namespace QueryWire.Base64

def letter (n : Nat) : CodePoint :=
  .ofNat (if n < 26 then 0x41 + n else if n < 52 then 0x61 + (n - 26)
    else if n < 62 then 0x30 + (n - 52) else if n = 62 then 0x2B else 0x2F)

def pad : CodePoint := .ofChar '='

/-- Three octets give four letters; one or two at the end are filled up with padding. -/
def encode : Octets → Text
  | [] => []
  | [a] => [letter (a.toNat / 4), letter (a.toNat % 4 * 16), pad, pad]
  | [a, b] =>
    [letter (a.toNat / 4), letter (a.toNat % 4 * 16 + b.toNat / 16), letter (b.toNat % 16 * 4), pad]
  | a :: b :: c :: rest =>
    letter (a.toNat / 4) :: letter (a.toNat % 4 * 16 + b.toNat / 16) ::
      letter (b.toNat % 16 * 4 + c.toNat / 64) :: letter (c.toNat % 64) :: encode rest

end QueryWire.Base64
