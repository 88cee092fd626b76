import QueryWire.Proofs.Number.Decimal
import QueryWire.Text.Base64

/-!
Base64 loses nothing. An encoding consists of letters and is filled up with padding to a multiple
of four, and a strict reading of it gives the octets back, so different octets have different
encodings.
-/

namespace QueryWire.Base64

def IsLetter (point : CodePoint) : Prop :=
  point.isLetter = true ∨ point.isDigit = true ∨ point.is '+' = true ∨ point.is '/' = true

/-- Letters in groups of four; padding stands for at most two letters of the last group. -/
inductive Padded : Text → Prop
  | nil : Padded []
  | two {a b : CodePoint} (first : IsLetter a) (second : IsLetter b) : Padded [a, b, pad, pad]
  | three {a b c : CodePoint} (first : IsLetter a) (second : IsLetter b) (third : IsLetter c) :
      Padded [a, b, c, pad]
  | four {a b c d : CodePoint} {rest : Text} (first : IsLetter a) (second : IsLetter b)
      (third : IsLetter c) (fourth : IsLetter d) (others : Padded rest) :
      Padded (a :: b :: c :: d :: rest)

def value? (point : CodePoint) : Option Nat :=
  if point.within 0x41 0x5A then some (point.val - 0x41)
  else if point.within 0x61 0x7A then some (point.val - 0x61 + 26)
  else if point.within 0x30 0x39 then some (point.val - 0x30 + 52)
  else if point.is '+' then some 62
  else if point.is '/' then some 63
  else none

/-- The octet of two letters, of which the second has no bits to spare. -/
def readTwo (a b : CodePoint) : Option Octets := do
  let a ← value? a
  let b ← value? b
  if b % 16 = 0 then some [.ofNat (a * 4 + b / 16)] else none

def readThree (a b c : CodePoint) : Option Octets := do
  let a ← value? a
  let b ← value? b
  let c ← value? c
  if c % 4 = 0 then some [.ofNat (a * 4 + b / 16), .ofNat (b % 16 * 16 + c / 4)] else none

def readFour (a b c d : CodePoint) : Option Octets := do
  let a ← value? a
  let b ← value? b
  let c ← value? c
  let d ← value? d
  return [.ofNat (a * 4 + b / 16), .ofNat (b % 16 * 16 + c / 4), .ofNat (c % 4 * 64 + d)]

/-- The strict reading: groups of four letters, and padding in the last group only. -/
def decode? : Text → Option Octets
  | [] => some []
  | a :: b :: c :: d :: rest =>
    if d = pad ∧ rest = [] then if c = pad then readTwo a b else readThree a b c
    else do
      let octets ← readFour a b c d
      return octets ++ (← decode? rest)
  | _ => none

theorem letter_val (n : Nat) :
    (letter n).val =
      if n < 26 then 0x41 + n else if n < 52 then 0x61 + (n - 26)
        else if n < 62 then 0x30 + (n - 52) else if n = 62 then 0x2B else 0x2F := by
  unfold letter CodePoint.ofNat
  rw [dif_pos]
  -- No letter lies outside of ASCII.
  grind

theorem letter_ne_pad (n : Nat) : letter n ≠ pad := by
  intro same
  have code : (letter n).val = 0x3D := congrArg CodePoint.val same
  rw [letter_val] at code
  grind

theorem isLetter_letter (n : Nat) : IsLetter (letter n) := by
  have code := letter_val n
  have plus : ('+').toNat = 0x2B := rfl
  have slash : ('/').toNat = 0x2F := rfl
  simp only [IsLetter, CodePoint.isLetter, CodePoint.isDigit, Bool.or_eq_true,
    CodePoint.within_iff, CodePoint.is, beq_iff_eq, plus, slash]
  grind

theorem value?_letter (n : Nat) (small : n < 64) : value? (letter n) = some n := by
  revert n
  decide

section

variable (a b c : UInt8)

theorem readTwo_letters :
    readTwo (letter (a.toNat / 4)) (letter (a.toNat % 4 * 16)) = some [a] := by
  have bound := a.toNat_lt
  rw [readTwo, value?_letter _ (by omega), value?_letter _ (by omega)]
  change (if a.toNat % 4 * 16 % 16 = 0 then
    some [UInt8.ofNat (a.toNat / 4 * 4 + a.toNat % 4 * 16 / 16)] else none) = _
  have first : a.toNat / 4 * 4 + a.toNat % 4 * 16 / 16 = a.toNat := by omega
  rw [if_pos (by omega), first, UInt8.ofNat_toNat]

theorem readThree_letters :
    readThree (letter (a.toNat / 4)) (letter (a.toNat % 4 * 16 + b.toNat / 16))
      (letter (b.toNat % 16 * 4)) = some [a, b] := by
  have bound := a.toNat_lt
  have bound' := b.toNat_lt
  rw [readThree, value?_letter _ (by omega), value?_letter _ (by omega),
    value?_letter _ (by omega)]
  change (if b.toNat % 16 * 4 % 4 = 0 then
    some [UInt8.ofNat (a.toNat / 4 * 4 + (a.toNat % 4 * 16 + b.toNat / 16) / 16),
      UInt8.ofNat ((a.toNat % 4 * 16 + b.toNat / 16) % 16 * 16 + b.toNat % 16 * 4 / 4)]
    else none) = _
  have first : a.toNat / 4 * 4 + (a.toNat % 4 * 16 + b.toNat / 16) / 16 = a.toNat := by omega
  have second : (a.toNat % 4 * 16 + b.toNat / 16) % 16 * 16 + b.toNat % 16 * 4 / 4 = b.toNat := by
    omega
  rw [if_pos (by omega), first, second, UInt8.ofNat_toNat, UInt8.ofNat_toNat]

theorem readFour_letters :
    readFour (letter (a.toNat / 4)) (letter (a.toNat % 4 * 16 + b.toNat / 16))
      (letter (b.toNat % 16 * 4 + c.toNat / 64)) (letter (c.toNat % 64)) = some [a, b, c] := by
  have bound := a.toNat_lt
  have bound' := b.toNat_lt
  have bound'' := c.toNat_lt
  rw [readFour, value?_letter _ (by omega), value?_letter _ (by omega),
    value?_letter _ (by omega), value?_letter _ (by omega)]
  change some [UInt8.ofNat (a.toNat / 4 * 4 + (a.toNat % 4 * 16 + b.toNat / 16) / 16),
    UInt8.ofNat ((a.toNat % 4 * 16 + b.toNat / 16) % 16 * 16 +
      (b.toNat % 16 * 4 + c.toNat / 64) / 4),
    UInt8.ofNat ((b.toNat % 16 * 4 + c.toNat / 64) % 4 * 64 + c.toNat % 64)] = _
  have first : a.toNat / 4 * 4 + (a.toNat % 4 * 16 + b.toNat / 16) / 16 = a.toNat := by omega
  have second : (a.toNat % 4 * 16 + b.toNat / 16) % 16 * 16 +
      (b.toNat % 16 * 4 + c.toNat / 64) / 4 = b.toNat := by omega
  have third : (b.toNat % 16 * 4 + c.toNat / 64) % 4 * 64 + c.toNat % 64 = c.toNat := by omega
  rw [first, second, third, UInt8.ofNat_toNat, UInt8.ofNat_toNat, UInt8.ofNat_toNat]

end

theorem padded_encode (octets : Octets) : Padded (encode octets) := by
  induction octets using encode.induct with
  | case1 => exact .nil
  | case2 a => exact .two (isLetter_letter _) (isLetter_letter _)
  | case3 a b => exact .three (isLetter_letter _) (isLetter_letter _) (isLetter_letter _)
  | case4 a b c rest ih =>
    exact .four (isLetter_letter _) (isLetter_letter _) (isLetter_letter _) (isLetter_letter _) ih

/-- The strict reading gives back what was encoded. -/
theorem decode?_encode (octets : Octets) : decode? (encode octets) = some octets := by
  induction octets using encode.induct with
  | case1 => rfl
  | case2 a => exact readTwo_letters a
  | case3 a b =>
    rw [encode, decode?, if_pos ⟨rfl, rfl⟩, if_neg (letter_ne_pad _)]
    exact readThree_letters a b
  | case4 a b c rest ih =>
    -- The last letter is no padding, wherever the group stands.
    rw [encode, decode?, if_neg fun padding => letter_ne_pad _ padding.1, readFour_letters, ih]
    rfl

theorem encode_injective (first second : Octets) (same : encode first = encode second) :
    first = second := by
  have read := congrArg decode? same
  rw [decode?_encode, decode?_encode] at read
  exact Option.some.inj read

theorem Padded.visible {text : Text} (padded : Padded text) :
    ∀ point ∈ text, 0x21 ≤ point.val ∧ point.val ≤ 0x7E := by
  have letters {point : CodePoint} (isLetter : IsLetter point) :
      0x21 ≤ point.val ∧ point.val ≤ 0x7E := by
    have plus : ('+').toNat = 0x2B := rfl
    have slash : ('/').toNat = 0x2F := rfl
    simp only [IsLetter, CodePoint.isLetter, CodePoint.isDigit, Bool.or_eq_true,
      CodePoint.within_iff, CodePoint.is, beq_iff_eq, plus, slash] at isLetter
    omega
  have padding : 0x21 ≤ pad.val ∧ pad.val ≤ 0x7E := by decide
  induction padded with
  | nil => exact List.forall_mem_nil _
  | two first second =>
    simp only [List.forall_mem_cons]
    exact ⟨letters first, letters second, padding, padding, List.forall_mem_nil _⟩
  | three first second third =>
    simp only [List.forall_mem_cons]
    exact ⟨letters first, letters second, letters third, padding, List.forall_mem_nil _⟩
  | four first second third fourth _ ih =>
    simp only [List.forall_mem_cons]
    exact ⟨letters first, letters second, letters third, letters fourth, ih⟩

end QueryWire.Base64
