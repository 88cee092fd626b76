import QueryWire.Proofs.Number.Decimal
import QueryWire.Text.Utf8

/-!
Which octets are well-formed, told by their ranges alone. The first octet of a character says how
many there are, and the second one is bounded so that no shorter form would do and nothing comes
out that is a surrogate or no code point at all. Such octets are exactly the encodings of texts
without surrogates.
-/

namespace QueryWire.Utf8

theorem isSurrogate_iff (point : CodePoint) :
    point.isSurrogate = true ↔ 0xD800 ≤ point.val ∧ point.val ≤ 0xDFFF :=
  CodePoint.within_iff point _ _

theorem toNat_ofNat_of_lt {n : Nat} (small : n < 256) : (UInt8.ofNat n).toNat = n :=
  Nat.mod_eq_of_lt small

theorem ofNat_of_toNat (octet : UInt8) {n : Nat} (same : octet.toNat = n) :
    UInt8.ofNat n = octet := by
  subst same
  exact UInt8.ofNat_toNat

def Continues (octet : UInt8) : Prop := 0x80 ≤ octet.toNat ∧ octet.toNat ≤ 0xBF

inductive Character : Octets → Prop
  | one {a : UInt8} (most : a.toNat < 0x80) : Character [a]
  /-- Below 0xC2 one octet would do. -/
  | two {a b : UInt8} (least : 0xC2 ≤ a.toNat) (most : a.toNat < 0xE0) (second : Continues b) :
      Character [a, b]
  /-- Two octets would do for less, and there are no surrogates. -/
  | three {a b c : UInt8} (least : 0xE0 ≤ a.toNat) (most : a.toNat < 0xF0) (second : Continues b)
      (third : Continues c) (shortest : a.toNat = 0xE0 → 0xA0 ≤ b.toNat)
      (scalar : a.toNat = 0xED → b.toNat ≤ 0x9F) : Character [a, b, c]
  /-- Three octets would do for less, and there is nothing above the last code point. -/
  | four {a b c d : UInt8} (least : 0xF0 ≤ a.toNat) (most : a.toNat ≤ 0xF4)
      (second : Continues b) (third : Continues c) (fourth : Continues d)
      (shortest : a.toNat = 0xF0 → 0x90 ≤ b.toNat) (bounded : a.toNat = 0xF4 → b.toNat ≤ 0x8F) :
      Character [a, b, c, d]

inductive WellFormed : Octets → Prop
  | nil : WellFormed []
  | cons {character rest : Octets} (first : Character character) (others : WellFormed rest) :
      WellFormed (character ++ rest)

section

variable (point : CodePoint)

theorem encodePoint_one (most : point.val < 0x80) : encodePoint point = [.ofNat point.val] :=
  if_pos most

theorem encodePoint_two (least : 0x80 ≤ point.val) (most : point.val < 0x800) :
    encodePoint point = [.ofNat (0xC0 + point.val / 64), .ofNat (0x80 + point.val % 64)] := by
  simp only [encodePoint, Nat.not_lt.mpr least, most, ↓reduceIte]

theorem encodePoint_three (least : 0x800 ≤ point.val) (most : point.val < 0x10000) :
    encodePoint point = [.ofNat (0xE0 + point.val / 4096), .ofNat (0x80 + point.val / 64 % 64),
      .ofNat (0x80 + point.val % 64)] := by
  have notOne : ¬point.val < 0x80 := by omega
  simp only [encodePoint, notOne, Nat.not_lt.mpr least, most, ↓reduceIte]

theorem encodePoint_four (least : 0x10000 ≤ point.val) :
    encodePoint point = [.ofNat (0xF0 + point.val / 262144),
      .ofNat (0x80 + point.val / 4096 % 64), .ofNat (0x80 + point.val / 64 % 64),
      .ofNat (0x80 + point.val % 64)] := by
  have notOne : ¬point.val < 0x80 := by omega
  have notTwo : ¬point.val < 0x800 := by omega
  simp only [encodePoint, notOne, notTwo, Nat.not_lt.mpr least, ↓reduceIte]

theorem encodePoint_ne_nil : encodePoint point ≠ [] := by
  unfold encodePoint
  simp only
  repeat' split
  all_goals exact List.cons_ne_nil _ _

theorem character_encodePoint (scalar : point.isSurrogate = false) :
    Character (encodePoint point) := by
  have bound := point.isLt
  have notSurrogate : ¬(0xD800 ≤ point.val ∧ point.val ≤ 0xDFFF) := by
    rw [← isSurrogate_iff, scalar]
    exact Bool.false_ne_true
  have octet {n : Nat} (small : n < 256) := toNat_ofNat_of_lt small
  have third := octet (n := 0x80 + point.val / 64 % 64) (by omega)
  have last := octet (n := 0x80 + point.val % 64) (by omega)
  by_cases one : point.val < 0x80
  · have first := octet (n := point.val) (by omega)
    rw [encodePoint_one point one]
    exact .one (by omega)
  by_cases two : point.val < 0x800
  · have first := octet (n := 0xC0 + point.val / 64) (by omega)
    rw [encodePoint_two point (by omega) two]
    exact .two (by omega) (by omega) ⟨by omega, by omega⟩
  by_cases three : point.val < 0x10000
  · have first := octet (n := 0xE0 + point.val / 4096) (by omega)
    rw [encodePoint_three point (by omega) three]
    exact .three (by omega) (by omega) ⟨by omega, by omega⟩ ⟨by omega, by omega⟩ (by omega)
      (by omega)
  · have first := octet (n := 0xF0 + point.val / 262144) (by omega)
    have second := octet (n := 0x80 + point.val / 4096 % 64) (by omega)
    rw [encodePoint_four point (by omega)]
    exact .four (by omega) (by omega) ⟨by omega, by omega⟩ ⟨by omega, by omega⟩
      ⟨by omega, by omega⟩ (by omega) (by omega)

end

theorem scalar_ofNat {n : Nat} (bound : n < 0x110000) (apart : n < 0xD800 ∨ 0xDFFF < n) :
    (CodePoint.ofNat n).val = n ∧ (CodePoint.ofNat n).isSurrogate = false := by
  have code : (CodePoint.ofNat n).val = n := by rw [CodePoint.ofNat, dif_pos bound]
  refine ⟨code, Bool.eq_false_iff.mpr fun surrogate => ?_⟩
  rw [isSurrogate_iff, code] at surrogate
  omega

theorem Character.exists_point {octets : Octets} (character : Character octets) :
    ∃ point : CodePoint, point.isSurrogate = false ∧ encodePoint point = octets := by
  cases character with
  | @one a most =>
    obtain ⟨code, scalar⟩ := scalar_ofNat (n := a.toNat) (by omega) (by omega)
    refine ⟨_, scalar, ?_⟩
    rw [encodePoint_one _ (by omega), code, UInt8.ofNat_toNat]
  | @two a b least most second =>
    obtain ⟨low, high⟩ := second
    obtain ⟨code, scalar⟩ := scalar_ofNat (n := (a.toNat - 0xC0) * 64 + (b.toNat - 0x80))
      (by omega) (by omega)
    refine ⟨_, scalar, ?_⟩
    rw [encodePoint_two _ (by omega) (by omega), code, ofNat_of_toNat a (by omega),
      ofNat_of_toNat b (by omega)]
  | @three a b c least most second third shortest apart =>
    obtain ⟨low, high⟩ := second
    obtain ⟨low', high'⟩ := third
    obtain ⟨code, scalar⟩ := scalar_ofNat
      (n := ((a.toNat - 0xE0) * 64 + (b.toNat - 0x80)) * 64 + (c.toNat - 0x80)) (by omega)
      (by omega)
    refine ⟨_, scalar, ?_⟩
    rw [encodePoint_three _ (by omega) (by omega), code, ofNat_of_toNat a (by omega),
      ofNat_of_toNat b (by omega), ofNat_of_toNat c (by omega)]
  | @four a b c d least most second third fourth shortest bounded =>
    obtain ⟨low, high⟩ := second
    obtain ⟨low', high'⟩ := third
    obtain ⟨low'', high''⟩ := fourth
    obtain ⟨code, scalar⟩ := scalar_ofNat
      (n := (((a.toNat - 0xF0) * 64 + (b.toNat - 0x80)) * 64 + (c.toNat - 0x80)) * 64 +
        (d.toNat - 0x80)) (by omega) (by omega)
    refine ⟨_, scalar, ?_⟩
    rw [encodePoint_four _ (by omega), code, ofNat_of_toNat a (by omega),
      ofNat_of_toNat b (by omega), ofNat_of_toNat c (by omega), ofNat_of_toNat d (by omega)]

/-- Well-formed octets are those of the texts without surrogates. -/
theorem wellFormed_iff (octets : Octets) :
    WellFormed octets ↔ ∃ text : Text, (∀ point ∈ text, point.isSurrogate = false) ∧
      octets = text.flatMap encodePoint := by
  constructor
  · intro wellFormed
    induction wellFormed with
    | nil => exact ⟨[], nofun, rfl⟩
    | cons first _ ih =>
      obtain ⟨point, scalar, rfl⟩ := first.exists_point
      obtain ⟨text, others, rfl⟩ := ih
      exact ⟨point :: text, List.forall_mem_cons.mpr ⟨scalar, others⟩, List.flatMap_cons.symm⟩
  · rintro ⟨text, scalar, rfl⟩
    induction text with
    | nil => exact .nil
    | cons point text ih =>
      rw [List.forall_mem_cons] at scalar
      rw [List.flatMap_cons]
      exact .cons (character_encodePoint point scalar.1) (ih scalar.2)

end QueryWire.Utf8
