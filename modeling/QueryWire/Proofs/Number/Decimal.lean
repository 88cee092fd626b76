import QueryWire.Number.Numeral

/-!
Decimal texts of natural numbers. They consist of digits, start with a zero only for zero itself,
spell the number they were written for, and are as long as the number has digits.
-/

namespace QueryWire

theorem CodePoint.within_iff (point : CodePoint) (low high : Nat) :
    point.within low high = true ↔ low ≤ point.val ∧ point.val ≤ high := by
  simp only [within, Bool.and_eq_true, decide_eq_true_eq]

namespace Numeral

theorem isDigit_ofChar (c : Char) (digit : c.isDigit = true) :
    (CodePoint.ofChar c).isDigit = true := by
  simp only [Char.isDigit, Bool.and_eq_true, decide_eq_true_eq, UInt32.le_iff_toNat_le] at digit
  exact (CodePoint.within_iff _ _ _).mpr digit

theorem isDigit_of_mem_ofNat (n : Nat) : ∀ point ∈ ofNat n, point.isDigit = true := by
  intro point member
  obtain ⟨c, present, rfl⟩ := List.mem_map.mp member
  exact isDigit_ofChar c (Nat.isDigit_of_mem_toDigits (by decide) (by decide) present)

theorem ofNat_step (n : Nat) (several : 10 ≤ n) :
    ofNat n = ofNat (n / 10) ++ [.ofChar (n % 10).digitChar] := by
  simp only [ofNat, Nat.toDigits_of_base_le (by decide : 1 < 10) several, List.map_append,
    List.map_cons, List.map_nil]

theorem ofNat_leading (n : Nat) (positive : 0 < n) :
    ∃ first rest, ofNat n = first :: rest ∧ first.is '0' = false := by
  induction n using Nat.strongRecOn with
  | ind n ih =>
    by_cases several : 10 ≤ n
    · obtain ⟨first, rest, shown, leading⟩ := ih (n / 10) (by omega) (by omega)
      exact ⟨first, rest ++ [.ofChar (n % 10).digitChar], by rw [ofNat_step n several, shown]; rfl,
        leading⟩
    · have single : ofNat n = [.ofChar n.digitChar] := by
        simp only [ofNat, Nat.toDigits_of_lt_base (by omega : n < 10), List.map_cons, List.map_nil]
      refine ⟨.ofChar n.digitChar, [], single, ?_⟩
      have code := Nat.toNat_digitChar_of_lt_ten (by omega : n < 10)
      simp only [CodePoint.is, CodePoint.ofChar, code, beq_eq_false_iff_ne]
      change 48 + n ≠ 48
      omega

theorem value_map_ofChar (digits : List Char) :
    value (digits.map CodePoint.ofChar) = Nat.ofDigitChars 10 digits 0 := by
  simp only [value, Nat.ofDigitChars, List.foldl_map, CodePoint.ofChar]
  congr 1
  funext n digit
  rw [Nat.mul_comm]
  rfl

theorem value_ofNat (n : Nat) : value (ofNat n) = n := by
  rw [ofNat, value_map_ofChar, Nat.ofDigitChars_ten_toDigits]

theorem length_ofNat_le (n : Nat) : (ofNat n).length ≤ digitLimit ↔ n < 10 ^ digitLimit := by
  rw [ofNat, List.length_map]
  exact Nat.length_toDigits_le_iff (by decide) (by decide)

theorem fits_iff (n : Int) : fits n = true ↔ (ofNat n.natAbs).length ≤ digitLimit := by
  rw [length_ofNat_le, fits, decide_eq_true_eq]

theorem fits_of_small (n : Int) (small : n.natAbs < 10 ^ (3 : Nat)) : fits n = true :=
  decide_eq_true (Nat.lt_of_lt_of_le small (Nat.pow_le_pow_right (by decide) (by decide)))

end Numeral

end QueryWire
