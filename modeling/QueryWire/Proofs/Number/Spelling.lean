import QueryWire.Number.Shortest
import QueryWire.Proofs.Number.Decimal

/-!
How floating point numbers are spelled. The text of a finite number is a sign and a decimal with a
fraction or an exponent, whose whole part begins with a zero only if it is a zero. For that the
shortest decimal must not be zero where the point would be moved to the right of it.
-/

namespace QueryWire

def Text.Digits (text : Text) : Prop := ∀ point ∈ text, point.isDigit = true

namespace Text

theorem digits_zero : Digits [.ofChar '0'] := by
  unfold Digits
  decide

theorem Digits.append {first second : Text} (front : first.Digits) (back : second.Digits) :
    (first ++ second).Digits :=
  List.forall_mem_append.mpr ⟨front, back⟩

theorem Digits.of_subset {part whole : Text} (digits : whole.Digits) (included : part ⊆ whole) :
    part.Digits :=
  fun point member => digits point (included member)

end Text

/-- A decimal that is no integer: digits before the point, which is left out with an empty fraction,
and perhaps an exponent with its sign. -/
structure Spelling where
  whole : Text
  fraction : Text
  exponent : Option (Bool × Text)
  leads : ∃ first rest, whole = first :: rest ∧ (first.is '0' = true → rest = [])
  whole_digits : whole.Digits
  fraction_digits : fraction.Digits
  exponent_digits : ∀ part ∈ exponent, part.2 ≠ [] ∧ part.2.Digits
  broken : fraction ≠ [] ∨ exponent ≠ none

namespace Spelling

def fractionText (fraction : Text) : Text :=
  if fraction = [] then [] else .ofChar '.' :: fraction

def exponentText : Option (Bool × Text) → Text
  | none => []
  | some (negative, digits) =>
    .ofChar 'e' :: (if negative then .ofChar '-' else .ofChar '+') :: digits

def text (spelling : Spelling) : Text :=
  spelling.whole ++ (fractionText spelling.fraction ++ exponentText spelling.exponent)

def fraction? (fraction : Text) : Option Text := if fraction = [] then none else some fraction

def power (exponent : Option (Bool × Text)) : Option Int :=
  exponent.map fun (negative, digits) =>
    if negative then -(Numeral.value digits : Int) else Numeral.value digits

def value (spelling : Spelling) (negative : Bool) : Binary64 :=
  let digits := (spelling.whole ++ spelling.fraction).dropWhile (·.is '0')
  .ofDecimal negative (Numeral.value digits) digits.length
    ((power spelling.exponent).getD 0 - spelling.fraction.length)

def positional (whole fraction : Text)
    (leads : ∃ first rest, whole = first :: rest ∧ (first.is '0' = true → rest = []))
    (whole_digits : whole.Digits) (fraction_digits : fraction.Digits) (broken : fraction ≠ []) :
    Spelling :=
  ⟨whole, fraction, none, leads, whole_digits, fraction_digits, nofun, .inl broken⟩

theorem text_positional (whole fraction : Text)
    (leads : ∃ first rest, whole = first :: rest ∧ (first.is '0' = true → rest = []))
    (whole_digits : whole.Digits) (fraction_digits : fraction.Digits) (broken : fraction ≠ []) :
    (positional whole fraction leads whole_digits fraction_digits broken).text =
      whole ++ .ofChar '.' :: fraction := by
  change whole ++ (fractionText fraction ++ []) = _
  rw [fractionText, if_neg broken, List.append_nil]

end Spelling

namespace Numeral

theorem digits_ofNat (n : Nat) : (ofNat n).Digits := isDigit_of_mem_ofNat n

theorem ofNat_leads (n : Nat) :
    ∃ first rest, ofNat n = first :: rest ∧ (first.is '0' = true → n = 0 ∧ rest = []) := by
  rcases Nat.eq_zero_or_pos n with rfl | positive
  · exact ⟨.ofChar '0', [], rfl, fun _ => ⟨rfl, rfl⟩⟩
  · obtain ⟨first, rest, shown, leading⟩ := ofNat_leading n positive
    refine ⟨first, rest, shown, fun zero => ?_⟩
    rw [leading] at zero
    cases zero

theorem ofNat_ne_nil (n : Nat) : ofNat n ≠ [] := by
  obtain ⟨first, rest, shown, -⟩ := ofNat_leads n
  rw [shown]
  exact List.cons_ne_nil first rest

end Numeral

namespace Binary64

theorem digits_zeros (count : Nat) : (zeros count).Digits := by
  intro point member
  rw [List.eq_of_mem_replicate member]
  decide

section Layout

variable (digits : Nat) (power : Int)

theorem spelled_below (count : Nat) :
    ∃ spelling : Spelling, spelling.text =
      ("0." : Text) ++ zeros count ++ Numeral.ofNat digits := by
  have fraction : (zeros count ++ Numeral.ofNat digits).Digits :=
    (digits_zeros count).append (Numeral.digits_ofNat digits)
  have broken : zeros count ++ Numeral.ofNat digits ≠ [] :=
    List.append_ne_nil_of_right_ne_nil _ (Numeral.ofNat_ne_nil digits)
  refine ⟨.positional [.ofChar '0'] _ ⟨_, _, rfl, fun _ => rfl⟩ Text.digits_zero fraction broken,
    ?_⟩
  rw [Spelling.text_positional, List.append_assoc]
  rfl

theorem spelled_above (count : Nat) (fine : digits = 0 → count = 0) :
    ∃ spelling : Spelling, spelling.text =
      Numeral.ofNat digits ++ zeros count ++ (".0" : Text) := by
  obtain ⟨first, rest, shown, leading⟩ := Numeral.ofNat_leads digits
  have leads : ∃ first rest, Numeral.ofNat digits ++ zeros count = first :: rest ∧
      (first.is '0' = true → rest = []) := by
    refine ⟨first, rest ++ zeros count, by rw [shown, List.cons_append], fun zero => ?_⟩
    obtain ⟨none, empty⟩ := leading zero
    rw [empty, fine none]
    rfl
  have whole : (Numeral.ofNat digits ++ zeros count).Digits :=
    (Numeral.digits_ofNat digits).append (digits_zeros count)
  refine ⟨.positional _ [.ofChar '0'] leads whole Text.digits_zero (List.cons_ne_nil _ _), ?_⟩
  rw [Spelling.text_positional]
  rfl

theorem spelled_among (count : Nat) (some : 0 < count)
    (few : count < (Numeral.ofNat digits).length) :
    ∃ spelling : Spelling, spelling.text =
      (Numeral.ofNat digits).take count ++ ("." : Text) ++ (Numeral.ofNat digits).drop count := by
  obtain ⟨first, rest, shown, leading⟩ := Numeral.ofNat_leads digits
  have leads : ∃ first rest, (Numeral.ofNat digits).take count = first :: rest ∧
      (first.is '0' = true → rest = []) := by
    obtain ⟨count, rfl⟩ := Nat.exists_eq_succ_of_ne_zero (Nat.ne_of_gt some)
    refine ⟨first, rest.take count, by rw [shown, List.take_succ_cons], fun zero => ?_⟩
    rw [(leading zero).2, List.take_nil]
  have all := Numeral.digits_ofNat digits
  have broken : (Numeral.ofNat digits).drop count ≠ [] := by
    rw [ne_eq, List.drop_eq_nil_iff]
    omega
  refine ⟨.positional _ _ leads (all.of_subset (List.take_subset _ _))
    (all.of_subset (List.drop_subset _ _)) broken, ?_⟩
  rw [Spelling.text_positional, List.append_assoc]
  rfl

theorem spelled_scaled (negative : Bool) (exponent : Text) (full : exponent ≠ [])
    (spelled : exponent.Digits) :
    ∃ spelling : Spelling, spelling.text = (Numeral.ofNat digits).take 1 ++
      (if (Numeral.ofNat digits).length ≤ 1 then []
        else .ofChar '.' :: (Numeral.ofNat digits).drop 1) ++ ("e" : Text) ++
      (if negative then "-" else "+" : Text) ++ exponent := by
  obtain ⟨first, rest, shown, leading⟩ := Numeral.ofNat_leads digits
  have all := Numeral.digits_ofNat digits
  rw [shown] at all ⊢
  refine ⟨{
    whole := [first]
    fraction := rest
    exponent := some (negative, exponent)
    leads := ⟨first, [], rfl, fun _ => rfl⟩
    whole_digits := List.forall_mem_singleton.mpr (all first (.head _))
    fraction_digits := all.of_subset (List.subset_cons_self first rest)
    exponent_digits := by
      rintro _ ⟨⟩
      exact ⟨full, spelled⟩
    broken := .inr nofun }, ?_⟩
  cases rest <;> cases negative <;> simp [Spelling.text, Spelling.fractionText,
    Spelling.exponentText, Text.ofString]

/-- What is laid out is spelled properly, unless it is a zero with the point far to its right. -/
theorem spelled_layout (fine : digits = 0 → power ≤ 0 ∨ 15 < power) :
    ∃ spelling : Spelling, layout digits power = spelling.text := by
  unfold layout
  dsimp only
  split
  next near =>
    split
    next below =>
      obtain ⟨spelling, same⟩ := spelled_below digits ((Numeral.ofNat digits).length + power).natAbs
      exact ⟨spelling, same.symm⟩
    next above =>
      split
      next long =>
        have none (zero : digits = 0) :
            ((Numeral.ofNat digits).length + power).natAbs - (Numeral.ofNat digits).length = 0 := by
          have single : (Numeral.ofNat digits).length = 1 := by rw [zero]; rfl
          have := fine zero
          omega
        obtain ⟨spelling, same⟩ := spelled_above digits _ none
        exact ⟨spelling, same.symm⟩
      next short =>
        obtain ⟨spelling, same⟩ := spelled_among digits _ (by omega) (Nat.not_le.mp short)
        exact ⟨spelling, same.symm⟩
  next far =>
    have full :
        zeros (2 - (Numeral.ofNat ((Numeral.ofNat digits).length + power - 1).natAbs).length) ++
          Numeral.ofNat ((Numeral.ofNat digits).length + power - 1).natAbs ≠ [] :=
      List.append_ne_nil_of_right_ne_nil _ (Numeral.ofNat_ne_nil _)
    obtain ⟨spelling, same⟩ := spelled_scaled digits
      (((Numeral.ofNat digits).length + power - 1) < 0) _ full
      ((digits_zeros _).append (Numeral.digits_ofNat _))
    refine ⟨spelling, ?_⟩
    rw [same]
    simp only [decide_eq_true_eq]

end Layout

section Shortest

variable (m : Nat) (e : Int) (positive : 0 < m)

include positive

theorem readsBack_zero (power : Int) : readsBack m e 0 power = false := by
  have low : 0 < (if m = 2 ^ (52 : Nat) ∧ e > -1074 then 4 * m - 1 else 4 * m - 2) := by
    split <;> omega
  have unit (exponent : Int) : 0 < (if exponent < 0 then 1 else 2 ^ exponent.natAbs) := by
    split
    · exact Nat.one_pos
    · exact Nat.two_pow_pos _
  have scale : 0 < (if power < 0 then 10 ^ power.natAbs else 1) := by
    split
    · exact Nat.pow_pos (by decide)
    · exact Nat.one_pos
  have below (b : Nat) (some : 0 < b) (exponent : Int) : decimalLt 0 power b exponent = true := by
    simp only [decimalLt, Nat.zero_mul, decide_eq_true_eq]
    exact Nat.mul_pos (Nat.mul_pos some (unit exponent)) scale
  have atMost (b : Nat) (exponent : Int) : decimalLe 0 power b exponent = true := by
    simp only [decimalLe, Nat.zero_mul, Nat.zero_le, decide_true]
  unfold readsBack
  dsimp only
  split
  · rw [below _ low, Bool.not_true, Bool.false_and]
  · rw [atMost, Bool.not_true, Bool.false_and]

theorem hit?_ne_zero (power : Int) (digits : Nat) (hit : hit? m e power = some digits) :
    digits ≠ 0 := by
  have nonzero (digits : Nat) (back : readsBack m e digits power = true) : digits ≠ 0 := by
    rintro rfl
    rw [readsBack_zero m e positive] at back
    cases back
  unfold hit? at hit
  dsimp only at hit
  split at hit
  next below above =>
    have := nonzero _ below
    split at hit
    · cases hit
      omega
    split at hit <;> cases hit <;> omega
  next below above =>
    cases hit
    exact nonzero _ below
  next below above =>
    cases hit
    omega
  next => cases hit

omit positive in
theorem magnitude_le :
    magnitude m e ≤ Int.fdiv (((m.log2 : Int) + e) * 30103) 100000 + 2 := by
  unfold magnitude
  dsimp only
  generalize Int.fdiv (((m.log2 : Int) + e) * 30103) 100000 = guess
  cases found : [guess - 1, guess, guess + 1, guess + 2].find? fun k => !decimalLe 1 k m e with
  | none => exact Int.le_refl _
  | some k =>
    have member := List.mem_of_find?_eq_some found
    simp only [List.mem_cons, List.not_mem_nil, or_false] at member
    rw [Option.getD_some]
    omega

theorem floorAt_pos (power : Int) (large : 50 ≤ (m.log2 : Int) + e) (least : 0 ≤ power)
    (most : power ≤ 15) : 0 < floorAt m e power := by
  have grid : 10 ^ power.natAbs ≤ 2 ^ (50 : Nat) := calc
    10 ^ power.natAbs ≤ 10 ^ (15 : Nat) := Nat.pow_le_pow_right (by decide) (by omega)
    _ ≤ 2 ^ (50 : Nat) := by decide
  have leading : 2 ^ m.log2 ≤ m := Nat.log2_self_le (Nat.ne_of_gt positive)
  have whole : ¬power < 0 := by omega
  simp only [floorAt, if_neg whole, Nat.mul_one]
  refine Nat.div_pos ?_ (Nat.mul_pos ?_ (Nat.pow_pos (by decide)))
  · by_cases small : e < 0
    · rw [if_pos small, if_pos small, Nat.mul_one]
      calc 2 ^ e.natAbs * 10 ^ power.natAbs
          ≤ 2 ^ e.natAbs * 2 ^ (50 : Nat) := Nat.mul_le_mul_left _ grid
        _ = 2 ^ (e.natAbs + 50) := (Nat.pow_add ..).symm
        _ ≤ 2 ^ m.log2 := Nat.pow_le_pow_right (by decide) (by omega)
        _ ≤ m := leading
    · rw [if_neg small, if_neg small, Nat.one_mul]
      calc 10 ^ power.natAbs
          ≤ 2 ^ (50 : Nat) := grid
        _ ≤ 2 ^ (m.log2 + e.natAbs) := Nat.pow_le_pow_right (by decide) (by omega)
        _ = 2 ^ m.log2 * 2 ^ e.natAbs := Nat.pow_add ..
        _ ≤ m * 2 ^ e.natAbs := Nat.mul_le_mul_right _ leading
  · split
    · exact Nat.two_pow_pos _
    · exact Nat.one_pos

theorem shortest_fine (zero : (shortest m e).1 = 0) :
    (shortest m e).2 ≤ 0 ∨ 15 < (shortest m e).2 := by
  unfold shortest at zero ⊢
  dsimp only at zero ⊢
  cases found : ((List.range 17).map fun (n : Nat) => magnitude m e - 1 - (n : Int)).findSome?
      fun power => (hit? m e power).map (·, power) with
  | some decimal =>
    rw [found, Option.getD_some] at zero
    obtain ⟨power, -, hit⟩ := List.exists_of_findSome?_eq_some found
    obtain ⟨digits, hit, same⟩ := Option.map_eq_some_iff.mp hit
    rw [← same] at zero
    exact (hit?_ne_zero m e positive power digits hit zero).elim
  | none =>
    rw [found, Option.getD_none] at zero
    rw [Option.getD_none]
    dsimp only at zero ⊢
    by_cases low : magnitude m e - 17 ≤ 0
    · exact .inl low
    by_cases high : 15 < magnitude m e - 17
    · exact .inr high
    -- Such a grid is used only for numbers of more than fifteen digits.
    have top := magnitude_le m e
    have scaled : Int.fdiv (((m.log2 : Int) + e) * 30103) 100000 =
        (((m.log2 : Int) + e) * 30103) / 100000 := Int.fdiv_eq_ediv_of_nonneg _ (by decide)
    have some := floorAt_pos m e positive (magnitude m e - 17) (by omega) (by omega) (by omega)
    omega

end Shortest

theorem stripZeros_fine (fuel digits : Nat) (power : Int)
    (fine : digits = 0 → power ≤ 0 ∨ 15 < power) :
    (stripZeros fuel digits power).1 = 0 →
      (stripZeros fuel digits power).2 ≤ 0 ∨ 15 < (stripZeros fuel digits power).2 := by
  induction fuel generalizing digits power with
  | zero => exact fine
  | succ fuel ih =>
    rw [stripZeros]
    split
    next stripped =>
      refine ih (digits / 10) (power + 1) fun zero => ?_
      omega
    next => exact fine

/-- The text of a finite number is a spelling, perhaps behind a minus sign. -/
theorem spelled_toText (number : Binary64) (finite : number.isFinite = true) :
    ∃ (negative : Bool) (spelling : Spelling), number.toText =
      if negative then .ofChar '-' :: spelling.text else spelling.text := by
  cases number with
  | finite negative significand exponent =>
    obtain ⟨spelling, same⟩ : ∃ spelling : Spelling,
        (Binary64.finite false significand exponent).toText = spelling.text := by
      by_cases zero : significand = 0
      · refine ⟨.positional [.ofChar '0'] [.ofChar '0'] ⟨_, _, rfl, fun _ => rfl⟩ Text.digits_zero
          Text.digits_zero (List.cons_ne_nil _ _), ?_⟩
        subst zero
        rfl
      · obtain ⟨spelling, same⟩ := spelled_layout _ _ (stripZeros_fine 17 _ _
          (shortest_fine significand exponent (Nat.pos_of_ne_zero zero)))
        refine ⟨spelling, ?_⟩
        simp only [toText, if_neg zero, Bool.false_eq_true, ↓reduceIte]
        exact same
    refine ⟨negative, spelling, ?_⟩
    rw [← same]
    cases negative <;> rfl
  | infinite negative => cases finite
  | nan identity => cases finite

end Binary64

end QueryWire
