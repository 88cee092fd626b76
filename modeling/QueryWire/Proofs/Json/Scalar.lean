import QueryWire.Proofs.Json.Lexeme
import QueryWire.Proofs.Number.Spelling

/-!
The tokens of texts, words and numbers as they are written. What follows a value in JSON text is
nothing, a comma or a closing bracket, and none of these can be taken for a part of a number.
-/

namespace QueryWire.Json

/-- What may follow a value: a comma, a closing bracket or the end. -/
def Ends (rest : Text) : Prop :=
  ∀ point ∈ rest.head?, point = .ofChar ',' ∨ point = .ofChar ']' ∨ point = .ofNat 0x7D

theorem ends_nil : Ends [] := fun _ absent => nomatch absent

theorem ends_comma (rest : Text) : Ends (.ofChar ',' :: rest) := by
  intro point first
  cases first
  exact .inl rfl

theorem ends_closeArray (rest : Text) : Ends (.ofChar ']' :: rest) := by
  intro point first
  cases first
  exact .inr (.inl rfl)

theorem ends_closeObject (rest : Text) : Ends (.ofNat 0x7D :: rest) := by
  intro point first
  cases first
  exact .inr (.inr rfl)

theorem Ends.not_of_head {rest : Text} (ends : Ends rest) (test : CodePoint → Bool)
    (comma : test (.ofChar ',') = false) (array : test (.ofChar ']') = false)
    (object : test (.ofNat 0x7D) = false) : ∀ point ∈ rest.head?, test point = false := by
  intro point first
  rcases ends point first with rfl | rfl | rfl
  · exact comma
  · exact array
  · exact object

def NoDigit (rest : Text) : Prop := ∀ point ∈ rest.head?, point.isDigit = false

theorem Ends.noDigit {rest : Text} (ends : Ends rest) : NoDigit rest :=
  ends.not_of_head (·.isDigit) (by decide) (by decide) (by decide)

theorem takeWhile_digits (digits rest : Text) (all : digits.Digits) (next : NoDigit rest) :
    (digits ++ rest).takeWhile (·.isDigit) = digits ∧
      (digits ++ rest).dropWhile (·.isDigit) = rest := by
  rw [List.takeWhile_append_of_pos all, List.dropWhile_append_of_pos all]
  cases rest with
  | nil => exact ⟨List.append_nil _, rfl⟩
  | cons point rest =>
    have noDigit : point.isDigit = false := next point rfl
    simp only [List.takeWhile_cons, List.dropWhile_cons, noDigit, Bool.false_eq_true, ↓reduceIte,
      List.append_nil, and_self]

theorem scanWhole_append (whole rest : Text) (next : NoDigit rest) (all : whole.Digits)
    (leads : ∃ first digits, whole = first :: digits ∧ (first.is '0' = true → digits = [])) :
    scanWhole (whole ++ rest) = some (whole, rest) := by
  obtain ⟨first, digits, rfl, leading⟩ := leads
  by_cases zero : first.is '0' = true
  · rw [leading zero]
    simp only [List.cons_append, List.nil_append, scanWhole, zero, ↓reduceIte]
  · have later := takeWhile_digits digits rest (fun point member => all point (.tail _ member)) next
    simp only [List.cons_append, scanWhole, zero, all first (.head _), later, ↓reduceIte,
      Bool.false_eq_true]

theorem scanWhole_ofNat (n : Nat) (rest : Text) (ends : Ends rest) :
    scanWhole (Numeral.ofNat n ++ rest) = some (Numeral.ofNat n, rest) := by
  obtain ⟨first, digits, shown, leading⟩ := Numeral.ofNat_leads n
  exact scanWhole_append _ rest ends.noDigit (Numeral.digits_ofNat n)
    ⟨first, digits, shown, fun zero => (leading zero).2⟩

theorem scanFraction_none (rest : Text) (next : ∀ point ∈ rest.head?, point.is '.' = false) :
    scanFraction rest = none := by
  unfold scanFraction
  split
  next point first later =>
    have noPoint := next point rfl
    simp only [noPoint, Bool.false_and, Bool.false_eq_true, ↓reduceIte]
  next => rfl

theorem scanFraction_of_ends (rest : Text) (ends : Ends rest) : scanFraction rest = none :=
  scanFraction_none rest (ends.not_of_head (·.is '.') (by decide) (by decide) (by decide))

theorem scanExponent_of_ends (rest : Text) (ends : Ends rest) : scanExponent rest = none := by
  unfold scanExponent
  split
  next mark later =>
    have noMark := ends.not_of_head (fun point => point.is 'e' || point.is 'E') (by decide)
      (by decide) (by decide) mark rfl
    simp only [noMark, Bool.false_and, Bool.false_eq_true, ↓reduceIte]
  next => rfl

theorem scanNumber_ofNat (negative : Bool) (n : Nat) (rest : Text) (ends : Ends rest)
    (short : (Numeral.ofNat n).length ≤ Numeral.digitLimit) :
    scanNumber negative (Numeral.ofNat n ++ rest) =
      .ok (.scalar (.int (if negative then -(n : Int) else n)), rest) := by
  have fits : ¬(Numeral.ofNat n).length > Numeral.digitLimit := by omega
  simp only [scanNumber, scanWhole_ofNat n rest ends, scanFraction_of_ends rest ends,
    scanExponent_of_ends rest ends, Option.elim_none, Option.isNone_none, Bool.and_self,
    ↓reduceIte, fits, Numeral.value_ofNat]

theorem after?_of_ne (word : String) (first point : CodePoint) (letters rest : Text)
    (spelled : Text.ofString word = first :: letters) (other : point ≠ first) :
    after? word (point :: rest) = none := by
  have differs : (first == point) = false := by simpa using Ne.symm other
  simp only [after?, spelled, List.isPrefixOf, differs, Bool.false_and, Bool.false_eq_true,
    ↓reduceIte]

theorem scanWord_digit (point : CodePoint) (rest : Text) (digit : point.isDigit = true) :
    scanWord (point :: rest) = scanNumber false (point :: rest) := by
  have other (letter : Char) (noDigit : (CodePoint.ofChar letter).isDigit = false) :
      point ≠ .ofChar letter := by
    rintro rfl
    rw [digit] at noDigit
    cases noDigit
  have noMinus : point.is '-' = false := by
    rw [← Bool.not_eq_true, CodePoint.is_iff]
    exact other '-' (by decide)
  have missing (word : String) (first : Char) (letters : Text)
      (spelled : Text.ofString word = .ofChar first :: letters)
      (noDigit : (CodePoint.ofChar first).isDigit = false) : after? word (point :: rest) = none :=
    after?_of_ne word _ point letters rest spelled (other first noDigit)
  simp only [scanWord, List.findSome?, missing "null" 'n' _ rfl (by decide),
    missing "true" 't' _ rfl (by decide), missing "false" 'f' _ rfl (by decide),
    missing "NaN" 'N' _ rfl (by decide), missing "Infinity" 'I' _ rfl (by decide),
    missing "-Infinity" '-' _ rfl (by decide), Option.map_none, noMinus, Bool.false_eq_true,
    ↓reduceIte]

theorem scanWord_minus (point : CodePoint) (rest : Text) (digit : point.isDigit = true) :
    scanWord (.ofChar '-' :: point :: rest) = scanNumber true (point :: rest) := by
  have other : (CodePoint.ofChar 'I' == point) = false := by
    rw [beq_eq_false_iff_ne]
    rintro rfl
    exact absurd digit (by decide)
  have missing (word : String) (first : Char) (letters : Text)
      (spelled : Text.ofString word = .ofChar first :: letters)
      (differs : CodePoint.ofChar '-' ≠ .ofChar first) :
      after? word (.ofChar '-' :: point :: rest) = none :=
    after?_of_ne word _ _ letters _ spelled differs
  have infinity : after? "-Infinity" (.ofChar '-' :: point :: rest) = none := by
    have spelled : Text.ofString "-Infinity" =
        .ofChar '-' :: .ofChar 'I' :: Text.ofString "nfinity" := rfl
    simp only [after?, spelled, List.isPrefixOf, other, Bool.false_and, Bool.and_false,
      Bool.false_eq_true, ↓reduceIte]
  have minus : (CodePoint.ofChar '-').is '-' = true := by decide
  simp only [scanWord, List.findSome?, missing "null" 'n' _ rfl (by decide),
    missing "true" 't' _ rfl (by decide), missing "false" 'f' _ rfl (by decide),
    missing "NaN" 'N' _ rfl (by decide), missing "Infinity" 'I' _ rfl (by decide), infinity,
    Option.map_none, minus, ↓reduceIte]

theorem scanToken_digit (point : CodePoint) (rest : Text) (digit : point.isDigit = true) :
    scanToken point rest = scanWord (point :: rest) := by
  have range := (CodePoint.within_iff _ _ _).mp digit
  have other (c : Char) (outside : c.toNat < 0x30 ∨ 0x39 < c.toNat) : point.is c = false := by
    rw [CodePoint.is, beq_eq_false_iff_ne]
    omega
  have noOpen : ¬point.val = 0x7B := by omega
  have noClose : ¬point.val = 0x7D := by omega
  simp only [scanToken, other '[' (by decide), other ']' (by decide), other ',' (by decide),
    other ':' (by decide), other '"' (by decide), noOpen, noClose, Bool.false_eq_true, ↓reduceIte]

theorem tokens_null (rest : Text) :
    tokens (("null" : Text) ++ rest) = .ok (.scalar .null) :: tokens rest :=
  tokens_of_scan _ _ _ _ rfl rfl

theorem tokens_bool (value : Bool) (rest : Text) :
    tokens ((if value then "true" else "false" : Text) ++ rest) =
      .ok (.scalar (.bool value)) :: tokens rest := by
  cases value
  · exact tokens_of_scan _ _ _ _ rfl rfl
  · exact tokens_of_scan _ _ _ _ rfl rfl

theorem isBlank_of_isDigit (point : CodePoint) (digit : point.isDigit = true) :
    isBlank point = false := by
  have range := (CodePoint.within_iff _ _ _).mp digit
  have other (c : Char) (below : c.toNat < 0x30) : point.is c = false := by
    rw [CodePoint.is, beq_eq_false_iff_ne]
    omega
  simp only [isBlank, other ' ' (by decide), other '\t' (by decide), other '\n' (by decide),
    other '\r' (by decide), Bool.or_self]

theorem tokens_int (n : Int) (rest : Text) (ends : Ends rest) (fits : Numeral.fits n = true) :
    tokens (Numeral.ofInt n ++ rest) = .ok (.scalar (.int n)) :: tokens rest := by
  have short := (Numeral.fits_iff n).mp fits
  obtain ⟨first, digits, shown⟩ : ∃ first digits, Numeral.ofNat n.natAbs = first :: digits :=
    List.exists_cons_of_ne_nil fun empty => Nat.toDigits_ne_nil (List.map_eq_nil_iff.mp empty)
  have digit : first.isDigit = true :=
    Numeral.isDigit_of_mem_ofNat n.natAbs first (by rw [shown]; exact .head _)
  by_cases negative : n < 0
  · have value : -(n.natAbs : Int) = n := by omega
    have number := scanNumber_ofNat true n.natAbs rest ends short
    rw [shown, List.cons_append, ← scanWord_minus _ _ digit] at number
    simp only [↓reduceIte, value] at number
    rw [Numeral.ofInt, if_pos negative, shown]
    exact tokens_of_scan _ _ _ _ rfl number
  · have value : (n.natAbs : Int) = n := by omega
    have number := scanNumber_ofNat false n.natAbs rest ends short
    rw [shown, List.cons_append, ← scanWord_digit _ _ digit, ← scanToken_digit _ _ digit] at number
    simp only [Bool.false_eq_true, ↓reduceIte, value] at number
    rw [Numeral.ofInt, if_neg negative, shown]
    exact tokens_of_scan _ _ _ _ (isBlank_of_isDigit first digit) number

theorem tokens_text (text rest : Text) :
    tokens (renderText text ++ rest) = .ok (.text text.joined) :: tokens rest := by
  have scanned : scanToken (.ofChar '"') (text.flatMap escapePoint ++ .ofChar '"' :: rest) =
      .ok (.text text.joined, rest) := by
    unfold scanToken
    rw [scanText_renderText text rest]
    rfl
  have shape : renderText text ++ rest =
      .ofChar '"' :: (text.flatMap escapePoint ++ .ofChar '"' :: rest) := by
    simp [renderText]
  rw [shape]
  exact tokens_of_scan _ _ _ _ rfl scanned

section Spelled

open Spelling

theorem scanFraction_spelled (fraction rest : Text) (all : fraction.Digits) (next : NoDigit rest)
    (apart : ∀ point ∈ rest.head?, point.is '.' = false) :
    ((scanFraction (fractionText fraction ++ rest)).elim (none, fractionText fraction ++ rest)
      fun (found, after) => (some found, after)) = (fraction? fraction, rest) := by
  cases fraction with
  | nil =>
    change (scanFraction rest).elim (none, rest) _ = (none, rest)
    rw [scanFraction_none rest apart]
    rfl
  | cons first fraction =>
    have later :=
      takeWhile_digits fraction rest (fun point member => all point (.tail _ member)) next
    have mark : (CodePoint.ofChar '.').is '.' = true := by decide
    have scanned : scanFraction (.ofChar '.' :: first :: fraction ++ rest) =
        some (first :: fraction, rest) := by
      simp only [List.cons_append, scanFraction, mark, all first (.head _), Bool.and_self, later,
        ↓reduceIte]
    change (scanFraction (.ofChar '.' :: first :: fraction ++ rest)).elim _ _ = _
    rw [scanned]
    rfl

theorem scanExponent_spelled (exponent : Option (Bool × Text)) (rest : Text) (ends : Ends rest)
    (spelled : ∀ part ∈ exponent, part.2 ≠ [] ∧ part.2.Digits) :
    ((scanExponent (exponentText exponent ++ rest)).elim (none, exponentText exponent ++ rest)
      fun (found, after) => (some found, after)) = (power exponent, rest) := by
  cases exponent with
  | none =>
    change (scanExponent rest).elim (none, rest) _ = (none, rest)
    rw [scanExponent_of_ends rest ends]
    rfl
  | some part =>
    obtain ⟨negative, digits⟩ := part
    obtain ⟨full, all⟩ := spelled _ rfl
    have first : (digits ++ rest).head?.any (·.isDigit) = true := by
      cases digits with
      | nil => exact (full rfl).elim
      | cons first digits => exact all first (.head _)
    obtain ⟨taken, left⟩ := takeWhile_digits digits rest all ends.noDigit
    have mark : (CodePoint.ofChar 'e').is 'e' = true := by decide
    have signed : Numeral.sign ((if negative then .ofChar '-' else .ofChar '+') ::
        (digits ++ rest)) = (negative, digits ++ rest) := by
      cases negative <;> rfl
    have scanned : scanExponent (exponentText (some (negative, digits)) ++ rest) = some
        (if negative then -(Numeral.value digits : Int) else Numeral.value digits, rest) := by
      simp only [exponentText, List.cons_append, scanExponent, signed, mark, first, taken, left,
        Bool.true_or, Bool.and_self, ↓reduceIte]
    rw [scanned]
    rfl

variable (spelling : Spelling) (rest : Text) (ends : Ends rest)

include ends

theorem head_exponentText (point : CodePoint)
    (first : point ∈ (exponentText spelling.exponent ++ rest).head?) :
    point.isDigit = false ∧ point.is '.' = false := by
  cases found : spelling.exponent with
  | none =>
    rw [found] at first
    have noPoint := ends.not_of_head (·.is '.') (by decide) (by decide) (by decide)
    exact ⟨ends.noDigit point first, noPoint point first⟩
  | some part =>
    rw [found] at first
    cases first
    decide

theorem noDigit_fractionText :
    NoDigit (fractionText spelling.fraction ++ (exponentText spelling.exponent ++ rest)) := by
  intro point first
  rw [fractionText] at first
  split at first
  · exact (head_exponentText spelling rest ends point first).1
  · cases first
    decide

/-- A spelling is scanned as the number that it spells. -/
theorem scanNumber_spelled (negative : Bool) :
    scanNumber negative (spelling.text ++ rest) =
      .ok (.scalar (.float (spelling.value negative)), rest) := by
  have shape : spelling.text ++ rest = spelling.whole ++ (fractionText spelling.fraction ++
      (exponentText spelling.exponent ++ rest)) := by
    simp only [Spelling.text, List.append_assoc]
  have whole := scanWhole_append spelling.whole _ (noDigit_fractionText spelling rest ends)
    spelling.whole_digits spelling.leads
  have behind := head_exponentText spelling rest ends
  have fraction := scanFraction_spelled spelling.fraction _ spelling.fraction_digits
    (fun point first => (behind point first).1) fun point first => (behind point first).2
  have exponent := scanExponent_spelled spelling.exponent rest ends spelling.exponent_digits
  have broken : ((fraction? spelling.fraction).isNone && (power spelling.exponent).isNone) =
      false := by
    obtain full | scaled := spelling.broken
    · rw [fraction?, if_neg full]
      rfl
    · obtain ⟨part, present⟩ := Option.ne_none_iff_exists'.mp scaled
      rw [present]
      exact Bool.and_false _
  have digits : (fraction? spelling.fraction).getD [] = spelling.fraction := by
    rw [fraction?]
    split
    next empty => exact empty.symm
    next => rfl
  rw [shape]
  simp only [scanNumber, whole, fraction, exponent, broken, digits, Bool.false_eq_true, ↓reduceIte,
    value]

end Spelled

def rereadFloat (number : Binary64) : Binary64 :=
  match scanWord number.toText with
  | .ok (.scalar (.float found), _) => found
  | _ => number

theorem tokens_float (number : Binary64) (rest : Text) (ends : Ends rest)
    (finite : number.isFinite = true) :
    tokens (number.toText ++ rest) =
      .ok (.scalar (.float (rereadFloat number))) :: tokens rest := by
  obtain ⟨negative, spelling, shown⟩ := number.spelled_toText finite
  obtain ⟨first, digits, leads, -⟩ := spelling.leads
  obtain ⟨more, begins⟩ : ∃ more, spelling.text = first :: more :=
    ⟨_, by rw [Spelling.text, leads, List.cons_append]⟩
  have digit : first.isDigit = true := spelling.whole_digits first (by rw [leads]; exact .head _)
  have scans (rest : Text) (ends : Ends rest) : scanWord (number.toText ++ rest) =
      .ok (.scalar (.float (spelling.value negative)), rest) := by
    have number := scanNumber_spelled spelling rest ends negative
    rw [begins] at number
    rw [shown, begins]
    cases negative with
    | true => exact (scanWord_minus first (more ++ rest) digit).trans number
    | false => exact (scanWord_digit first (more ++ rest) digit).trans number
  have found : rereadFloat number = spelling.value negative := by
    have whole := scans [] ends_nil
    rw [List.append_nil] at whole
    rw [rereadFloat, whole]
  have number := scans rest ends
  rw [shown, begins] at number ⊢
  rw [found]
  cases negative with
  | true => exact tokens_of_scan _ _ _ _ rfl number
  | false =>
    rw [if_neg Bool.false_ne_true, List.cons_append] at number ⊢
    rw [← scanToken_digit _ _ digit] at number
    exact tokens_of_scan _ _ _ _ (isBlank_of_isDigit first digit) number

end QueryWire.Json
