import QueryWire.Json.Token
import QueryWire.Proofs.Json.Escape

/-!
Tokens one by one. A token takes at least one code point, so the tokens of a text do not depend on
how many steps are allowed for, and a text is its first token followed by the tokens behind it.
-/

namespace QueryWire.Json

theorem of_map_after {scanned : Option (Text × Text)} {join : Text × Text → Text × Text}
    {read after : Text} (found : join <$> scanned = some (read, after))
    (keeps : ∀ result, (join result).2 = result.2) : ∃ inner, scanned = some (inner, after) := by
  cases scanned with
  | none => cases found
  | some result =>
    have joined : join result = (read, after) := Option.some.inj found
    have behind : result.2 = after := by rw [← keeps, joined]
    exact ⟨result.1, by rw [← behind]⟩

theorem scanText_shorter (pending : Pending) (text read after : Text)
    (found : scanText pending text = some (read, after)) : after.length < text.length := by
  fun_induction scanText pending text generalizing read after with
  -- The text ends too early, or holds what no quoted text may hold.
  | case1 | case4 | case8 | case9 | case14 | case18 => cases found
  -- The closing mark.
  | case2 | case12 =>
    cases found
    exact Nat.lt_succ_self _
  -- Within an escape.
  | case3 | case6 | case10 | case13 | case16 =>
    rename_i ih
    exact Nat.lt_succ_of_lt (ih _ _ found)
  -- A code point is complete.
  | case5 | case7 | case11 | case15 | case17 =>
    rename_i ih
    obtain ⟨inner, scanned⟩ := of_map_after found (fun _ => rfl)
    exact Nat.lt_succ_of_lt (ih _ _ scanned)

theorem scanWhole_shorter (text whole after : Text) (found : scanWhole text = some (whole, after)) :
    after.length < text.length := by
  unfold scanWhole at found
  split at found
  next first rest =>
    split at found
    next =>
      cases found
      exact Nat.lt_succ_self _
    next =>
      split at found
      next =>
        cases found
        exact Nat.lt_succ_of_le (List.dropWhile_sublist _).length_le
      next => cases found
  next => cases found

theorem scanFraction_shorter (text fraction after : Text)
    (found : scanFraction text = some (fraction, after)) : after.length ≤ text.length := by
  unfold scanFraction at found
  split at found
  next point first rest =>
    split at found
    next =>
      cases found
      have shorter := (List.dropWhile_sublist (l := rest) (·.isDigit)).length_le
      simp only [List.length_cons]
      omega
    next => cases found
  next => cases found

theorem sign_shorter (text : Text) : (Numeral.sign text).2.length ≤ text.length := by
  unfold Numeral.sign
  split
  next =>
    split
    next => exact Nat.le_succ _
    next =>
      simp only
      split
      next => exact Nat.le_succ _
      next => exact Nat.le_refl _
  next => exact Nat.le_refl _

theorem scanExponent_shorter (text after : Text) (exponent : Int)
    (found : scanExponent text = some (exponent, after)) : after.length ≤ text.length := by
  unfold scanExponent at found
  split at found
  next mark rest =>
    simp only at found
    split at found
    next =>
      cases found
      have shorter := (List.dropWhile_sublist (l := (Numeral.sign rest).2) (·.isDigit)).length_le
      have signed := sign_shorter rest
      simp only [List.length_cons]
      omega
    next => cases found
  next => cases found

theorem elim_shorter {α : Type} {scanned : Option (α × Text)} {rest : Text}
    (shorter : ∀ found after, scanned = some (found, after) → after.length ≤ rest.length) :
    (scanned.elim (none, rest) fun (found, after) => (some found, after)).2.length ≤
      rest.length := by
  cases scanned with
  | none => exact Nat.le_refl _
  | some result => exact shorter result.1 result.2 rfl

theorem scanNumber_shorter (negative : Bool) (text after : Text) (token : Token)
    (found : scanNumber negative text = .ok (token, after)) : after.length < text.length := by
  unfold scanNumber at found
  split at found
  next => cases found
  next whole rest wholeFound =>
    have first := scanWhole_shorter text whole rest wholeFound
    have second := elim_shorter (scanFraction_shorter rest)
    split at found
    next fraction behind fractionFound =>
      rw [fractionFound] at second
      have third := elim_shorter fun exponent after => scanExponent_shorter behind after exponent
      split at found
      next exponent last exponentFound =>
        rw [exponentFound] at third
        have total : last.length < text.length := by
          simp only at second third
          omega
        split at found
        next =>
          split at found
          next => cases found
          next =>
            cases found
            exact total
        next =>
          cases found
          exact total

theorem after?_shorter (word : String) (text after : Text) (found : after? word text = some after) :
    after.length + (Text.ofString word).length = text.length := by
  unfold after? at found
  simp only at found
  split at found
  next starts =>
    cases found
    have bound := (List.isPrefixOf_iff_prefix.mp starts).length_le
    rw [List.length_drop]
    omega
  next => cases found

theorem scanWord_shorter (point : CodePoint) (rest after : Text) (token : Token)
    (found : scanWord (point :: rest) = .ok (token, after)) : after.length ≤ rest.length := by
  unfold scanWord at found
  simp only at found
  split at found
  next value last wordFound =>
    cases found
    obtain ⟨⟨word, value'⟩, member, matched⟩ := List.exists_of_findSome?_eq_some wordFound
    obtain ⟨last', taken, same⟩ := Option.map_eq_some_iff.mp matched
    cases same
    have total := after?_shorter word _ _ taken
    have nonempty : 0 < (Text.ofString word).length := by
      simp only [List.mem_cons, Prod.mk.injEq, List.not_mem_nil, or_false] at member
      rcases member with ⟨rfl, _⟩ | ⟨rfl, _⟩ | ⟨rfl, _⟩ | ⟨rfl, _⟩ | ⟨rfl, _⟩ | ⟨rfl, _⟩ <;> decide
    simp only [List.length_cons] at total
    omega
  next =>
    split at found
    next =>
      exact Nat.le_of_lt (scanNumber_shorter true rest after token found)
    next =>
      exact Nat.le_of_lt_succ (scanNumber_shorter false (point :: rest) after token found)

theorem scanToken_shorter (point : CodePoint) (rest after : Text) (token : Token)
    (found : scanToken point rest = .ok (token, after)) : after.length ≤ rest.length := by
  unfold scanToken at found
  iterate 6
    split at found
    next =>
      cases found
      exact Nat.le_refl _
  split at found
  next =>
    split at found
    next read behind textFound =>
      cases found
      exact Nat.le_of_lt (scanText_shorter .nothing rest read after textFound)
    next => cases found
  next => exact scanWord_shorter point rest after token found

/-- Steps beyond the length of the text make no difference. -/
theorem tokensWithin_eq (fuel : Nat) (text : Text) (enough : text.length ≤ fuel) :
    tokensWithin fuel text = tokens text := by
  unfold tokens
  suffices agree : ∀ first second (text : Text), text.length ≤ first → text.length ≤ second →
      tokensWithin first text = tokensWithin second text from
    agree fuel text.length text enough (Nat.le_refl _)
  intro first
  induction first with
  | zero =>
    intro second text none _
    obtain rfl := List.length_eq_zero_iff.mp (Nat.le_zero.mp none)
    cases second <;> rfl
  | succ first ih =>
    intro second text enoughFirst enoughSecond
    cases text with
    | nil => cases second <;> rfl
    | cons point rest =>
      obtain ⟨second, rfl⟩ : ∃ n, second = n + 1 := ⟨second - 1, by
        simp only [List.length_cons] at enoughSecond
        omega⟩
      simp only [List.length_cons, Nat.add_le_add_iff_right] at enoughFirst enoughSecond
      simp only [tokensWithin]
      split
      next => exact ih second rest enoughFirst enoughSecond
      next =>
        split
        next token after found =>
          have shorter := scanToken_shorter point rest after token found
          rw [ih second after (by omega) (by omega)]
        next => rfl

theorem tokens_of_blank (point : CodePoint) (rest : Text) (blank : isBlank point = true) :
    tokens (point :: rest) = tokens rest := by
  rw [tokens, List.length_cons, tokensWithin, if_pos blank, tokensWithin_eq _ _ (Nat.le_refl _)]

theorem tokens_of_scan (point : CodePoint) (rest after : Text) (token : Token)
    (visible : isBlank point = false) (found : scanToken point rest = .ok (token, after)) :
    tokens (point :: rest) = .ok token :: tokens after := by
  have shorter := scanToken_shorter point rest after token found
  rw [tokens, List.length_cons, tokensWithin, if_neg (by rw [visible]; exact Bool.false_ne_true),
    found]
  simp only [tokensWithin_eq _ _ shorter]

end QueryWire.Json
