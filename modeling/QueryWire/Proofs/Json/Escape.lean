import Mathlib.Data.List.Chain
import QueryWire.Json.Printer
import QueryWire.Json.Token
import QueryWire.Proofs.Number.Decimal
import QueryWire.Proofs.Text.Parts

/-!
Quoted texts are read back as they were written, unless a high surrogate stands right before a low
one: those two are written like one code point beyond the basic plane, and read back as that.
-/

namespace QueryWire

namespace CodePoint

theorem ofNat_val (point : CodePoint) : ofNat point.val = point := by
  simp only [ofNat, point.isLt, ↓reduceDIte]

theorem hexValue?_hexDigit : ∀ digit < 16, (hexDigit digit).hexValue? = some digit := by decide

end CodePoint

/-- No high surrogate stands right before a low one. -/
def Text.Unjoined (text : Text) : Prop :=
  text.IsChain fun before after =>
    ¬(before.isHighSurrogate = true ∧ after.isLowSurrogate = true)

instance (text : Text) : Decidable text.Unjoined := inferInstanceAs (Decidable (List.IsChain ..))

/-- The text with each high surrogate and a low one right behind it as the one code point that they
stand for. -/
def Text.joined : Text → Text
  | high :: low :: rest =>
    if high.isHighSurrogate && low.isLowSurrogate then
      .ofNat (0x10000 + (high.val - 0xD800) * 0x400 + (low.val - 0xDC00)) :: joined rest
    else high :: joined (low :: rest)
  | text => text

namespace Text

theorem joined_pair (high low : CodePoint) (rest : Text) (first : high.isHighSurrogate = true)
    (second : low.isLowSurrogate = true) :
    joined (high :: low :: rest) =
      .ofNat (0x10000 + (high.val - 0xD800) * 0x400 + (low.val - 0xDC00)) :: joined rest := by
  rw [joined, first, second]
  rfl

theorem joined_cons (point : CodePoint) (rest : Text)
    (apart : point.isHighSurrogate = false ∨ ∀ next ∈ rest.head?, next.isLowSurrogate = false) :
    joined (point :: rest) = point :: joined rest := by
  cases rest with
  | nil => rfl
  | cons next rest =>
    have single : (point.isHighSurrogate && next.isLowSurrogate) = false := by
      obtain high | low := apart
      · rw [high, Bool.false_and]
      · rw [low next rfl, Bool.and_false]
    rw [joined, single]
    rfl

theorem joined_of_unjoined (text : Text) (unjoined : text.Unjoined) : text.joined = text := by
  induction text with
  | nil => rfl
  | cons point rest ih =>
    rw [joined_cons point rest ?_, ih unjoined.tail]
    cases rest with
    | nil => exact .inr nofun
    | cons next rest =>
      by_cases high : point.isHighSurrogate = true
      · refine .inr fun follower first => ?_
        cases first
        have separate := (List.isChain_cons_cons.mp unjoined).1
        exact Bool.eq_false_iff.mpr fun low => separate ⟨high, low⟩
      · exact .inl (Bool.eq_false_iff.mpr high)

end Text

theorem Text.hex_four (n : Nat) :
    Text.hex 4 n = [.hexDigit (n / 4096 % 16), .hexDigit (n / 256 % 16), .hexDigit (n / 16 % 16),
      .hexDigit (n % 16)] := by
  simp [Text.hex, List.range_succ]

namespace Json

def prepend (points : Text) (scanned : Option (Text × Text)) : Option (Text × Text) :=
  scanned.map fun found => (points ++ found.1, found.2)

theorem prepend_prepend (first second : Text) (scanned : Option (Text × Text)) :
    prepend first (prepend second scanned) = prepend (first ++ second) scanned := by
  cases scanned <;> simp [prepend]

/-- A scan outside escapes, right behind an escaped high surrogate if there is one. -/
def Pending.behind : Option Nat → Pending
  | none => .nothing
  | some unit => .high unit

def owed : Option Nat → Text
  | none => []
  | some unit => [.ofNat unit]

theorem scanText_hex (high : Option Nat) (n : Nat) (small : n < 0x10000) (rest : Text) :
    scanText (.digits high 0 0) (Text.hex 4 n ++ rest) =
      prepend (joinUnits high n).1 (scanText (joinUnits high n).2 rest) := by
  have value (digit : Nat) : (CodePoint.hexDigit (digit % 16)).hexValue? = some (digit % 16) :=
    CodePoint.hexValue?_hexDigit _ (Nat.mod_lt _ (by decide))
  have spelled : (((0 * 16 + n / 4096 % 16) * 16 + n / 256 % 16) * 16 + n / 16 % 16) * 16 +
      n % 16 = n := by omega
  simp only [Text.hex_four, List.cons_append, List.nil_append, scanText, value, spelled,
    Nat.reduceAdd, Nat.reduceLT, ↓reduceIte, Nat.lt_irrefl]
  rfl

theorem scanText_unicodeEscape (high : Option Nat) (n : Nat) (small : n < 0x10000) (rest : Text) :
    scanText (.behind high) (unicodeEscape n ++ rest) =
      prepend (joinUnits high n).1 (scanText (joinUnits high n).2 rest) := by
  rw [← scanText_hex high n small rest]
  cases high <;> rfl

theorem joinUnits_astral (point : CodePoint) (astral : 0x10000 ≤ point.val) :
    joinUnits (some (0xD800 + (point.val - 0x10000) / 0x400))
      (0xDC00 + (point.val - 0x10000) % 0x400) = ([point], .nothing) := by
  have bound := point.isLt
  have low : 0xDC00 ≤ 0xDC00 + (point.val - 0x10000) % 0x400 ∧
      0xDC00 + (point.val - 0x10000) % 0x400 ≤ 0xDFFF := by omega
  have whole : 0x10000 + (0xD800 + (point.val - 0x10000) / 0x400 - 0xD800) * 0x400 +
      (0xDC00 + (point.val - 0x10000) % 0x400 - 0xDC00) = point.val := by omega
  simp only [joinUnits, low, and_self, ↓reduceIte, whole, CodePoint.ofNat_val]

theorem joinUnits_high (before : Option Nat) (unit : Nat) (high : 0xD800 ≤ unit ∧ unit ≤ 0xDBFF) :
    joinUnits before unit = (owed before, .high unit) := by
  cases before with
  | none => simp only [joinUnits, high, and_self, ↓reduceIte, owed]
  | some first =>
    have notLow : ¬(0xDC00 ≤ unit ∧ unit ≤ 0xDFFF) := by omega
    simp only [joinUnits, high, and_self, ↓reduceIte, notLow, owed]

theorem joinUnits_other (before : Option Nat) (unit : Nat)
    (notHigh : ¬(0xD800 ≤ unit ∧ unit ≤ 0xDBFF))
    (apart : before = none ∨ ¬(0xDC00 ≤ unit ∧ unit ≤ 0xDFFF)) :
    joinUnits before unit = (owed before ++ [.ofNat unit], .nothing) := by
  cases before with
  | none => simp only [joinUnits, notHigh, ↓reduceIte, owed, List.nil_append]
  | some first =>
    have notLow : ¬(0xDC00 ≤ unit ∧ unit ≤ 0xDFFF) := by simpa using apart
    simp only [joinUnits, notHigh, ↓reduceIte, notLow, owed, List.cons_append, List.nil_append]

theorem scanText_simpleEscape (before : Option Nat) (mark point : CodePoint) (rest : Text)
    (unmarked : mark.is 'u' = false) (meaning : simpleEscape? mark = some point) :
    scanText (.behind before) (.ofChar '\\' :: mark :: rest) =
      prepend (owed before ++ [point]) (scanText .nothing rest) := by
  have backslash : (CodePoint.ofChar '\\').is '\\' = true := by decide
  have noQuote : (CodePoint.ofChar '\\').is '"' = false := by decide
  cases before <;>
    simp only [Pending.behind, scanText, backslash, noQuote, unmarked, meaning, ↓reduceIte,
      Bool.false_eq_true] <;> rfl

theorem scanText_plain (before : Option Nat) (point : CodePoint) (rest : Text)
    (noQuote : point.is '"' = false) (noBackslash : point.is '\\' = false)
    (visible : 0x20 ≤ point.val) :
    scanText (.behind before) (point :: rest) =
      prepend (owed before ++ [point]) (scanText .nothing rest) := by
  have noControl : ¬point.val < 0x20 := by omega
  cases before <;>
    simp only [Pending.behind, scanText, noQuote, noBackslash, noControl, ↓reduceIte,
      Bool.false_eq_true] <;> rfl

theorem isHighSurrogate_iff (point : CodePoint) :
    point.isHighSurrogate = true ↔ 0xD800 ≤ point.val ∧ point.val ≤ 0xDBFF :=
  CodePoint.within_iff _ _ _

theorem isLowSurrogate_iff (point : CodePoint) :
    point.isLowSurrogate = true ↔ 0xDC00 ≤ point.val ∧ point.val ≤ 0xDFFF :=
  CodePoint.within_iff _ _ _

theorem scanText_escapePoint (before : Option Nat) (point : CodePoint) (rest : Text)
    (apart : before = none ∨ point.isLowSurrogate = false) :
    scanText (.behind before) (escapePoint point ++ rest) =
      if point.isHighSurrogate then
        prepend (owed before) (scanText (.behind (some point.val)) rest)
      else prepend (owed before ++ [point]) (scanText .nothing rest) := by
  have escaped (mark : CodePoint) (small : point.val < 0x20 ∨ point.val = 0x22 ∨ point.val = 0x5C)
      (unmarked : mark.is 'u' = false) (meaning : simpleEscape? mark = some point) :
      scanText (.behind before) (.ofChar '\\' :: mark :: rest) =
        if point.isHighSurrogate then
          prepend (owed before) (scanText (.behind (some point.val)) rest)
        else prepend (owed before ++ [point]) (scanText .nothing rest) := by
    have notHigh : ¬point.isHighSurrogate = true := by
      rw [isHighSurrogate_iff]
      omega
    rw [if_neg notHigh]
    exact scanText_simpleEscape before mark point rest unmarked meaning
  unfold escapePoint
  split
  next quote =>
    obtain rfl := (CodePoint.is_iff _ _).mp quote
    exact escaped (.ofChar '"') (by decide) (by decide) rfl
  split
  next backslash =>
    obtain rfl := (CodePoint.is_iff _ _).mp backslash
    exact escaped (.ofChar '\\') (by decide) (by decide) rfl
  split
  next newline =>
    obtain rfl := (CodePoint.is_iff _ _).mp newline
    exact escaped (.ofChar 'n') (by decide) (by decide) rfl
  split
  next carriage =>
    obtain rfl := (CodePoint.is_iff _ _).mp carriage
    exact escaped (.ofChar 'r') (by decide) (by decide) rfl
  split
  next tab =>
    obtain rfl := (CodePoint.is_iff _ _).mp tab
    exact escaped (.ofChar 't') (by decide) (by decide) rfl
  split
  next feed =>
    obtain rfl : point = .ofNat 0x0C := by rw [← feed, CodePoint.ofNat_val]
    exact escaped (.ofChar 'f') (by decide) (by decide) rfl
  split
  next backspace =>
    obtain rfl : point = .ofNat 0x08 := by rw [← backspace, CodePoint.ofNat_val]
    exact escaped (.ofChar 'b') (by decide) (by decide) rfl
  next noQuote noBackslash _ _ _ _ _ =>
  split
  next visible =>
    have range := (CodePoint.within_iff _ _ _).mp visible
    have notHigh : ¬point.isHighSurrogate = true := by
      rw [isHighSurrogate_iff]
      omega
    rw [if_neg notHigh]
    exact scanText_plain before point rest (by simpa using noQuote) (by simpa using noBackslash)
      range.1
  split
  next basic =>
    rw [scanText_unicodeEscape before point.val basic]
    by_cases high : point.isHighSurrogate = true
    · rw [if_pos high, joinUnits_high before _ ((isHighSurrogate_iff point).mp high)]
      rfl
    · have other := joinUnits_other before point.val (by rwa [isHighSurrogate_iff] at high)
        (apart.imp_right fun notLow => by
          rw [← isLowSurrogate_iff, notLow]
          exact Bool.false_ne_true)
      rw [if_neg high, other, CodePoint.ofNat_val]
  next noBasic =>
    have bound := point.isLt
    have notHigh : ¬point.isHighSurrogate = true := by
      rw [isHighSurrogate_iff]
      omega
    rw [if_neg notHigh, List.append_assoc, scanText_unicodeEscape before _ (by omega),
      joinUnits_high before _ (by omega)]
    have second := scanText_unicodeEscape (some (0xD800 + (point.val - 0x10000) / 0x400))
      (0xDC00 + (point.val - 0x10000) % 0x400) (by omega) rest
    rw [joinUnits_astral point (by omega)] at second
    change prepend (owed before) (scanText (.behind (some _)) _) = _
    rw [second, prepend_prepend]

theorem scanText_escapeLow (unit : Nat) (point : CodePoint) (rest : Text)
    (low : point.isLowSurrogate = true) :
    scanText (.behind (some unit)) (escapePoint point ++ rest) =
      prepend [.ofNat (0x10000 + (unit - 0xD800) * 0x400 + (point.val - 0xDC00))]
        (scanText .nothing rest) := by
  have range := (isLowSurrogate_iff point).mp low
  have other (c : Char) (ascii : c.toNat < 0x80) : point.is c = false := by
    rw [CodePoint.is, beq_eq_false_iff_ne]
    omega
  have hidden : point.within 0x20 0x7E = false := by
    rw [Bool.eq_false_iff, ne_eq, CodePoint.within_iff]
    omega
  have noFeed : ¬point.val = 0x0C := by omega
  have noBackspace : ¬point.val = 0x08 := by omega
  have basic : point.val < 0x10000 := by omega
  have written : escapePoint point = unicodeEscape point.val := by
    simp only [escapePoint, other '"' (by decide), other '\\' (by decide), other '\n' (by decide),
      other '\r' (by decide), other '\t' (by decide), noFeed, noBackspace, hidden, basic,
      Bool.false_eq_true, ↓reduceIte]
  rw [written, scanText_unicodeEscape (some unit) point.val basic, joinUnits, if_pos range]

/-- A quoted text is read up to its closing mark, with its surrogates joined, also behind an escaped
high surrogate. -/
theorem scanText_flatMap (text rest : Text) (before : Option CodePoint)
    (high : ∀ point ∈ before, point.isHighSurrogate = true) :
    scanText (.behind (before.map CodePoint.val))
        (text.flatMap escapePoint ++ .ofChar '"' :: rest) =
      some (Text.joined (before.toList ++ text), rest) := by
  induction text generalizing before with
  | nil =>
    have quote : (CodePoint.ofChar '"').is '"' = true := by decide
    cases before <;>
      simp only [List.flatMap_nil, List.nil_append, Pending.behind, scanText, quote, ↓reduceIte,
        Option.map_none, Option.map_some, Option.toList_none, Option.toList_some, Text.joined,
        CodePoint.ofNat_val, List.append_nil]
  | cons point text ih =>
    -- What is left after a code point that joins nothing.
    have follows (apart : before = none ∨ point.isLowSurrogate = false) :
        scanText (.behind (before.map CodePoint.val))
            ((point :: text).flatMap escapePoint ++ .ofChar '"' :: rest) =
          some (before.toList ++ Text.joined (point :: text), rest) := by
      have shown : owed (before.map CodePoint.val) = before.toList := by
        cases before with
        | none => rfl
        | some unit => exact congrArg (fun unit => [unit]) unit.ofNat_val
      rw [List.flatMap_cons, List.append_assoc, scanText_escapePoint _ point _
        (apart.imp_left fun none => by rw [none]; rfl), shown]
      by_cases first : point.isHighSurrogate = true
      · have later := ih (some point) (by rintro _ ⟨⟩; exact first)
        rw [if_pos first]
        exact congrArg (prepend before.toList) later
      · have later := ih none nofun
        rw [if_neg first, Text.joined_cons point text (.inl (Bool.eq_false_iff.mpr first))]
        exact (congrArg (prepend (before.toList ++ [point])) later).trans (by simp [prepend])
    cases before with
    | none => exact follows (.inl rfl)
    | some unit =>
      have first := high unit rfl
      by_cases second : point.isLowSurrogate = true
      · have later := ih none nofun
        rw [List.flatMap_cons, List.append_assoc, Option.map_some, scanText_escapeLow _ _ _ second,
          Option.toList_some, List.singleton_append, Text.joined_pair _ _ _ first second]
        exact congrArg (prepend [_]) later
      · have apart := Bool.eq_false_iff.mpr second
        rw [follows (.inr apart), Option.toList_some, List.singleton_append, List.singleton_append,
          Text.joined_cons unit (point :: text) (.inr (by rintro _ ⟨⟩; exact apart))]

theorem scanText_renderText (text rest : Text) :
    scanText .nothing (text.flatMap escapePoint ++ .ofChar '"' :: rest) =
      some (text.joined, rest) :=
  scanText_flatMap text rest none nofun

end Json

end QueryWire
