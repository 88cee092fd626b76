import QueryWire.Proofs.Response.Decode

/-!
The text that the octets of a response are told by. It loses nothing where the octets are
well-formed. Where they are not, the text shows how far they are, and no decoder gets to see it. It
is not told of a response whose status is too long to be written.
-/

namespace QueryWire

section

variable [Platform]

section

variable {α : Type} (status : Int) (body : Octets) (decoder : Text → Except Fault α) (text : Text)

omit [Platform] in
theorem databaseFault_parts (message : Text) (carried code : Value)
    (same : databaseFault text status = .failure (.database message carried code)) :
    carried = .text text ∧ code = .int status := by
  obtain ⟨shown, found⟩ := databaseFault_ne text status _ same
  cases found
  exact ⟨rfl, rfl⟩

theorem rejection_parts (message : Text) (carried code : Value)
    (same : rejection status text = .failure (.database message carried code)) :
    carried = .text text ∧ code = .int status := by
  obtain ⟨-, _, _, _, rejected⟩ | ⟨-, rejected⟩ | ⟨-, -, rejected⟩ := rejection_cases status text
  · rw [rejected] at same
    split at same <;> nomatch same
  · rw [rejected] at same
    nomatch same
  · rw [rejected] at same
    exact databaseFault_parts status text message carried code same

theorem calls_of_text (other : status ≠ 401) (read : Utf8.decode? body = some text) :
    ∀ called ∈ (decodeRecorded status body decoder).2, called = text := by
  obtain decoded | ⟨fault, failed, -⟩ :=
    decodeRecorded_of_text status body decoder text other read
  · rw [decoded]
    exact fun called member => List.mem_singleton.mp member
  · rw [failed]
    exact nofun

theorem failure_of_text (other : status ≠ 401) (read : Utf8.decode? body = some text)
    (message : Text) (carried code : Value)
    (ended : (decodeRecorded status body decoder).1 =
      .error (.failure (.database message carried code))) :
    (∃ called ∈ (decodeRecorded status body decoder).2,
        decoder called = (decodeRecorded status body decoder).1) ∨
      carried = .text text ∧ code = .int status := by
  obtain decoded | ⟨fault, failed, told⟩ :=
    decodeRecorded_of_text status body decoder text other read
  · rw [decoded] at ended ⊢
    obtain same | told := reported_cases decoder text status
    · exact .inl ⟨text, .head _, same.symm⟩
    · rw [told] at ended
      exact .inr (databaseFault_parts status text message carried code (Except.error.inj ended))
  · rw [failed] at ended
    have same := Except.error.inj ended
    obtain empty | failure | rejected := told
    · nomatch empty.symm.trans same
    · exact .inr (databaseFault_parts status text message carried code (failure.symm.trans same))
    · exact .inr (rejection_parts status text message carried code (rejected.symm.trans same))

end

/-- Well-formed octets have a text that encodes to them; this is the text that the decoder is called
with and that a failed response tells. Other octets make a failed response, whatever the decoder is:
it is not called, and what is told begins with the text of the longest well-formed part and a
replacement behind it. A status that is too long to be written makes a value fault of either. -/
theorem body_kept_or_marked {α : Type} (status : Int) (other : status ≠ 401) (body : Octets)
    (decoder : Text → Except Fault α) :
    (Utf8.WellFormed body → ∃ text, Utf8.encode text = .ok body ∧
      (∀ called ∈ (decodeRecorded status body decoder).2, called = text) ∧
      ∀ message carried code, decodeResponse status body decoder =
          .error (.failure (.database message carried code)) →
        (∃ called ∈ (decodeRecorded status body decoder).2,
            decoder called = decodeResponse status body decoder) ∨
          carried = .text text ∧ code = .int status) ∧
    (¬Utf8.WellFormed body → (decodeRecorded status body decoder).2 = [] ∧
      ∃ start text rest told, Utf8.LongestWellFormed start body ∧ Utf8.encode text = .ok start ∧
        told = text ++ .replacement :: rest ∧
        (Numeral.fits status = true → decodeResponse status body decoder =
          .error (.failure (.database
            ("Database error (status " ++ Numeral.ofInt status ++ "): " ++ told) (.text told)
            (.int status))))) ∧
    (¬Numeral.fits status = true → decodeResponse status body decoder = .error .tooManyDigits) := by
  refine ⟨?_, ?_, decodeResponse_of_long status body decoder⟩
  · rw [← decodeRecorded_fst]
    intro wellFormed
    obtain ⟨text, encoded⟩ := (Utf8.wellFormed_iff_encode body).mp wellFormed
    have read := (Utf8.decode?_eq_some_iff body text).mpr encoded
    exact ⟨text, encoded, calls_of_text status body decoder text other read,
      failure_of_text status body decoder text other read⟩
  · rw [← decodeRecorded_fst]
    intro broken
    have unread := (Utf8.decode?_eq_none_iff body).mpr broken
    obtain ⟨start, text, rest, longest, encoded, told⟩ := Utf8.decodeReplacing_of_broken body broken
    rw [decodeRecorded_of_broken status body decoder other unread, told]
    exact ⟨rfl, start, text, rest, _, longest, encoded, rfl, fun fits =>
      congrArg Except.error (databaseFault_of_fits _ status fits)⟩

end

def brokenBody : Octets := [0xC3, 0xA9, 0xED, 0xA0, 0x80, 0x41]

set_option maxRecDepth 4000 in
theorem brokenBody_broken : ¬Utf8.WellFormed brokenBody :=
  (Utf8.decode?_eq_none_iff _).mp rfl

set_option maxRecDepth 4000 in
/-- The body of a successful response is no text behind its first letter, and is not decoded. -/
theorem brokenBody_marked :
    (200 : Int) ≠ 401 ∧ ¬Utf8.WellFormed brokenBody ∧
      Utf8.decodeReplacing brokenBody = "\u00e9\ufffd\ufffd\ufffdA" ∧
      (decodeRecorded 200 brokenBody Decoder.text).2 = [] ∧
      ∃ start text rest told, Utf8.LongestWellFormed start brokenBody ∧
        Utf8.encode text = .ok start ∧ told = text ++ .replacement :: rest ∧
        decodeResponse 200 brokenBody Decoder.text = .error (.failure (.database
          ("Database error (status 200): " ++ told) (.text told) (.int 200))) := by
  obtain ⟨-, marked, -⟩ := body_kept_or_marked 200 (by decide) brokenBody Decoder.text
  obtain ⟨uncalled, start, text, rest, told, longest, encoded, same, fails⟩ :=
    marked brokenBody_broken
  exact ⟨by decide, brokenBody_broken, rfl, uncalled, start, text, rest, told, longest, encoded,
    same, fails (Numeral.fits_of_small 200 (by decide))⟩

/-- A status of more digits than can be written is not told with the body. -/
theorem brokenBody_untold :
    (10 ^ Numeral.digitLimit : Int) ≠ 401 ∧ ¬Utf8.WellFormed brokenBody ∧
      ¬∃ message carried code, decodeResponse (10 ^ Numeral.digitLimit) brokenBody Decoder.text =
        .error (.failure (.database message carried code)) := by
  have long : ¬Numeral.fits (10 ^ Numeral.digitLimit) = true := by
    have ten : (10 : Int).natAbs = 10 := rfl
    rw [Numeral.fits, decide_eq_true_eq, Int.natAbs_pow, ten]
    exact Nat.lt_irrefl _
  have ended := decodeResponse_of_long (10 ^ Numeral.digitLimit) brokenBody Decoder.text long
  refine ⟨fun same => long (Numeral.fits_of_small _ (by rw [same]; decide)), brokenBody_broken, ?_⟩
  rintro ⟨message, carried, code, told⟩
  cases ended.symm.trans told

end QueryWire
