import QueryWire.Proofs.Json.RoundTrip

/-!
The limits of reading. It stops at an integer that has too many digits, so all integers of a JSON
tree that was read can be written again, and it stops where more opens than there is room for.
-/

namespace QueryWire

namespace Numeral

theorem value_append (digits : Text) (last : CodePoint) :
    value (digits ++ [last]) = value digits * 10 + (last.val - 0x30) := by
  simp only [value, List.foldl_append, List.foldl_cons, List.foldl_nil]

theorem value_lt (digits : Text) (spelled : ∀ digit ∈ digits, digit.isDigit = true) :
    value digits < 10 ^ digits.length := by
  induction digits using List.reverseRecOn with
  | nil => decide
  | append_singleton digits last ih =>
    have before := ih fun digit member => spelled digit (List.mem_append_left _ member)
    have digit := (CodePoint.within_iff _ _ _).mp (spelled last (by simp))
    rw [value_append, List.length_append, List.length_singleton, Nat.pow_succ]
    omega

end Numeral

namespace Json

mutual

def Fits : Json → Prop
  | .null | .bool _ | .float _ | .text _ => True
  | .int value => Numeral.fits value = true
  | .array items => FitsItems items
  | .object members => FitsMembers members

def FitsItems : List Json → Prop
  | [] => True
  | item :: items => Fits item ∧ FitsItems items

def FitsMembers : List (Text × Json) → Prop
  | [] => True
  | (_, value) :: members => Fits value ∧ FitsMembers members

end

theorem fitsItems_iff (items : List Json) : FitsItems items ↔ ∀ item ∈ items, item.Fits := by
  induction items with
  | nil => simp [FitsItems]
  | cons item items ih => simp [FitsItems, ih]

theorem fitsMembers_insertMember (key : Text) (value : Json) (members : List (Text × Json))
    (fits : value.Fits) (others : FitsMembers members) :
    FitsMembers (insertMember key value members) := by
  induction members with
  | nil => exact ⟨fits, trivial⟩
  | cons member members ih =>
    obtain ⟨found, old⟩ := member
    rw [insertMember]
    split
    · exact ⟨fits, others.2⟩
    · exact ⟨others.1, ih others.2⟩

def Token.Fits : Token → Prop
  | .scalar value => value.Fits
  | _ => True

theorem scanWhole_digits (text whole after : Text) (found : scanWhole text = some (whole, after)) :
    ∀ digit ∈ whole, digit.isDigit = true := by
  unfold scanWhole at found
  split at found
  next first rest =>
    split at found
    next zero =>
      cases found
      intro digit member
      rw [List.mem_singleton.mp member, (CodePoint.is_iff first '0').mp zero]
      decide
    next =>
      split at found
      next leading =>
        cases found
        intro digit member
        rcases List.mem_cons.mp member with rfl | member
        · exact leading
        · exact List.all_eq_true.mp List.all_takeWhile digit member
      next => nomatch found
  next => nomatch found

theorem fits_of_digits (digits : Text) (spelled : ∀ digit ∈ digits, digit.isDigit = true)
    (short : digits.length ≤ Numeral.digitLimit) (negative : Bool) :
    Numeral.fits (if negative then -(Numeral.value digits : Int) else Numeral.value digits) =
      true := by
  have bound : Numeral.value digits < 10 ^ Numeral.digitLimit :=
    Nat.lt_of_lt_of_le (Numeral.value_lt digits spelled) (Nat.pow_le_pow_right (by decide) short)
  rw [Numeral.fits, decide_eq_true_eq]
  cases negative with
  | true => rwa [if_pos rfl, Int.natAbs_neg, Int.natAbs_natCast]
  | false => rwa [if_neg Bool.false_ne_true, Int.natAbs_natCast]

theorem scanNumber_fits (negative : Bool) (text after : Text) (token : Token)
    (found : scanNumber negative text = .ok (token, after)) : token.Fits := by
  unfold scanNumber at found
  split at found
  next => nomatch found
  next whole rest wholeFound =>
    have spelled := scanWhole_digits text whole rest wholeFound
    simp only at found
    split at found
    next =>
      split at found
      next => nomatch found
      next short =>
        cases found
        exact fits_of_digits whole spelled (Nat.not_lt.mp short) negative
    next =>
      cases found
      exact trivial

theorem scanWord_fits (text after : Text) (token : Token)
    (found : scanWord text = .ok (token, after)) : token.Fits := by
  unfold scanWord at found
  simp only at found
  split at found
  next value last wordFound =>
    cases found
    obtain ⟨⟨word, value'⟩, member, matched⟩ := List.exists_of_findSome?_eq_some wordFound
    obtain ⟨last', taken, same⟩ := Option.map_eq_some_iff.mp matched
    cases same
    simp only [List.mem_cons, Prod.mk.injEq, List.not_mem_nil, or_false] at member
    rcases member with ⟨_, rfl⟩ | ⟨_, rfl⟩ | ⟨_, rfl⟩ | ⟨_, rfl⟩ | ⟨_, rfl⟩ | ⟨_, rfl⟩ <;>
      exact trivial
  next =>
    split at found
    next =>
      split at found
      · exact scanNumber_fits true _ after token found
      · exact scanNumber_fits false _ after token found
    next => nomatch found

theorem scanToken_fits (point : CodePoint) (rest after : Text) (token : Token)
    (found : scanToken point rest = .ok (token, after)) : token.Fits := by
  unfold scanToken at found
  iterate 6
    split at found
    next =>
      cases found
      exact trivial
  split at found
  next =>
    split at found
    next read behind textFound =>
      cases found
      exact trivial
    next => cases found
  next => exact scanWord_fits _ after token found

theorem tokensWithin_fits (fuel : Nat) (text : Text) :
    ∀ token, .ok token ∈ tokensWithin fuel text → token.Fits := by
  induction fuel generalizing text with
  | zero => exact nofun
  | succ fuel ih =>
    intro token member
    cases text with
    | nil => cases member
    | cons point rest =>
      rw [tokensWithin] at member
      split at member
      next => exact ih rest token member
      next =>
        split at member
        next first after found =>
          rcases List.mem_cons.mp member with same | member
          · cases same
            exact scanToken_fits point rest after token found
          · exact ih after token member
        next => cases List.mem_singleton.mp member

namespace Reader

def FrameFits : Frame → Prop
  | .array done => FitsItems done
  | .object done _ => FitsMembers done

def ExpectedFits : Expected → Prop
  | .value | .itemOrClose | .keyOrClose => True
  | .key done | .colon done _ => FitsMembers done
  | .separator last => last.Fits

def Fits (reader : Reader) : Prop :=
  (∀ frame ∈ reader.frames, FrameFits frame) ∧ ExpectedFits reader.expected

variable (room : Nat)

theorem opened_ok (frames : List Frame) (expected : Expected) (next : Reader)
    (taken : opened room frames expected = .ok next) : next = ⟨frames, expected⟩ := by
  rw [opened] at taken
  split at taken
  next => exact (Except.ok.inj taken).symm
  next => nomatch taken

theorem onValue_fits (frames : List Frame) (token : Token) (next : Reader)
    (open_ : ∀ frame ∈ frames, FrameFits frame) (fits : token.Fits)
    (taken : onValue room frames token = .ok next) : next.Fits := by
  cases token with
  | openArray =>
    rw [opened_ok room frames .itemOrClose next taken]
    exact ⟨open_, trivial⟩
  | openObject =>
    rw [opened_ok room frames .keyOrClose next taken]
    exact ⟨open_, trivial⟩
  | scalar value =>
    cases taken
    exact ⟨open_, fits⟩
  | text value =>
    cases taken
    exact ⟨open_, trivial⟩
  | closeArray | closeObject | comma | colon => nomatch taken

theorem onSeparator_fits (frames : List Frame) (last : Json) (token : Token) (next : Reader)
    (open_ : ∀ frame ∈ frames, FrameFits frame) (fits : last.Fits)
    (taken : onSeparator frames last token = .ok next) : next.Fits := by
  unfold onSeparator at taken
  split at taken
  next done outer =>
    cases taken
    refine ⟨fun frame member => ?_, trivial⟩
    rcases List.mem_cons.mp member with rfl | member
    · exact ⟨fits, open_ _ (.head _)⟩
    · exact open_ frame (.tail _ member)
  next done outer =>
    cases taken
    refine ⟨fun frame member => open_ frame (.tail _ member), ?_⟩
    have inner : FitsItems done := open_ _ (.head _)
    rw [fitsItems_iff] at inner
    exact (fitsItems_iff _).mpr fun item member => by
      rcases List.mem_cons.mp (List.mem_reverse.mp member) with rfl | member
      · exact fits
      · exact inner item member
  next done key outer =>
    cases taken
    exact ⟨fun frame member => open_ frame (.tail _ member),
      fitsMembers_insertMember key last done fits (open_ _ (.head _))⟩
  next done key outer =>
    cases taken
    exact ⟨fun frame member => open_ frame (.tail _ member),
      fitsMembers_insertMember key last done fits (open_ _ (.head _))⟩
  next => nomatch taken

/-- A step keeps all that a reader holds within the limit. -/
theorem step_fits (reader next : Reader) (token : Token) (fits : reader.Fits)
    (within : token.Fits) (taken : reader.step room token = .ok next) : next.Fits := by
  obtain ⟨frames, expected⟩ := reader
  obtain ⟨open_, here⟩ := fits
  have inArray : ∀ frame ∈ Frame.array [] :: frames, FrameFits frame := by
    intro frame member
    rcases List.mem_cons.mp member with rfl | member
    · exact trivial
    · exact open_ frame member
  cases expected with
  | value => exact onValue_fits room frames token next open_ within taken
  | itemOrClose =>
    cases token with
    | closeArray =>
      cases taken
      exact ⟨open_, trivial⟩
    | _ => exact onValue_fits room _ _ next inArray within taken
  | keyOrClose =>
    cases token <;> cases taken
    · exact ⟨open_, trivial⟩
    · exact ⟨open_, trivial⟩
  | key done =>
    cases token <;> cases taken
    exact ⟨open_, here⟩
  | colon done key =>
    cases token <;> cases taken
    refine ⟨fun frame member => ?_, trivial⟩
    rcases List.mem_cons.mp member with rfl | member
    · exact here
    · exact open_ frame member
  | separator last => exact onSeparator_fits frames last token next open_ here taken

theorem run_fits (reader : Reader) (tokens : List (Except ReadFault Token)) (fits : reader.Fits)
    (within : ∀ token, .ok token ∈ tokens → token.Fits) (json : Json)
    (read : reader.run room tokens = .ok json) : json.Fits := by
  fun_induction run room reader tokens with
  | case1 value =>
    cases read
    exact fits.2
  | case3 reader token rest next taken ih =>
    exact ih (step_fits room reader next token fits (within token (.head _)) taken)
      (fun other member => within other (.tail _ member)) read
  | _ => nomatch read

end Reader

theorem parse_fits (room : Nat) (text : Text) (json : Json) (read : parse room text = .ok json) :
    json.Fits :=
  Reader.run_fits room .initial (tokens text) ⟨nofun, trivial⟩
    (tokensWithin_fits text.length text) json read

/-- More brackets than there is room for are not read, whatever follows them. -/
theorem Reader.run_overfull (room count : Nat) (reader : Reader) (frames : List Frame)
    (rest : Text) (accepts : reader.Accepts room frames) (bounded : frames.length ≤ room)
    (exceeds : room < frames.length + count) :
    reader.run room (tokens (List.replicate count (.ofChar '[') ++ rest)) = .error .tooDeep := by
  -- Each bracket opens a frame, so what is left of the room shrinks with the brackets.
  induction count generalizing reader frames with
  | zero => omega
  | succ count ih =>
    have opening := tokens_of_scan (.ofChar '[') (List.replicate count (.ofChar '[') ++ rest) _
      .openArray rfl rfl
    have tried := accepts .openArray (by rintro ⟨⟩)
    rw [onValue, opened] at tried
    rw [List.replicate_succ, List.cons_append, opening]
    by_cases spare : frames.length < room
    · rw [if_pos spare] at tried
      rw [run_step room reader _ _ _ tried]
      refine ih _ _ (accepts_item room frames) spare ?_
      rw [List.length_cons]
      omega
    · rw [if_neg spare] at tried
      rw [run, tried]

theorem parse_overfull (room count : Nat) (exceeds : room < count) (rest : Text) :
    parse room (List.replicate count (.ofChar '[') ++ rest) = .error .tooDeep :=
  Reader.run_overfull room count .initial [] rest (Reader.accepts_value room []) (Nat.zero_le _)
    (by simpa using exceeds)

end Json

end QueryWire
