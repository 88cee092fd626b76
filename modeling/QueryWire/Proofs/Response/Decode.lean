import QueryWire.Proofs.Response.Errors
import QueryWire.Proofs.Text.Utf8
import QueryWire.Response.Decode

/-!
How responses are told apart. Which failure a response ends in depends on its status and its body
alone, outside the decoder, and the decoder is called on the texts of successful responses only,
once for each.
-/

namespace QueryWire

section

variable [Platform]

def ErrorsText (text : Text) : Prop :=
  ∃ json, Json.parse Platform.nesting text = .ok json ∧ json.ErrorsBody

/-- There is no room for all that opens in a text before anything else is wrong with it. -/
def TooDeep (text : Text) : Prop := Json.parse Platform.nesting text = .error .tooDeep

section Faults

theorem loads_of_parse (text : Text) (json : Json)
    (parsed : Json.parse Platform.nesting text = .ok json) : loads text = .ok (.ofJson json) := by
  rw [loads, parsed]

theorem loads_of_tooDeep (text : Text) (deep : TooDeep text) : loads text = .error .tooDeep := by
  rw [loads, deep]

theorem loads_error (text : Text) (unread : ∀ json, Json.parse Platform.nesting text ≠ .ok json)
    (shallow : ¬TooDeep text) :
    ∃ fault, loads text = .error fault ∧ fault.isA .valueError = true := by
  unfold loads
  split
  next json parsed => exact (unread json parsed).elim
  next => exact ⟨_, rfl, rfl⟩
  next => exact ⟨_, rfl, rfl⟩
  next deep => exact (shallow deep).elim

omit [Platform] in
theorem databaseFault_of_fits (text : Text) (status : Int) (fits : Numeral.fits status = true) :
    databaseFault text status = .failure (.database
      ("Database error (status " ++ Numeral.ofInt status ++ "): " ++ text) (.text text)
      (.int status)) := by
  have shownBody : (Value.text text).plain = pure text := rfl
  have shown : displayInt status = .ok (Numeral.ofInt status) := if_pos fits
  have made : Failure.ofResponse (.text text) (.int status) = pure (.database
      ("Database error (status " ++ Numeral.ofInt status ++ "): " ++ text) (.text text)
      (.int status)) := by
    rw [Failure.ofResponse, Value.plain_int, shownBody, shown, Run.lift_ok, pure_bind, pure_bind]
  unfold databaseFault
  rw [made]
  rfl

omit [Platform] in
theorem databaseFault_of_long (text : Text) (status : Int) (long : ¬Numeral.fits status = true) :
    databaseFault text status = .tooManyDigits := by
  have shown : displayInt status = .error .tooManyDigits := if_neg long
  have made : Failure.ofResponse (.text text) (.int status) = throw .tooManyDigits := by
    rw [Failure.ofResponse, Value.plain_int, shown]
    rfl
  unfold databaseFault
  rw [made]
  rfl

theorem rejection_of_lists (status : Int) (text : Text) (json : Json) (reports : List ErrorReport)
    (parsed : Json.parse Platform.nesting text = .ok json) (lists : json.Lists reports) :
    rejection status text = .failure (Failure.ofReports status reports) := by
  have loaded : (loads text >>= fun body => body.readErrors.alone) =
      .ok (ErrorReport.collected reports) := by
    rw [loads_of_parse text json parsed]
    exact congrArg Run.alone (Value.readErrors_of_lists json reports lists)
  by_cases bad : status = 400
  · simp only [rejection, loaded, bad, ↓reduceIte, Failure.ofRejection, Failure.ofErrors_collected,
      Failure.ofReports]
    rfl
  · simp only [rejection, loaded, bad, ↓reduceIte, Failure.ofAbsence, Failure.ofErrors_collected,
      Failure.ofReports]
    rfl

theorem rejection_of_errorsText (status : Int) (text : Text) (errorsText : ErrorsText text) :
    ∃ message code errors, rejection status text = .failure
      (if status = 400 then .badRequest message code errors
        else .notFound message code errors) := by
  obtain ⟨json, parsed, body⟩ := errorsText
  obtain ⟨reports, lists⟩ := Json.exists_lists json (Json.parse_fits _ text json parsed) body
  rw [rejection_of_lists status text json reports parsed lists, Failure.ofReports]
  by_cases bad : status = 400
  · rw [if_pos bad]
    exact ⟨_, _, _, congrArg _ (if_pos bad).symm⟩
  · rw [if_neg bad]
    exact ⟨_, _, _, congrArg _ (if_neg bad).symm⟩

/-- What is too deep for the reader is no value fault, and is not caught. -/
theorem rejection_of_tooDeep (status : Int) (text : Text) (deep : TooDeep text) :
    rejection status text = .tooDeep := by
  rw [rejection, loads_of_tooDeep text deep]
  rfl

theorem rejection_otherwise (status : Int) (text : Text) (other : ¬ErrorsText text)
    (shallow : ¬TooDeep text) : rejection status text = databaseFault text status := by
  have refused : ∃ fault, (loads text >>= fun body => body.readErrors.alone) = .error fault ∧
      fault.isA .valueError = true := by
    by_cases unread : ∀ json, Json.parse Platform.nesting text ≠ .ok json
    · obtain ⟨fault, stopped, kind⟩ := loads_error text unread shallow
      exact ⟨fault, by rw [stopped]; rfl, kind⟩
    · simp only [ne_eq, not_forall, not_not] at unread
      obtain ⟨json, parsed⟩ := unread
      obtain ⟨message, read⟩ := Value.readErrors_of_other json (Json.parse_fits _ text json parsed)
        fun body => other ⟨json, parsed, body⟩
      refine ⟨.refused .valueError message, ?_, rfl⟩
      rw [loads_of_parse text json parsed]
      exact congrArg Run.alone read
  obtain ⟨fault, stopped, kind⟩ := refused
  rw [rejection, stopped]
  exact if_pos kind

end Faults

/-- A rejected query fails with the errors that its text lists, or as any failed response does,
unless its text is too deep. -/
theorem rejection_cases (status : Int) (text : Text) :
    ErrorsText text ∧ (∃ message code errors, rejection status text = .failure
        (if status = 400 then .badRequest message code errors
          else .notFound message code errors)) ∨
      TooDeep text ∧ rejection status text = .tooDeep ∨
      ¬ErrorsText text ∧ ¬TooDeep text ∧ rejection status text = databaseFault text status := by
  by_cases errorsText : ErrorsText text
  · exact .inl ⟨errorsText, rejection_of_errorsText status text errorsText⟩
  by_cases deep : TooDeep text
  · exact .inr (.inl ⟨deep, rejection_of_tooDeep status text deep⟩)
  · exact .inr (.inr ⟨errorsText, deep, rejection_otherwise status text errorsText deep⟩)

/-- A response or a failure of the library, or one of two faults: a status was too long to be
written, or a text too deep to be read. -/
def Typed (outcome : Except Fault Value) : Prop :=
  (∃ resource, outcome = .ok (.response resource)) ∨ (∃ cause, outcome = .error (.failure cause)) ∨
    outcome = .error .tooManyDigits ∨ outcome = .error .tooDeep

omit [Platform] in
theorem typed_databaseFault (text : Text) (status : Int) :
    Typed (.error (databaseFault text status)) := by
  by_cases fits : Numeral.fits status = true
  · exact .inr (.inl ⟨_, congrArg _ (databaseFault_of_fits text status fits)⟩)
  · exact .inr (.inr (.inl (congrArg _ (databaseFault_of_long text status fits))))

theorem typed_rejection (text : Text) (status : Int) : Typed (.error (rejection status text)) := by
  obtain ⟨-, _, _, _, rejected⟩ | ⟨-, rejected⟩ | ⟨-, -, rejected⟩ := rejection_cases status text
  · exact .inr (.inl ⟨_, congrArg _ rejected⟩)
  · exact .inr (.inr (.inr (congrArg _ rejected)))
  · rw [rejected]
    exact typed_databaseFault text status

/-- Either a response fails whatever the decoder is, or its text is left to the decoder. What else
the decoder may do makes no difference to this. -/
theorem decodeResponse_shape (status : Int) (body : Octets) :
    (∃ fault, Typed (.error fault) ∧
      ∀ {m : Type → Type} [Monad m] [MonadExcept Fault m] {α : Type} (decoder : Text → m α),
        decodeResponse status body decoder = throw fault) ∨
    ∃ text,
      ∀ {m : Type → Type} [Monad m] [MonadExcept Fault m] {α : Type} (decoder : Text → m α),
        decodeResponse status body decoder = tryCatch (decoder text) fun fault =>
          throw (if fault.isA .valueError then databaseFault text status else fault) := by
  unfold decodeResponse
  split
  next => exact .inl ⟨_, .inr (.inl ⟨_, rfl⟩), fun _ => rfl⟩
  next =>
    split
    next => exact .inl ⟨_, typed_databaseFault _ status, fun _ => rfl⟩
    next text read =>
      split
      next =>
        split
        next => exact .inl ⟨_, .inr (.inl ⟨_, rfl⟩), fun _ => rfl⟩
        next => exact .inr ⟨text, fun _ => rfl⟩
      next =>
        split
        next => exact .inl ⟨_, typed_rejection text status, fun _ => rfl⟩
        next => exact .inl ⟨_, typed_databaseFault text status, fun _ => rfl⟩

def recorded {α : Type} (decoder : Text → Except Fault α) (text : Text) :
    ExceptT Fault (StateM (List Text)) α := do
  modify (· ++ [text])
  decoder text

def decodeRecorded {α : Type} (status : Int) (body : Octets) (decoder : Text → Except Fault α) :
    Except Fault α × List Text :=
  (decodeResponse status body (recorded decoder)).run.run []

/-- What a response with a status and a body comes to, and with which texts the decoder is called
for it. -/
structure Classifies {α : Type} (status : Int) (body : Octets) (decoder : Text → Except Fault α)
    (outcome : Except Fault α) (calls : List Text) : Prop where
  /-- The status alone decides, whatever the body. -/
  unauthorized : status = 401 → outcome = .error (.failure QueryWire.unauthorized) ∧ calls = []
  /-- No other status does so, unless the decoder does. -/
  only_unauthorized : ∀ message, outcome = .error (.failure (.unauthorized message)) →
    status = 401 ∨ ∃ text ∈ calls, decoder text = outcome
  /-- The body is the encoding of no text. -/
  not_utf8 : status ≠ 401 → (∀ text, Utf8.encode text ≠ .ok body) →
    outcome = .error (databaseFault (Utf8.decodeReplacing body) status) ∧ calls = []
  empty : 200 ≤ status → status < 300 → body = [] →
    outcome = .error (.failure emptyResponse) ∧ calls = []
  /-- The decoder has the last word, but for its value faults. -/
  decoded : 200 ≤ status → status < 300 → ∀ text, Utf8.encode text = .ok body → text ≠ [] →
    calls = [text] ∧ outcome = (decoder text).mapError fun fault =>
      if fault.isA .valueError then databaseFault text status else fault
  bad_request : status = 400 → ∀ text, Utf8.encode text = .ok body →
    ((∃ message code errors, outcome = .error (.failure (.badRequest message code errors))) ↔
      ErrorsText text)
  not_found : status = 404 → ∀ text, Utf8.encode text = .ok body →
    ((∃ message code errors, outcome = .error (.failure (.notFound message code errors))) ↔
      ErrorsText text)
  /-- What is too deep to be read as errors is not caught. -/
  too_deep : status = 400 ∨ status = 404 → ∀ text, Utf8.encode text = .ok body → TooDeep text →
    outcome = .error .tooDeep
  otherwise : status ≠ 401 → ¬(200 ≤ status ∧ status < 300) → ∀ text, Utf8.encode text = .ok body →
    ¬((status = 400 ∨ status = 404) ∧ (ErrorsText text ∨ TooDeep text)) →
      outcome = .error (databaseFault text status)
  uncalled : ¬(200 ≤ status ∧ status < 300) → calls = []

section

variable {α : Type} (status : Int) (body : Octets) (decoder : Text → Except Fault α)

theorem decodeRecorded_fst :
    (decodeRecorded status body decoder).1 = decodeResponse status body decoder := by
  unfold decodeRecorded
  obtain ⟨fault, -, failed⟩ | ⟨text, decoded⟩ := decodeResponse_shape status body
  · rw [failed, failed]
    rfl
  · rw [decoded, decoded, recorded]
    cases decoder text <;> rfl

theorem decodeRecorded_unauthorized :
    decodeRecorded 401 body decoder = (.error (.failure unauthorized), []) := rfl

theorem decodeRecorded_of_broken (other : status ≠ 401) (broken : Utf8.decode? body = none) :
    decodeRecorded status body decoder =
      (.error (databaseFault (Utf8.decodeReplacing body) status), []) := by
  simp only [decodeRecorded, decodeResponse, if_neg other, broken]
  rfl

theorem decodeRecorded_of_empty (success : 200 ≤ status ∧ status < 300)
    (read : Utf8.decode? body = some []) :
    decodeRecorded status body decoder = (.error (.failure emptyResponse), []) := by
  have other : status ≠ 401 := by omega
  simp only [decodeRecorded, decodeResponse, if_neg other, read, if_pos success]
  rfl

theorem decodeRecorded_of_success (text : Text) (success : 200 ≤ status ∧ status < 300)
    (read : Utf8.decode? body = some text) (full : text ≠ []) :
    decodeRecorded status body decoder =
      ((decoder text).mapError fun fault =>
        if fault.isA .valueError then databaseFault text status else fault, [text]) := by
  have other : status ≠ 401 := by omega
  have visible : ¬text.isEmpty = true := fun empty => full (List.isEmpty_iff.mp empty)
  simp only [decodeRecorded, decodeResponse, if_neg other, read, if_pos success, if_neg visible,
    recorded]
  cases decoder text <;> rfl

theorem decodeRecorded_of_rejection (text : Text) (rejected : status = 400 ∨ status = 404)
    (read : Utf8.decode? body = some text) :
    decodeRecorded status body decoder = (.error (rejection status text), []) := by
  have other : status ≠ 401 := by omega
  have failed : ¬(200 ≤ status ∧ status < 300) := by omega
  simp only [decodeRecorded, decodeResponse, if_neg other, read, if_neg failed, if_pos rejected]
  rfl

theorem decodeRecorded_of_failure (text : Text) (other : status ≠ 401)
    (failed : ¬(200 ≤ status ∧ status < 300)) (untyped : ¬(status = 400 ∨ status = 404))
    (read : Utf8.decode? body = some text) :
    decodeRecorded status body decoder = (.error (databaseFault text status), []) := by
  simp only [decodeRecorded, decodeResponse, if_neg other, read, if_neg failed, if_neg untyped]
  rfl

theorem decodeRecorded_calls (failed : ¬(200 ≤ status ∧ status < 300)) :
    (decodeRecorded status body decoder).2 = [] := by
  by_cases unauthorized : status = 401
  · rw [unauthorized, decodeRecorded_unauthorized]
  cases read : Utf8.decode? body with
  | none => rw [decodeRecorded_of_broken status body decoder unauthorized read]
  | some text =>
    by_cases rejected : status = 400 ∨ status = 404
    · rw [decodeRecorded_of_rejection status body decoder text rejected read]
    · rw [decodeRecorded_of_failure status body decoder text unauthorized failed rejected read]

end

theorem decodeRecorded_of_text {α : Type} (status : Int) (body : Octets)
    (decoder : Text → Except Fault α) (text : Text) (other : status ≠ 401)
    (read : Utf8.decode? body = some text) :
    decodeRecorded status body decoder =
        ((decoder text).mapError fun fault =>
          if fault.isA .valueError then databaseFault text status else fault, [text]) ∨
      ∃ fault, decodeRecorded status body decoder = (.error fault, []) ∧
        (fault = .failure emptyResponse ∨ fault = databaseFault text status ∨
          fault = rejection status text) := by
  by_cases success : 200 ≤ status ∧ status < 300
  · by_cases empty : text = []
    · exact .inr ⟨_, decodeRecorded_of_empty status body decoder success (empty ▸ read), .inl rfl⟩
    · exact .inl (decodeRecorded_of_success status body decoder text success read empty)
  · by_cases rejected : status = 400 ∨ status = 404
    · exact .inr ⟨_, decodeRecorded_of_rejection status body decoder text rejected read,
        .inr (.inr rfl)⟩
    · exact .inr ⟨_, decodeRecorded_of_failure status body decoder text other success rejected read,
        .inr (.inl rfl)⟩

/-- A response is left to the decoder, with its text, or it fails in one of four ways. -/
theorem decodeRecorded_cases {α : Type} (status : Int) (body : Octets)
    (decoder : Text → Except Fault α) :
    (∃ text, decodeRecorded status body decoder =
      ((decoder text).mapError fun fault =>
        if fault.isA .valueError then databaseFault text status else fault, [text])) ∨
    ∃ fault, decodeRecorded status body decoder = (.error fault, []) ∧
      (fault = .failure unauthorized ∨ fault = .failure emptyResponse ∨
        ∃ text, fault = databaseFault text status ∨ fault = rejection status text) := by
  by_cases unauthorized : status = 401
  · rw [unauthorized, decodeRecorded_unauthorized]
    exact .inr ⟨_, rfl, .inl rfl⟩
  cases read : Utf8.decode? body with
  | none =>
    rw [decodeRecorded_of_broken status body decoder unauthorized read]
    exact .inr ⟨_, rfl, .inr (.inr ⟨_, .inl rfl⟩)⟩
  | some text =>
    obtain decoded | ⟨fault, failed, empty | told⟩ :=
      decodeRecorded_of_text status body decoder text unauthorized read
    · exact .inl ⟨text, decoded⟩
    · exact .inr ⟨fault, failed, .inr (.inl empty)⟩
    · exact .inr ⟨fault, failed, .inr (.inr ⟨text, told⟩)⟩

omit [Platform] in
theorem reported_cases {α : Type} (decoder : Text → Except Fault α) (text : Text) (status : Int) :
    ((decoder text).mapError fun fault =>
        if fault.isA .valueError then databaseFault text status else fault) = decoder text ∨
      ((decoder text).mapError fun fault =>
        if fault.isA .valueError then databaseFault text status else fault) =
          .error (databaseFault text status) := by
  cases decoder text with
  | ok value => exact .inl rfl
  | error fault =>
    by_cases refused : fault.isA .valueError = true
    · exact .inr (congrArg Except.error (if_pos refused))
    · exact .inl (congrArg Except.error (if_neg refused))

omit [Platform] in
theorem databaseFault_ne (text : Text) (status : Int) (cause : Failure Value)
    (same : databaseFault text status = .failure cause) :
    ∃ message, cause = .database message (.text text) (.int status) := by
  by_cases fits : Numeral.fits status = true
  · rw [databaseFault_of_fits text status fits] at same
    cases same
    exact ⟨_, rfl⟩
  · rw [databaseFault_of_long text status fits] at same
    nomatch same

theorem rejection_iff (status : Int) (text : Text) (expected : Text → Value → Value → Failure Value)
    (own : ∀ message code errors,
      (if status = 400 then Failure.badRequest message code errors
        else .notFound message code errors) = expected message code errors)
    (typed : ∀ message code errors cause body, expected message code errors ≠
      .database cause body (.int status)) :
    (∃ message code errors,
        rejection status text = .failure (expected message code errors)) ↔ ErrorsText text := by
  constructor
  · rintro ⟨message, code, errors, rejected⟩
    obtain ⟨errorsText, -⟩ | ⟨-, told⟩ | ⟨-, -, told⟩ := rejection_cases status text
    · exact errorsText
    · rw [told] at rejected
      nomatch rejected
    · obtain ⟨cause, same⟩ := databaseFault_ne text status _ (told ▸ rejected)
      exact (typed _ _ _ _ _ same).elim
  · intro errorsText
    obtain ⟨message, code, errors, rejected⟩ := rejection_of_errorsText status text errorsText
    exact ⟨message, code, errors, by rw [rejected, own]⟩

theorem rejection_ne_unauthorized (status : Int) (text : Text) (message : Value) :
    rejection status text ≠ .failure (.unauthorized message) := by
  intro ended
  obtain ⟨-, _, _, _, rejected⟩ | ⟨-, rejected⟩ | ⟨-, -, rejected⟩ := rejection_cases status text
  · rw [rejected] at ended
    split at ended <;> nomatch ended
  · rw [rejected] at ended
    nomatch ended
  · rw [rejected] at ended
    nomatch databaseFault_ne text status _ ended

theorem decodeRecorded_unauthorized_inv {α : Type} (status : Int) (body : Octets)
    (decoder : Text → Except Fault α) (message : Value)
    (ended : (decodeRecorded status body decoder).1 = .error (.failure (.unauthorized message))) :
    status = 401 ∨ ∃ text ∈ (decodeRecorded status body decoder).2,
      decoder text = (decodeRecorded status body decoder).1 := by
  by_cases unauthorized : status = 401
  · exact .inl unauthorized
  refine .inr ?_
  cases read : Utf8.decode? body with
  | none =>
    rw [decodeRecorded_of_broken status body decoder unauthorized read] at ended
    nomatch databaseFault_ne _ _ _ (Except.error.inj ended)
  | some text =>
    obtain decoded | ⟨fault, failed, told⟩ :=
      decodeRecorded_of_text status body decoder text unauthorized read
    · rw [decoded] at ended ⊢
      obtain same | told := reported_cases decoder text status
      · exact ⟨text, .head _, same.symm⟩
      · rw [told] at ended
        nomatch databaseFault_ne _ _ _ (Except.error.inj ended)
    · rw [failed] at ended
      have same := Except.error.inj ended
      obtain empty | failure | rejected := told
      · nomatch empty.symm.trans same
      · nomatch databaseFault_ne _ _ _ (failure.symm.trans same)
      · exact (rejection_ne_unauthorized _ _ _ (rejected.symm.trans same)).elim

/-- The classification of every response, for every decoder. -/
theorem classifies {α : Type} (status : Int) (body : Octets) (decoder : Text → Except Fault α) :
    Classifies status body decoder (decodeRecorded status body decoder).1
      (decodeRecorded status body decoder).2 where
  unauthorized same := by
    rw [same, decodeRecorded_unauthorized]
    exact ⟨rfl, rfl⟩
  only_unauthorized message ended :=
    decodeRecorded_unauthorized_inv status body decoder message ended
  not_utf8 other broken := by
    have unread : Utf8.decode? body = none := by
      cases read : Utf8.decode? body with
      | none => rfl
      | some text => exact (broken text ((Utf8.decode?_eq_some_iff body text).mp read)).elim
    rw [decodeRecorded_of_broken status body decoder other unread]
    exact ⟨rfl, rfl⟩
  empty least most same := by
    have read : Utf8.decode? body = some [] := by rw [same]; rfl
    rw [decodeRecorded_of_empty status body decoder ⟨least, most⟩ read]
    exact ⟨rfl, rfl⟩
  decoded least most text encoded full := by
    have read := (Utf8.decode?_eq_some_iff body text).mpr encoded
    rw [decodeRecorded_of_success status body decoder text ⟨least, most⟩ read full]
    exact ⟨rfl, rfl⟩
  bad_request same text encoded := by
    have read := (Utf8.decode?_eq_some_iff body text).mpr encoded
    rw [decodeRecorded_of_rejection status body decoder text (.inl same) read]
    simp only [Except.error.injEq]
    exact rejection_iff status text .badRequest (fun _ _ _ => if_pos same) nofun
  not_found same text encoded := by
    have read := (Utf8.decode?_eq_some_iff body text).mpr encoded
    rw [decodeRecorded_of_rejection status body decoder text (.inr same) read]
    simp only [Except.error.injEq]
    exact rejection_iff status text .notFound (fun _ _ _ => if_neg (by omega)) nofun
  too_deep rejected text encoded deep := by
    have read := (Utf8.decode?_eq_some_iff body text).mpr encoded
    rw [decodeRecorded_of_rejection status body decoder text rejected read,
      rejection_of_tooDeep status text deep]
  otherwise other failed text encoded plain := by
    have read := (Utf8.decode?_eq_some_iff body text).mpr encoded
    by_cases rejected : status = 400 ∨ status = 404
    · rw [decodeRecorded_of_rejection status body decoder text rejected read,
        rejection_otherwise status text (fun errorsText => plain ⟨rejected, .inl errorsText⟩)
          fun deep => plain ⟨rejected, .inr deep⟩]
    · rw [decodeRecorded_of_failure status body decoder text other failed rejected read]
  uncalled failed := decodeRecorded_calls status body decoder failed

theorem parseResponse_cases (text : Text) (shallow : ¬TooDeep text) :
    (∃ resource, parseResponse text = .ok (.response resource)) ∨
      ∃ fault, parseResponse text = .error fault ∧ fault.isA .valueError = true := by
  by_cases unread : ∀ json, Json.parse Platform.nesting text ≠ .ok json
  · obtain ⟨fault, stopped, kind⟩ := loads_error text unread shallow
    exact .inr ⟨fault, by rw [parseResponse, stopped]; rfl, kind⟩
  · simp only [ne_eq, not_forall, not_not] at unread
    obtain ⟨json, parsed⟩ := unread
    rw [parseResponse, loads_of_parse text json parsed]
    cases json with
    | object members => exact .inl ⟨_, rfl⟩
    | _ => exact .inr ⟨_, rfl, rfl⟩

theorem parseResponse_of_tooDeep (text : Text) (deep : TooDeep text) :
    parseResponse text = .error .tooDeep := by
  rw [parseResponse, loads_of_tooDeep text deep]
  rfl

theorem typed_response (status : Int) (body : Octets) :
    Typed (decodeResponse status body Decoder.response) := by
  obtain ⟨fault, typed, failed⟩ | ⟨text, decoded⟩ := decodeResponse_shape status body
  · rw [failed]
    exact typed
  rw [decoded, Decoder.response]
  by_cases deep : TooDeep text
  · rw [parseResponse_of_tooDeep text deep]
    exact .inr (.inr (.inr rfl))
  obtain ⟨resource, parsed⟩ | ⟨fault, refused, kind⟩ := parseResponse_cases text deep
  · exact .inl ⟨resource, by rw [parsed]; rfl⟩
  · rw [refused]
    change Typed (.error (if fault.isA .valueError then databaseFault text status else fault))
    rw [if_pos kind]
    exact typed_databaseFault text status

/-- A status that cannot be written has no meaning of its own, and there is no failure to tell of
it. -/
theorem decodeResponse_of_long {α : Type} (status : Int) (body : Octets)
    (decoder : Text → Except Fault α) (long : ¬Numeral.fits status = true) :
    decodeResponse status body decoder = .error .tooManyDigits := by
  have large : ¬status.natAbs < 10 ^ 3 := fun small => long (Numeral.fits_of_small status small)
  have other : status ≠ 401 := by omega
  rw [← decodeRecorded_fst]
  cases read : Utf8.decode? body with
  | none =>
    rw [decodeRecorded_of_broken status body decoder other read,
      databaseFault_of_long _ status long]
  | some text =>
    rw [decodeRecorded_of_failure status body decoder text other (by omega) (by omega) read,
      databaseFault_of_long text status long]

def Overdeep (status : Int) (body : Octets) : Prop :=
  (200 ≤ status ∧ status < 300 ∨ status = 400 ∨ status = 404) ∧
    ∃ text, Utf8.encode text = .ok body ∧ TooDeep text

theorem decodeResponse_of_overdeep (status : Int) (body : Octets) (deep : Overdeep status body) :
    decodeResponse status body Decoder.response = .error .tooDeep := by
  obtain ⟨success | rejected, text, encoded, deep⟩ := deep
  · have full : text ≠ [] := by
      rintro rfl
      nomatch deep
    obtain ⟨-, decoded⟩ :=
      (classifies status body Decoder.response).decoded success.1 success.2 text encoded full
    rw [← decodeRecorded_fst, decoded, Decoder.response, parseResponse_of_tooDeep text deep]
    rfl
  · rw [← decodeRecorded_fst]
    exact (classifies status body Decoder.response).too_deep rejected text encoded deep

theorem decodeResponse_typed (status : Int) (body : Octets) (fits : Numeral.fits status = true)
    (shallow : ¬Overdeep status body) :
    (∃ resource, decodeResponse status body Decoder.response = .ok (.response resource)) ∨
      ∃ cause, decodeResponse status body Decoder.response = .error (.failure cause) := by
  have told (text : Text) : ∃ cause, databaseFault text status = .failure cause :=
    ⟨_, databaseFault_of_fits text status fits⟩
  rw [← decodeRecorded_fst]
  by_cases unauthorized : status = 401
  · exact .inr ⟨_, by rw [unauthorized, decodeRecorded_unauthorized]⟩
  cases read : Utf8.decode? body with
  | none =>
    rw [decodeRecorded_of_broken status body _ unauthorized read]
    obtain ⟨cause, same⟩ := told (Utf8.decodeReplacing body)
    exact .inr ⟨cause, congrArg Except.error same⟩
  | some text =>
    have encoded := (Utf8.decode?_eq_some_iff body text).mp read
    obtain ⟨cause, same⟩ := told text
    by_cases success : 200 ≤ status ∧ status < 300
    · by_cases empty : text = []
      · rw [decodeRecorded_of_empty status body _ success (empty ▸ read)]
        exact .inr ⟨_, rfl⟩
      rw [decodeRecorded_of_success status body _ text success read empty, Decoder.response]
      obtain ⟨resource, parsed⟩ | ⟨fault, refused, kind⟩ := parseResponse_cases text
        fun deep => shallow ⟨.inl success, text, encoded, deep⟩
      · exact .inl ⟨resource, by rw [parsed]; rfl⟩
      · refine .inr ⟨cause, ?_⟩
        rw [refused, ← same]
        exact congrArg Except.error (if_pos kind)
    · by_cases rejected : status = 400 ∨ status = 404
      · rw [decodeRecorded_of_rejection status body _ text rejected read]
        obtain ⟨-, _, _, _, failed⟩ | ⟨deep, -⟩ | ⟨-, -, failed⟩ := rejection_cases status text
        · exact .inr ⟨_, congrArg _ failed⟩
        · exact (shallow ⟨.inr rejected, text, encoded, deep⟩).elim
        · exact .inr ⟨cause, congrArg Except.error (failed.trans same)⟩
      · rw [decodeRecorded_of_failure status body _ text unauthorized success rejected read]
        exact .inr ⟨cause, congrArg Except.error same⟩

/-- Every response is classified, for every decoder, where a failed response tells its status and
its text. A status too long to be written ends in a value fault whatever the body is, and a text too
deep to be read ends in the fault of the reader. Otherwise the default decoder leaves nothing but
responses and failures of the library. -/
theorem decodeResponse_exact (status : Int) (body : Octets) :
    (∀ {α : Type} (decoder : Text → Except Fault α),
      Classifies status body decoder (decodeResponse status body decoder)
        (decodeRecorded status body decoder).2 ∧
      (decodeRecorded status body decoder).1 = decodeResponse status body decoder) ∧
    (Numeral.fits status = true → ∀ text, databaseFault text status = .failure (.database
      ("Database error (status " ++ Numeral.ofInt status ++ "): " ++ text) (.text text)
      (.int status))) ∧
    (¬Numeral.fits status = true →
      decodeResponse status body Decoder.response = .error .tooManyDigits) ∧
    (Overdeep status body → decodeResponse status body Decoder.response = .error .tooDeep) ∧
    (Numeral.fits status = true → ¬Overdeep status body →
      (∃ resource, decodeResponse status body Decoder.response = .ok (.response resource)) ∨
        ∃ cause, decodeResponse status body Decoder.response = .error (.failure cause)) := by
  refine ⟨?_, fun fits text => databaseFault_of_fits text status fits,
    decodeResponse_of_long status body Decoder.response, decodeResponse_of_overdeep status body,
    decodeResponse_typed status body⟩
  intro α decoder
  have same := decodeRecorded_fst status body decoder
  exact ⟨same ▸ classifies status body decoder, same⟩

omit [Platform] in
theorem encode_brackets (count : Nat) :
    Utf8.encode (List.replicate count (.ofChar '[')) = .ok (List.replicate count 0x5B) := by
  induction count with
  | zero => rfl
  | succ count ih =>
    have one : Utf8.encode [.ofChar '['] = .ok [0x5B] := rfl
    exact Utf8.encode_append _ _ _ _ one ih

theorem overdeep_brackets (status : Int) (rejected : status = 400 ∨ status = 404) (count : Nat)
    (exceeds : Platform.nesting < count) : Overdeep status (List.replicate count 0x5B) := by
  refine ⟨.inr rejected, _, encode_brackets count, ?_⟩
  have unread := Json.parse_overfull Platform.nesting count exceeds []
  rwa [List.append_nil] at unread

end

/-- A rejected query whose body opens too much is told by no failure of the library. -/
theorem brackets_escape :
    decodeResponse 400 (List.replicate 100000 0x5B) Decoder.response =
        .error (.ambient .recursionError []) ∧
      ¬∃ cause, decodeResponse 400 (List.replicate 100000 0x5B) Decoder.response =
        .error (.failure cause) := by
  have deep : Overdeep 400 (List.replicate 100000 0x5B) :=
    overdeep_brackets 400 (.inl rfl) 100000 (by decide)
  have ended := decodeResponse_of_overdeep 400 _ deep
  refine ⟨ended, ?_⟩
  rintro ⟨cause, other⟩
  cases ended.symm.trans other

end QueryWire
