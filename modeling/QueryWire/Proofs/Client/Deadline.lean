import QueryWire.Proofs.Client.Interruption
import QueryWire.Proofs.Expr.Stray

/-!
Where timeouts come from. A query is told to have timed out if its reply stalls or breaks off with a
timeout of the transport, but also if what breaks it off, or what its decoder ends in, is the fault
that a deadline raises: nothing tells that fault from a deadline that has passed.
-/

namespace QueryWire

namespace Fault

def TimedOut (fault : Fault) : Prop :=
  ∃ message code, fault = .failure (.plain .timeout message code)

/-- A fault that comes out as a timeout: it tells of one already, or is what a deadline raises. -/
def Late (fault : Fault) : Prop := fault.isA .deadline = true ∨ fault.TimedOut

variable {fault : Fault}

theorem timedOut_deadlineFault_iff (timeout : Binary64) :
    (deadlineFault timeout fault).TimedOut ↔ fault.Late := by
  rw [deadlineFault]
  split
  next raised => exact iff_of_true ⟨_, _, rfl⟩ (.inl raised)
  next punctual => exact (or_iff_right punctual).symm

theorem not_late_failure {cause : Failure Value}
    (other : ∀ message code, cause ≠ .plain .timeout message code) :
    ¬(Fault.failure cause).Late := by
  rintro (raised | ⟨message, code, same⟩)
  · cases raised
  · exact other message code (failure.inj same)

theorem late_plain_iff {kind : Failure.Kind} (message code : Value) :
    (Fault.failure (.plain kind message code)).Late ↔ kind = .timeout := by
  constructor
  · rintro (raised | ⟨_, _, same⟩)
    · cases raised
    · cases same
      rfl
  · rintro rfl
    exact .inr ⟨message, code, rfl⟩

theorem late_ambient_iff {kind : FaultKind} (message : Text) :
    (Fault.ambient kind message).Late ↔ kind = .deadline := by
  constructor
  · rintro (raised | ⟨_, _, same⟩)
    · exact kind.isA_deadline_iff.mp raised
    · cases same
  · exact fun same => .inl (kind.isA_deadline_iff.mpr same)

theorem punctual_of_exhausted (exhausted : fault.isA .stopIteration = true) :
    fault.isA .deadline = false := by
  cases fault with
  | failure cause => rfl
  | refused kind message | ambient kind message =>
    obtain rfl : kind = .stopIteration := kind.isA_stopIteration_iff.mp exhausted
    rfl

theorem late_leave_iff : fault.leave.Late ↔ fault.Late := by
  rw [leave]
  split
  next exhausted =>
    refine iff_of_false ((late_ambient_iff _).not.mpr (by decide)) ?_
    rintro (raised | ⟨_, _, rfl⟩)
    · rw [punctual_of_exhausted exhausted] at raised
      cases raised
    · cases exhausted
  next => exact Iff.rfl

theorem deadlineFault_leave (timeout : Binary64) :
    deadlineFault timeout fault.leave =
      if fault.isA .deadline then
        .timeout ("Request timed out after " ++ timeout.toText ++ "s")
      else if fault.isA .stopIteration then
        .ambient .runtimeError "coroutine raised StopIteration"
      else fault := by
  by_cases exhausted : fault.isA .stopIteration = true
  · rw [leave, if_pos exhausted, punctual_of_exhausted exhausted]
    rfl
  · rw [leave, if_neg exhausted, deadlineFault]

theorem Late.not_valueError (late : fault.Late) : ¬fault.isA .valueError = true := by
  obtain raised | ⟨message, code, rfl⟩ := late
  · cases fault with
    | failure cause => cases raised
    | refused kind message | ambient kind message =>
      obtain rfl : kind = .deadline := kind.isA_deadline_iff.mp raised
      exact Bool.false_ne_true
  · exact Bool.false_ne_true

end Fault

/-- A serialization never ends in a timeout. -/
theorem Value.not_timedOut_of_serialize (value : Value) (store : Store) (fault : Fault)
    (ended : (serialize value).outcome store = .error fault) : ¬fault.TimedOut := by
  rintro ⟨message, code, rfl⟩
  have tame := value.converted_tame store
  rw [outcome_serialize] at ended
  cases made : (store.expr value).bind fun node => node.written.outcome store with
  | ok content =>
    rw [made] at ended
    cases ended
  | error cause =>
    rw [made] at ended
    have same := Except.error.inj ended
    obtain ⟨shown, reported⟩ | ⟨kind, -, other⟩ := (tame cause made).reports
    · rw [reported] at same
      cases same
    · rw [same] at other
      cases other

section Responses

variable [Platform]

omit [Platform] in
theorem not_late_databaseFault (text : Text) (status : Int) :
    ¬(databaseFault text status).Late := by
  rintro (raised | ⟨message, code, same⟩)
  · rw [(typed_databaseFault text status).passes.punctual] at raised
    cases raised
  · obtain ⟨shown, other⟩ := databaseFault_ne text status _ same
    cases other

theorem not_late_rejection (text : Text) (status : Int) : ¬(rejection status text).Late := by
  obtain ⟨-, _, _, _, rejected⟩ | ⟨-, rejected⟩ | ⟨-, -, rejected⟩ := rejection_cases status text
  · rw [rejected]
    refine Fault.not_late_failure fun message code same => ?_
    split at same <;> cases same
  · rw [rejected]
    exact (Fault.late_ambient_iff _).not.mpr (by decide)
  · rw [rejected]
    exact not_late_databaseFault text status

/-- The decoding of a response ends late exactly if the decoder does. -/
theorem late_decodeResponse_iff (status : Int) (body : Octets) (decoder : Decoder) :
    (∃ fault, decodeResponse status body decoder = .error fault ∧ fault.Late) ↔
      ∃ text ∈ (decodeRecorded status body decoder).2, ∃ fault,
        decoder text = .error fault ∧ fault.Late := by
  rw [← decodeRecorded_fst]
  obtain ⟨text, recorded⟩ | ⟨cause, recorded, told⟩ := decodeRecorded_cases status body decoder
  · rw [recorded]
    simp only [List.mem_singleton, exists_eq_left]
    cases decided : decoder text with
    | ok value =>
      constructor
      · rintro ⟨_, ⟨⟩, -⟩
      · rintro ⟨_, ⟨⟩, -⟩
    | error fault =>
      constructor
      · rintro ⟨_, ⟨⟩, late⟩
        dsimp only at late
        split at late
        next => exact (not_late_databaseFault text status late).elim
        next => exact ⟨fault, rfl, late⟩
      · rintro ⟨_, ⟨⟩, late⟩
        exact ⟨fault, congrArg Except.error (if_neg late.not_valueError), late⟩
  · have punctual : ¬cause.Late := by
      obtain same | same | ⟨text, same | same⟩ := told <;> rw [same]
      · exact Fault.not_late_failure nofun
      · exact Fault.not_late_failure nofun
      · exact not_late_databaseFault text status
      · exact not_late_rejection text status
    rw [recorded]
    constructor
    · rintro ⟨_, ⟨⟩, late⟩
      exact (punctual late).elim
    · rintro ⟨_, member, -⟩
      cases member

theorem decodeResponse_of_decoder (status : Int) (body : Octets) (decoder : Decoder) (text : Text)
    (called : text ∈ (decodeRecorded status body decoder).2) (fault : Fault)
    (ended : decoder text = .error fault) (other : fault.isA .valueError = false) :
    decodeResponse status body decoder = .error fault := by
  rw [← decodeRecorded_fst]
  obtain ⟨read, recorded⟩ | ⟨cause, recorded, -⟩ := decodeRecorded_cases status body decoder
  · rw [recorded] at called ⊢
    obtain rfl := List.mem_singleton.mp called
    rw [ended]
    exact congrArg Except.error (if_neg (by rw [other]; exact Bool.false_ne_true))
  · rw [recorded] at called
    cases called

end Responses

namespace Interruption

/-- Time has run out, that of the query or one that the transport keeps. -/
def Elapsed : Interruption → Prop
  | .stalled => True
  | .raised disruption => disruption.kind.isA .timeoutException = true

def Feigned : Interruption → Prop
  | .stalled => False
  | .raised disruption => disruption.kind = .deadline

end Interruption

theorem Phase.late_report_iff (phase : Phase) (interruption : Interruption) :
    (phase.report interruption.fault).Late ↔ interruption.Elapsed ∨ interruption.Feigned := by
  cases interruption with
  | stalled => exact iff_of_true (.inl (by cases phase <;> rfl)) (.inl trivial)
  | raised disruption =>
    rw [Interruption.fault, Interruption.Elapsed, Interruption.Feigned]
    cases caught : phase.catches disruption.kind with
    | true =>
      have genuine : disruption.kind ≠ .deadline := by
        intro feigned
        rw [feigned] at caught
        cases phase <;> cases caught
      obtain ⟨kind, message, reported, timely⟩ := phase.report_of_caught disruption caught
      rw [reported, Fault.late_plain_iff, timely, or_iff_left genuine]
    | false =>
      have punctual : ¬disruption.kind.isA .timeoutException = true := fun elapsed =>
        Bool.eq_false_iff.mp caught
          (phase.catches_of_httpError (disruption.kind.httpError_of_timeoutException elapsed))
      rw [phase.report_of_missed disruption caught, Disruption.fault, Fault.late_leave_iff,
        Disruption.raised, Fault.late_ambient_iff, or_iff_right punctual]

namespace Reply

def interruption? : Reply → Option Interruption
  | .response _ _ (.whole _) => none
  | .response _ _ (.stream stream) => stream.interruption
  | .interrupted interruption => some interruption

variable (reply : Reply)

theorem arrival_of_broken (interruption : Interruption)
    (broken : reply.interruption? = some interruption) :
    ∃ phase : Phase, reply.arrival = .error (phase.report interruption.fault) := by
  cases reply with
  | interrupted other =>
    cases broken
    exact ⟨.sending, rfl⟩
  | response status cookies body =>
    cases body with
    | whole octets => cases broken
    | stream stream =>
      have stopped : stream.interruption = some interruption := broken
      refine ⟨.reading, ?_⟩
      rw [arrival, Body.readAll, Stream.readAll, stopped]
      rfl

theorem arrival_of_whole (whole : reply.interruption? = none) :
    ∃ status body, reply.arrival = .ok (status, body) := by
  cases reply with
  | interrupted interruption => cases whole
  | response status cookies body =>
    cases body with
    | whole octets => exact ⟨status, octets, rfl⟩
    | stream stream =>
      have ends : stream.interruption = none := whole
      refine ⟨status, stream.chunks.flatten, ?_⟩
      rw [arrival, Body.readAll, Stream.readAll, ends]
      rfl

def BreaksOffLate : Prop :=
  ∃ interruption, reply.interruption? = some interruption ∧
    (interruption.Elapsed ∨ interruption.Feigned)

variable [Platform]

def DecodesLate (decoder : Decoder) : Prop :=
  ∃ text ∈ reply.decoded decoder, ∃ fault, decoder text = .error fault ∧ fault.Late

theorem late_iff (decoder : Decoder) :
    (∃ fault, reply.verdict decoder = .error fault ∧ fault.Late) ↔
      reply.BreaksOffLate ∨ reply.DecodesLate decoder := by
  cases found : reply.interruption? with
  | some interruption =>
    obtain ⟨phase, arrived⟩ := reply.arrival_of_broken interruption found
    have uncalled : ¬reply.DecodesLate decoder := by
      rintro ⟨text, called, -⟩
      rw [decoded, arrived] at called
      cases called
    have broken : reply.BreaksOffLate ↔ interruption.Elapsed ∨ interruption.Feigned := by
      simp only [BreaksOffLate, found, Option.some.injEq, exists_eq_left']
    rw [or_iff_left uncalled, broken, ← phase.late_report_iff, verdict, arrived]
    constructor
    · rintro ⟨_, ⟨⟩, late⟩
      exact late
    · exact fun late => ⟨_, rfl, late⟩
  | none =>
    obtain ⟨status, body, arrived⟩ := reply.arrival_of_whole found
    have unbroken : ¬reply.BreaksOffLate := by
      rintro ⟨interruption, broken, -⟩
      rw [found] at broken
      cases broken
    rw [or_iff_right unbroken, DecodesLate, decoded, verdict, arrived,
      ← late_decodeResponse_iff status body decoder]
    change (∃ fault, (decodeResponse status body decoder).mapError _ = .error fault ∧ _) ↔ _
    cases decodeResponse status body decoder with
    | ok value =>
      constructor
      · rintro ⟨_, ⟨⟩, -⟩
      · rintro ⟨_, ⟨⟩, -⟩
    | error fault =>
      constructor
      · rintro ⟨_, ⟨⟩, late⟩
        exact ⟨fault, rfl, Fault.late_leave_iff.mp late⟩
      · rintro ⟨_, ⟨⟩, late⟩
        exact ⟨_, rfl, Fault.late_leave_iff.mpr late⟩

end Reply

section

variable [Platform]

def Report.TimedOut (report : Report) : Prop :=
  ∃ fault, report.result = .error fault ∧ fault.TimedOut

theorem Dispatch.timedOut_iff (dispatch : Dispatch) (decoder : Decoder) (reply : Reply) :
    (dispatch.report decoder reply).TimedOut ↔
      reply.BreaksOffLate ∨ reply.DecodesLate decoder := by
  rw [← reply.late_iff, Report.TimedOut, result_report]
  cases reply.verdict decoder with
  | ok value =>
    constructor
    · rintro ⟨_, ⟨⟩, -⟩
    · rintro ⟨_, ⟨⟩, -⟩
  | error fault =>
    constructor
    · rintro ⟨_, ⟨⟩, told⟩
      exact ⟨fault, rfl, (Fault.timedOut_deadlineFault_iff _).mp told⟩
    · rintro ⟨_, ⟨⟩, late⟩
      exact ⟨_, rfl, (Fault.timedOut_deadlineFault_iff _).mpr late⟩

/-- What a decoder ends in is what the query ends in, but for value faults, which make a failed
response of it, and for what a deadline or the end of an iteration raises. -/
theorem Dispatch.result_of_decoder (dispatch : Dispatch) (decoder : Decoder) (reply : Reply)
    (text : Text) (called : text ∈ reply.decoded decoder) (fault : Fault)
    (ended : decoder text = .error fault) (other : fault.isA .valueError = false) :
    (dispatch.report decoder reply).result =
      .error (deadlineFault dispatch.client.endpoint.timeout fault.leave) := by
  rw [result_report, Reply.verdict]
  rw [Reply.decoded] at called
  cases arrived : reply.arrival with
  | error cause =>
    rw [arrived] at called
    cases called
  | ok arrival =>
    obtain ⟨status, body⟩ := arrival
    rw [arrived] at called
    have decoded := decodeResponse_of_decoder status body decoder text called fault ended other
    change ((decodeResponse status body decoder).mapError _).mapError _ = _
    rw [decoded]
    rfl

/-- A query of an open client is told to have timed out exactly if it is sent and its reply breaks
off late or is decoded late. Of the faults of a decoder that are no value faults, only the one that
a deadline raises and the end of an iteration, which no coroutine lets out, do not come out as they
are. -/
theorem Client.timedOut_exact (client : Client) (opened : client.isOpen = true) (value : Value)
    (decoder : Decoder) (reply : Reply) (store : Store) :
    ((client.report value decoder reply store).TimedOut ↔
      (∃ payload, (serialize value).outcome store = .ok payload) ∧
        client.endpoint.uri.isSendable = true ∧
        (reply.BreaksOffLate ∨ reply.DecodesLate decoder)) ∧
    ∀ text ∈ (client.report value decoder reply store).trace.decoded, ∀ fault,
      decoder text = .error fault → fault.isA .valueError = false →
        (client.report value decoder reply store).result = .error
          (if fault.isA .deadline then
            .timeout ("Request timed out after " ++ client.endpoint.timeout.toText ++ "s")
          else if fault.isA .stopIteration then
            .ambient .runtimeError "coroutine raised StopIteration"
          else fault) := by
  cases serialized : (serialize value).outcome store with
  | error cause =>
    rw [client.report_unserialized value decoder reply store opened cause serialized]
    constructor
    · constructor
      · rintro ⟨_, ⟨⟩, told⟩
        exact (value.not_timedOut_of_serialize store cause serialized told).elim
      · rintro ⟨⟨_, ⟨⟩⟩, -⟩
    · intro text called
      cases called
  | ok payload =>
    cases sendable : client.endpoint.uri.isSendable with
    | true =>
      let dispatch : Dispatch := ⟨client, value, store, payload, opened, sendable, serialized⟩
      constructor
      · have late := dispatch.timedOut_iff decoder reply
        exact late.trans ⟨fun late => ⟨⟨payload, rfl⟩, rfl, late⟩, fun sent => sent.2.2⟩
      · intro text called fault ended other
        have decoded : text ∈ reply.decoded decoder :=
          dispatch.decoded_report decoder reply ▸ called
        rw [← Fault.deadlineFault_leave]
        exact dispatch.result_of_decoder decoder reply text decoded fault ended other
    | false =>
      rw [client.report_unsendable value decoder reply store opened sendable payload serialized]
      constructor
      · constructor
        · rintro ⟨_, ⟨⟩, _, _, same⟩
          cases same
        · rintro ⟨-, sent, -⟩
          cases sent
      · intro text called
        cases called

end

/-- The body of a response stalls, and the query is told to have timed out. -/
theorem Client.timedOut_nearby :
    nearby.isOpen = true ∧
      (nearby.report (.text "\u00e9") .response ((Stage.reading 200 [] []).reply .stalled)
        .empty).TimedOut := by
  obtain ⟨timedOut, -⟩ := nearby.timedOut_exact rfl (.text "\u00e9") .response
    ((Stage.reading 200 [] []).reply .stalled) .empty
  have sent : ∃ payload, (serialize (.text "\u00e9")).outcome .empty = .ok payload :=
    ⟨_, Dispatch.nearby.serialized⟩
  exact ⟨rfl, timedOut.mpr ⟨sent, rfl, .inl ⟨.stalled, rfl, .inl trivial⟩⟩⟩

/-- A response arrives as a whole, and its decoder ends in the fault that a deadline raises. The
query is told to have timed out, which it has not, and the fault of the decoder is lost. -/
theorem Dispatch.nearby_feigned :
    (Reply.response 200 [] (.whole [0x31])).interruption? = none ∧
      (nearby.report (.failing .deadline) (.response 200 [] (.whole [0x31]))).result =
        .error (.timeout "Request timed out after 1.0s") ∧
      Decoder.failing .deadline "1" = .error (.ambient .deadline []) ∧
      Fault.timeout "Request timed out after 1.0s" ≠ .ambient .deadline [] := by
  refine ⟨rfl, rfl, rfl, ?_⟩
  intro same
  cases same

end QueryWire
