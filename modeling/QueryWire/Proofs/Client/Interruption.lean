import QueryWire.Proofs.Client.Query

/-!
Queries that break off. What a query comes to then is decided by what ended it and by the phase in
which it did: nothing that arrived before is decoded. The two phases do not report the same faults:
some faults of an exchange are reported by one of them only, and some by neither.
-/

namespace QueryWire

inductive Phase where
  | sending
  | reading
deriving DecidableEq

/-- How far an exchange has come: nothing has arrived, or a status and some chunks have. -/
inductive Stage where
  | sending
  | reading (status : Int) (cookies : List Text) (chunks : List Octets)

namespace Stage

def phase : Stage → Phase
  | .sending => .sending
  | .reading _ _ _ => .reading

def reply : Stage → Interruption → Reply
  | .sending, interruption => .interrupted interruption
  | .reading status cookies chunks, interruption =>
    .response status cookies (.stream { chunks, interruption := some interruption })

end Stage

namespace Phase

def report : Phase → Fault → Fault
  | .sending => sendFault
  | .reading => readFault

/-- Whether a fault of some kind is reported as a failure. -/
def catches : Phase → FaultKind → Bool
  | .sending, kind => kind.isA .httpError
  | .reading, kind => kind.isA .httpError || kind.isA .streamError

def timedOut : Phase → Text
  | .sending => "Request timed out: "
  | .reading => "Reading response timed out: "

def failed : Phase → Text
  | .sending => "Request failed: "
  | .reading => "Reading response failed: "

end Phase

namespace FaultKind

theorem httpError_of_transportError (kind : FaultKind) (special : kind.isA .transportError = true) :
    kind.isA .httpError = true := by
  revert special
  cases kind <;> decide

theorem transportError_of_timeoutException (kind : FaultKind)
    (special : kind.isA .timeoutException = true) : kind.isA .transportError = true := by
  revert special
  cases kind <;> decide

theorem httpError_of_timeoutException (kind : FaultKind)
    (special : kind.isA .timeoutException = true) : kind.isA .httpError = true :=
  kind.httpError_of_transportError (kind.transportError_of_timeoutException special)

theorem not_streamError_of_httpError (kind : FaultKind) (special : kind.isA .httpError = true) :
    kind.isA .streamError = false := by
  revert special
  cases kind <;> decide

theorem isA_deadline_iff (kind : FaultKind) : kind.isA .deadline = true ↔ kind = .deadline := by
  cases kind <;> decide

theorem isA_stopIteration_iff (kind : FaultKind) :
    kind.isA .stopIteration = true ↔ kind = .stopIteration := by
  cases kind <;> decide

end FaultKind

theorem Disruption.fault_of_contained (disruption : Disruption)
    (contained : disruption.kind ≠ .stopIteration) : disruption.fault = disruption.raised :=
  Fault.leave_of_contained _ <| Bool.eq_false_iff.mpr fun ended =>
    contained (disruption.kind.isA_stopIteration_iff.mp ended)

theorem Disruption.fault_ne_failure (disruption : Disruption) (cause : Failure Value) :
    disruption.fault ≠ .failure cause := by
  intro same
  rw [fault, Fault.leave] at same
  split at same <;> cases same

def Disruption.failure (disruption : Disruption) (phase : Phase) : Failure Value :=
  if disruption.kind.isA .timeoutException then
    .plain .timeout (.text (phase.timedOut ++ disruption.text)) .null
  else if disruption.kind.isA .transportError then
    .plain .connection (.text (phase.failed ++ disruption.text)) .null
  else .plain .other (.text (phase.failed ++ disruption.text)) .null

namespace Phase

variable (phase : Phase) (disruption : Disruption)

theorem report_of_httpError (network : disruption.kind.isA .httpError = true) :
    phase.report disruption.fault = .failure (disruption.failure phase) := by
  have unstreamed := disruption.kind.not_streamError_of_httpError network
  have contained : disruption.kind ≠ .stopIteration := fun ended => by
    rw [ended] at network
    nomatch network
  rw [disruption.fault_of_contained contained, Disruption.failure, Disruption.raised]
  cases phase with
  | sending =>
    simp only [report, sendFault, network, ↓reduceIte]
    split
    next => rfl
    next =>
      split <;> rfl
  | reading =>
    simp only [report, readFault, network, unstreamed, Bool.or_false, ↓reduceIte]
    split
    next => rfl
    next =>
      split <;> rfl

/-- What is caught is reported as a failure, which tells of a timeout if it was one. -/
theorem report_of_caught (caught : phase.catches disruption.kind = true) :
    ∃ kind message, phase.report disruption.fault = .failure (.plain kind message .null) ∧
      (kind = .timeout ↔ disruption.kind.isA .timeoutException = true) := by
  by_cases network : disruption.kind.isA .httpError = true
  · rw [phase.report_of_httpError disruption network, Disruption.failure]
    by_cases elapsed : disruption.kind.isA .timeoutException = true
    · rw [if_pos elapsed]
      exact ⟨.timeout, _, rfl, iff_of_true rfl elapsed⟩
    rw [if_neg elapsed]
    split
    next => exact ⟨.connection, _, rfl, iff_of_false (by decide) elapsed⟩
    next => exact ⟨.other, _, rfl, iff_of_false (by decide) elapsed⟩
  · cases phase with
    | sending => exact (network caught).elim
    | reading =>
      have streaming : disruption.kind.isA .streamError = true := by
        simpa [catches, network] using caught
      have contained : disruption.kind ≠ .stopIteration := fun ended => by
        rw [ended] at streaming
        nomatch streaming
      have punctual : ¬disruption.kind.isA .timeoutException = true := fun elapsed =>
        network (disruption.kind.httpError_of_timeoutException elapsed)
      refine ⟨.connection, .text (failed .reading ++ disruption.text), ?_,
        iff_of_false (by decide) punctual⟩
      rw [disruption.fault_of_contained contained]
      simp only [report, readFault, Disruption.raised, if_neg punctual, streaming, Bool.or_true,
        ↓reduceIte]
      rfl

theorem catches_of_httpError {kind : FaultKind} (network : kind.isA .httpError = true) :
    phase.catches kind = true := by
  cases phase <;> simp [catches, network]

theorem report_of_missed (missed : phase.catches disruption.kind = false) :
    phase.report disruption.fault = disruption.fault := by
  by_cases ended : disruption.kind = .stopIteration
  · -- the error that it is told as is of neither family
    rw [Disruption.fault, Disruption.raised, ended]
    cases phase <;> rfl
  rw [disruption.fault_of_contained ended]
  have foreign : disruption.kind.isA .httpError = false :=
    Bool.eq_false_iff.mpr fun network =>
      Bool.eq_false_iff.mp missed (phase.catches_of_httpError network)
  have unsent : disruption.kind.isA .transportError = false :=
    Bool.eq_false_iff.mpr fun special =>
      Bool.eq_false_iff.mp foreign (disruption.kind.httpError_of_transportError special)
  have punctual : disruption.kind.isA .timeoutException = false :=
    Bool.eq_false_iff.mpr fun special =>
      Bool.eq_false_iff.mp unsent (disruption.kind.transportError_of_timeoutException special)
  cases phase with
  | sending =>
    simp only [report, sendFault, Disruption.raised, foreign, unsent, punctual, Bool.false_eq_true,
      ↓reduceIte]
  | reading =>
    have whole : disruption.kind.isA .streamError = false := (Bool.or_eq_false_iff.mp missed).2
    simp only [report, readFault, Disruption.raised, foreign, unsent, punctual, whole, Bool.or_self,
      Bool.false_eq_true, ↓reduceIte]

end Phase

namespace Interruption

/-- A stall, or a fault of the network that an exchange stands on. -/
def OfNetwork : Interruption → Prop
  | .stalled => True
  | .raised disruption => disruption.kind.isA .httpError = true

/-- The failure in which a query ends that is broken off in some phase. Only what stalls is told
with the timeout. -/
def failure (phase : Phase) (timeout : Binary64) : Interruption → Failure Value
  | .stalled =>
    .plain .timeout (.text ("Request timed out after " ++ timeout.toText ++ "s")) .null
  | .raised disruption => disruption.failure phase

end Interruption

section

variable [Platform]

namespace Dispatch

variable (dispatch : Dispatch) (decoder : Decoder) (stage : Stage)

/-- What breaks off is reported for the phase first, and then for the deadline. -/
theorem result_interrupted (interruption : Interruption) :
    (dispatch.report decoder (stage.reply interruption)).result =
      .error (deadlineFault dispatch.client.endpoint.timeout
        (stage.phase.report interruption.fault)) := by
  rw [result_report]
  cases stage <;> rfl

theorem decoded_interrupted (interruption : Interruption) :
    (dispatch.report decoder (stage.reply interruption)).trace.decoded = [] := by
  rw [decoded_report]
  cases stage <;> rfl

/-- What breaks a query off decides how it ends, together with the phase and, where it stalls, with
the timeout. Nothing is decoded, whatever has arrived. -/
theorem interruption_decides (interruption : Interruption) (network : interruption.OfNetwork) :
    (dispatch.report decoder (stage.reply interruption)).trace.decoded = [] ∧
    (dispatch.report decoder (stage.reply interruption)).result =
      .error (.failure (interruption.failure stage.phase dispatch.client.endpoint.timeout)) ∧
    ∀ (other : Dispatch) (decoder' : Decoder) (stage' : Stage), stage'.phase = stage.phase →
      (interruption = .stalled →
        other.client.endpoint.timeout = dispatch.client.endpoint.timeout) →
      (other.report decoder' (stage'.reply interruption)).result =
        (dispatch.report decoder (stage.reply interruption)).result := by
  have ends (any : Dispatch) (decoder : Decoder) (stage : Stage) :
      (any.report decoder (stage.reply interruption)).result =
        .error (.failure (interruption.failure stage.phase any.client.endpoint.timeout)) := by
    rw [result_interrupted]
    cases interruption with
    | stalled => cases stage <;> rfl
    | raised disruption =>
      have reported := stage.phase.report_of_httpError disruption network
      rw [Interruption.fault, reported]
      rfl
  refine ⟨dispatch.decoded_interrupted decoder stage interruption, ends dispatch decoder stage, ?_⟩
  intro other decoder' stage' samePhase sameTimeout
  rw [ends, ends, samePhase]
  cases interruption with
  | stalled => rw [sameTimeout rfl]
  | raised disruption => rfl

end Dispatch

end

/-- A response of status 404 has begun to arrive when the reading of its body times out. -/
theorem Dispatch.nearby_interruption_decides :
    (Interruption.raised ⟨.readTimeout, "late"⟩).OfNetwork ∧
      (nearby.report .response
        ((Stage.reading 404 [] [[0x7B]]).reply (.raised ⟨.readTimeout, "late"⟩))).result =
        .error (.timeout "Reading response timed out: late") := by
  have network : (Interruption.raised ⟨.readTimeout, "late"⟩).OfNetwork := rfl
  obtain ⟨-, ended, -⟩ := nearby.interruption_decides .response (.reading 404 [] [[0x7B]])
    (.raised ⟨.readTimeout, "late"⟩) network
  exact ⟨network, ended⟩

section

variable [Platform]

namespace Dispatch

variable (dispatch : Dispatch) (decoder : Decoder) (stage : Stage)

theorem result_caught (disruption : Disruption)
    (caught : stage.phase.catches disruption.kind = true) :
    ∃ cause, (dispatch.report decoder (stage.reply (.raised disruption))).result =
      .error (.failure cause) := by
  obtain ⟨kind, message, reported, -⟩ := stage.phase.report_of_caught disruption caught
  refine ⟨.plain kind message .null, ?_⟩
  rw [result_interrupted, Interruption.fault, reported]
  rfl

theorem result_missed (disruption : Disruption)
    (missed : stage.phase.catches disruption.kind = false)
    (punctual : disruption.kind ≠ .deadline) :
    (dispatch.report decoder (stage.reply (.raised disruption))).result =
      .error disruption.fault := by
  have other : disruption.fault.isA .deadline = false := by
    by_cases ended : disruption.kind = .stopIteration
    · rw [Disruption.fault, Disruption.raised, ended]
      rfl
    · rw [disruption.fault_of_contained ended]
      exact Bool.eq_false_iff.mpr fun late => punctual (disruption.kind.isA_deadline_iff.mp late)
  rw [result_interrupted, Interruption.fault, stage.phase.report_of_missed disruption missed,
    deadlineFault_of_punctual _ _ other]

theorem result_late (message : Text) :
    ∃ cause, (dispatch.report decoder (stage.reply (.raised ⟨.deadline, message⟩))).result =
      .error (.failure cause) := by
  rw [result_interrupted]
  cases stage <;> exact ⟨_, rfl⟩

/-- Whether a query that a fault breaks off ends in a failure is decided by the phase and the kind
of the fault. A fault that is not caught leaves the query as it came. -/
theorem failure_iff_caught (disruption : Disruption) :
    ((∃ cause, (dispatch.report decoder (stage.reply (.raised disruption))).result =
        .error (.failure cause)) ↔
      stage.phase.catches disruption.kind = true ∨ disruption.kind = .deadline) ∧
    ((∃ cause, (dispatch.report decoder (stage.reply (.raised disruption))).result =
        .error (.failure cause)) ∨
      (dispatch.report decoder (stage.reply (.raised disruption))).result =
        .error disruption.fault) := by
  cases caught : stage.phase.catches disruption.kind with
  | true =>
    have ends := dispatch.result_caught decoder stage disruption caught
    exact ⟨⟨fun _ => .inl rfl, fun _ => ends⟩, .inl ends⟩
  | false =>
    by_cases late : disruption.kind = .deadline
    · obtain ⟨kind, message⟩ := disruption
      cases late
      have ends := dispatch.result_late decoder stage message
      exact ⟨⟨fun _ => .inr rfl, fun _ => ends⟩, .inl ends⟩
    · have escapes := dispatch.result_missed decoder stage disruption caught late
      refine ⟨⟨?_, ?_⟩, .inr escapes⟩
      · rintro ⟨cause, ended⟩
        exact (disruption.fault_ne_failure cause
          (Except.error.inj (escapes.symm.trans ended))).elim
      · rintro (caught | late')
        · cases caught
        · exact (late late').elim

end Dispatch

end

/-- An invalid url that is noticed while the request is sent is of neither family and escapes. -/
theorem Dispatch.nearby_escapes :
    (nearby.report .response (Stage.sending.reply (.raised ⟨.invalidUrl, "m"⟩))).result =
        .error (.ambient .invalidUrl "m") ∧
      ¬∃ cause, (nearby.report .response
        (Stage.sending.reply (.raised ⟨.invalidUrl, "m"⟩))).result = .error (.failure cause) := by
  have escapes : (nearby.report .response
      (Stage.sending.reply (.raised ⟨.invalidUrl, "m"⟩))).result =
      .error (.ambient .invalidUrl "m") := rfl
  refine ⟨escapes, ?_⟩
  rintro ⟨cause, ended⟩
  cases Except.error.inj (escapes.symm.trans ended)

end QueryWire
