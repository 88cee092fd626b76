import QueryWire.Proofs.Client.Building
import QueryWire.Proofs.Number.Order

/-!
The timeouts of clients. What is zero or less is refused, and so is what stands for no number of
seconds, so no client has such a timeout. A NaN is neither zero nor less: it is accepted, and the
clients that are built before another timeout is accepted have one that is not greater than zero.
-/

namespace QueryWire

theorem Binary64.isNaN_anonymous (number : Binary64) : number.anonymous.IsNaN ↔ number.IsNaN := by
  cases number <;> simp [anonymous, IsNaN]

namespace Setup

theorem timeout?_isSome_iff (value : Value) :
    (Setup.set (.timeout value)).timeout?.isSome ↔
      ∃ seconds, Settings.seconds 0 value = .ok seconds ∧
        (seconds.Exceeds 0 ∨ seconds.IsNaN) := by
  rw [timeout?]
  cases Settings.seconds 0 value with
  | error fault => simp [Except.toOption]
  | ok seconds =>
    simp only [Except.ok.injEq, exists_eq_left', ← Binary64.isAtMostZero_eq_false_iff]
    change ((some seconds).filter _).isSome ↔ _
    rw [Option.filter_some]
    cases seconds.isAtMostZero <;> simp

theorem isAtMostZero_of_timeout? {call : Setup} {seconds : Binary64}
    (tells : call.timeout? = some seconds) : seconds.isAtMostZero = false := by
  cases call with
  | build blocking failing => nomatch tells
  | set setting =>
    cases setting with
    | timeout value => simpa using (Option.filter_eq_some_iff.mp tells).2
    | uri _ | transport _ => nomatch tells

/-- Whatever is told, the timeout that was told last is not zero or less. -/
theorem isAtMostZero_lastTimeout (calls : List Setup) :
    (lastTimeout calls).isAtMostZero = false := by
  rw [lastTimeout]
  cases told : last timeout? calls with
  | none => rfl
  | some seconds =>
    obtain ⟨call, -, tells⟩ := List.exists_of_findSome?_eq_some told
    exact isAtMostZero_of_timeout? tells

end Setup

namespace Session

/-- In a session with new settings a timeout is accepted exactly if it stands for a number of
seconds greater than zero, or for a NaN. A client that is built then has the timeout that was
accepted last, which is greater than zero exactly if it is not a NaN. -/
theorem timeout_exceeds_iff [Platform] (secret : Value) (store : Store) (calls : List Setup) :
    let session := ({ store, settings := some { secret } } : Session).setUp calls
    (∀ value, (session.step (.timeout (.constant value))).1.outcome = .completed (.bool true) ↔
      ∃ seconds, Settings.seconds 0 value = .ok seconds ∧
        (seconds.Exceeds 0 ∨ seconds.IsNaN)) ∧
    ∀ blocking failing shown,
      (session.step (.build blocking failing)).1.outcome = .completed shown →
        ∃ endpoint, shown = endpointPicture endpoint ∧
          (session.step (.build blocking failing)).2.client = some { endpoint, blocking } ∧
          endpoint.timeout.anonymous = (Setup.lastTimeout calls).anonymous ∧
          (endpoint.timeout.Exceeds 0 ↔ ¬(Setup.lastTimeout calls).IsNaN) := by
  intro session
  have told : session.MadeFrom secret calls := (madeFrom_builder secret store).setUp calls
  refine ⟨fun value => (told.timeout_iff value).trans (Setup.timeout?_isSome_iff value), ?_⟩
  intro blocking failing shown done
  obtain ⟨settings, held, made⟩ := told
  obtain ⟨endpoint, pictured, client, built⟩ :=
    build_completed settings held blocking failing shown done
  have timeout : endpoint.timeout.anonymous = (Setup.lastTimeout calls).anonymous := by
    rw [(settings.endpoint_inv session.store endpoint built).2.1, made.timeout]
  have accepted : endpoint.timeout.isAtMostZero = false := by
    rw [← endpoint.timeout.isAtMostZero_anonymous, timeout, Binary64.isAtMostZero_anonymous]
    exact Setup.isAtMostZero_lastTimeout calls
  refine ⟨endpoint, pictured, client, timeout, ?_⟩
  rw [Binary64.exceeds_zero_iff accepted, ← endpoint.timeout.isNaN_anonymous, timeout,
    Binary64.isNaN_anonymous]

/-- A NaN is accepted as a timeout, and the client that is built next has it. -/
theorem timeout_unordered :
    let session := (started "secret" .empty).setUp [.set (.transport (some {}))]
    let told := session.step (.timeout (.constant (.float (.nan 0))))
    told.1.outcome = .completed (.bool true) ∧
      ∃ client, (told.2.step (.build false none)).2.client = some client ∧
        ¬client.endpoint.timeout.Exceeds 0 := by
  intro session told
  exact ⟨rfl, _, rfl, not_false⟩

end Session

end QueryWire
