import QueryWire.Proofs.Client.Query
import QueryWire.Proofs.Session
import QueryWire.Proofs.Text.Base64
import QueryWire.Proofs.Text.Utf8

/-!
What authorizes the requests of a client. However its settings came about, a client holds the
authorization of their secret; a request carries it unless the url names credentials of its own,
which stand in its place and are those of the secret only by coincidence.
-/

namespace QueryWire

namespace Url

def plainPart (part : Text) : Octets :=
  (Utf8.decodeReplacing (unquote part)).flatMap Utf8.encodePoint

def named? (url : Url) : Option Octets :=
  let (user, password) := url.credentials
  if user.isEmpty && password.isEmpty then none
  else some (plainPart user ++ [0x3A] ++ plainPart password)

end Url

theorem basicCredentials_injective (first second : Octets)
    (same : basicCredentials first = basicCredentials second) : first = second :=
  Base64.encode_injective first second (List.append_cancel_left same)

namespace Endpoint

variable (endpoint : Endpoint)

theorem presented_eq :
    endpoint.presented =
      (endpoint.uri.named?.map basicCredentials).getD endpoint.authorization := by
  unfold presented Url.named?
  dsimp only
  split <;> rfl

theorem authorization_of_request [Platform] (cookies : List Text) (payload : Text)
    (request : Request) (made : endpoint.request cookies payload = .ok request) :
    request.authorization = endpoint.presented := by
  unfold Endpoint.request at made
  split at made
  next =>
    split at made
    next =>
      cases made
      rfl
    next => nomatch made
  next => nomatch made

end Endpoint

theorem Client.request_of_mem [Platform] (client : Client) (value : Value) (decoder : Decoder)
    (reply : Reply) (store : Store) (request : Request)
    (sent : request ∈ (client.report value decoder reply store).trace.requests) :
    ∃ payload, client.endpoint.request client.cookies payload = .ok request := by
  by_cases unsent : client.isOpen = false ∨ client.endpoint.uri.isSendable = false
  · rw [client.report_unsent value decoder reply store unsent,
      (client.refusal_fails value store).2] at sent
    nomatch sent
  · obtain ⟨opened, sendable⟩ := not_or.mp unsent
    simp only [Bool.not_eq_false] at opened sendable
    rw [client.report_open value decoder reply store opened] at sent
    cases serialized : (serialize value).outcome store with
    | error fault =>
      rw [serialized] at sent
      nomatch sent
    | ok payload =>
      obtain ⟨made, request_made, -⟩ := client.endpoint.request_of_serialize client.cookies sendable
        value store payload serialized
      rw [serialized] at sent
      simp only [client.run_exchange decoder reply opened payload made request_made,
        List.mem_singleton] at sent
      exact ⟨payload, sent ▸ request_made⟩

def Authorizes (secret authorization : Text) : Prop :=
  ∃ octets, Utf8.encode (secret ++ ":") = .ok octets ∧ authorization = basicCredentials octets

theorem Settings.withTimeout_inv (settings : Settings) (identity : Nat) (timeout : Value)
    (changed : Settings) (done : settings.withTimeout identity timeout = .ok changed) :
    ∃ seconds, Settings.seconds identity timeout = .ok seconds ∧
      changed = { settings with timeout := seconds } := by
  obtain ⟨seconds, read, done⟩ := ok_of_bind done
  refine ⟨seconds, read, ?_⟩
  split at done
  · nomatch done
  · cases done
    rfl

theorem basicAuthorization_text (secret : Text) :
    basicAuthorization (.text secret) =
      (match Utf8.encode (secret ++ ":") with
      | .ok octets => pure (basicCredentials octets)
      | .error refusal =>
        throw (.configuration ("Secret cannot be encoded: " ++ refusal.message)) : Run Text) :=
  rfl

theorem authorizes_of_basicAuthorization (secret authorization : Text) (store : Store)
    (made : (basicAuthorization (.text secret)).outcome store = .ok authorization) :
    Authorizes secret authorization := by
  rw [basicAuthorization_text] at made
  cases encoded : Utf8.encode (secret ++ ":") with
  | error refusal =>
    rw [encoded] at made
    cases made
  | ok octets =>
    rw [encoded] at made
    exact ⟨octets, encoded, (Except.ok.inj made).symm⟩

theorem Utf8.encodable_colon (words : Text) : Encodable (words ++ ":") ↔ Encodable words := by
  have colon : Encodable ":" := ⟨_, rfl⟩
  rw [encodable_append, and_iff_left colon]

/-- A text authorizes exactly if it has an encoding, and is refused as a secret otherwise. -/
theorem basicAuthorization_cases (words : Text) :
    (∃ authorization, Authorizes words authorization ∧
        basicAuthorization (.text words) = pure authorization) ∨
      ¬Utf8.Encodable words ∧ ∃ refusal : Utf8.Refusal, basicAuthorization (.text words) =
        throw (.configuration ("Secret cannot be encoded: " ++ refusal.message)) := by
  rw [← Utf8.encodable_colon, basicAuthorization_text]
  cases encoded : Utf8.encode (words ++ ":") with
  | ok octets => exact .inl ⟨_, ⟨octets, encoded, rfl⟩, rfl⟩
  | error refusal =>
    refine .inr ⟨?_, refusal, rfl⟩
    rintro ⟨octets, found⟩
    rw [encoded] at found
    nomatch found

namespace Session

section

variable [Platform]

/-- Settings hold a secret, and a client has its authorization. -/
structure Keeps (secret : Text) (session : Session) : Prop where
  settings : ∀ settings, session.settings = some settings → settings.secret = .text secret
  client : ∀ client, session.client = some client →
    Authorizes secret client.endpoint.authorization

variable {secret : Text} {session : Session}

theorem secret_of_change (step : Step) (change : Settings → Run Settings)
    (configures : step.change? = some change) (settings changed : Settings) (store : Store)
    (done : (change settings).outcome store = .ok changed) :
    changed.secret = settings.secret := by
  cases step with
  | uri script =>
    cases configures
    rw [Run.outcome_bind] at done
    obtain ⟨uri, -, done⟩ := ok_of_bind done
    cases done
    rfl
  | timeout script =>
    cases configures
    rw [Run.outcome_bind] at done
    obtain ⟨identity, -, done⟩ := ok_of_bind done
    rw [Run.outcome_bind] at done
    obtain ⟨timeout, -, done⟩ := ok_of_bind done
    obtain ⟨seconds, -, rfl⟩ := settings.withTimeout_inv identity timeout changed done
    rfl
  | transport provided =>
    cases configures
    cases done
    rfl
  | _ => nomatch configures

theorem Keeps.configure (keeps : session.Keeps secret) (step : Step)
    (change : Settings → Run Settings) (configures : step.change? = some change) :
    (session.configure change).2.Keeps secret := by
  constructor
  · intro changed held
    obtain before | ⟨settings, before, done⟩ := configure_settings session change changed held
    · exact keeps.settings changed before
    · rw [secret_of_change step change configures settings changed session.store done]
      exact keeps.settings settings before
  · rw [configure_client]
    exact keeps.client

theorem Keeps.build (keeps : session.Keeps secret) (blocking : Bool)
    (failing : Option Disruption) : (session.build blocking failing).2.Keeps secret := by
  cases held : session.settings with
  | none =>
    rw [Session.build, held]
    exact keeps
  | some settings =>
    rw [build_some session blocking failing settings held]
    cases built : ((settings.build failing).run session.store).1.endpoint with
    | error fault =>
      simp only [built]
      exact ⟨fun _ same => keeps.settings _ same, keeps.client⟩
    | ok endpoint =>
      simp only [built]
      refine ⟨fun _ same => keeps.settings _ same, ?_⟩
      rintro _ ⟨⟩
      have made := settings.endpoint_of_build failing session.store endpoint built
      obtain ⟨-, -, later, authorized⟩ := settings.endpoint_inv session.store endpoint made
      rw [keeps.settings settings held] at authorized
      exact authorizes_of_basicAuthorization secret _ later authorized

omit [Platform] in
theorem Keeps.withClient (keeps : session.Keeps secret) (answer : Picture)
    (change : Client → Client) (spares : ∀ client, (change client).endpoint = client.endpoint) :
    (session.withClient answer change).2.Keeps secret := by
  unfold Session.withClient
  cases held : session.client with
  | none => exact keeps
  | some client =>
    refine ⟨keeps.settings, ?_⟩
    rintro _ ⟨⟩
    rw [spares client]
    exact keeps.client client held

theorem Keeps.query (keeps : session.Keeps secret) (script : Script) (decoder : Decoder)
    (reply : ReplyScript) : (session.step (.query script decoder reply)).2.Keeps secret := by
  refine ⟨keeps.settings, fun client held => ?_⟩
  obtain ⟨before, found, rfl⟩ := Option.map_eq_some_iff.mp held
  exact keeps.client before found

theorem Keeps.step (keeps : session.Keeps secret) (step : Step)
    (own : ∀ other, step ≠ .builder other) : (session.step step).2.Keeps secret := by
  cases configures : step.change? with
  | some change =>
    rw [step_of_change session step change configures]
    exact keeps.configure step change configures
  | none =>
    cases step with
    | builder other => exact (own other rfl).elim
    | build blocking failing => exact keeps.build blocking failing
    | query script decoder reply => exact keeps.query script decoder reply
    | close => exact keeps.withClient .null Client.close fun _ => rfl
    | enter => exact keeps.withClient (.bool true) id fun _ => rfl
    | uri _ | timeout _ | transport _ => nomatch configures

theorem Keeps.after (keeps : session.Keeps secret) (steps : List Step)
    (own : ∀ other, Step.builder other ∉ steps) : (session.after steps).Keeps secret := by
  induction steps generalizing session with
  | nil => exact keeps
  | cons step steps ih =>
    have first : ∀ other, step ≠ .builder other := by
      rintro other rfl
      exact own other (.head _)
    exact ih (keeps.step step first) fun other member => own other (.tail _ member)

def started (secret : Text) (store : Store) : Session :=
  { store, settings := some { secret := .text secret } }

omit [Platform] in
theorem keeps_started (secret : Text) (store : Store) : (started secret store).Keeps secret := by
  refine ⟨?_, nofun⟩
  rintro _ ⟨⟩
  rfl

/-- A client that was built in some session, in whatever order its settings came about, has the
authorization of the secret. Its requests carry that authorization unless the url names credentials;
then they carry those, and so the same authorization only if they are those of the secret. -/
theorem authorization_exact (secret : Text) (store : Store) (steps : List Step)
    (own : ∀ other, Step.builder other ∉ steps) (client : Client)
    (built : ((started secret store).after steps).client = some client) :
    ∃ octets, Utf8.encode (secret ++ ":") = .ok octets ∧
      client.endpoint.authorization = basicCredentials octets ∧
      ∀ value decoder reply store,
        ∀ request ∈ (client.report value decoder reply store).trace.requests,
          request.authorization =
              basicCredentials (client.endpoint.uri.named?.getD octets) ∧
            (request.authorization = client.endpoint.authorization ↔
              client.endpoint.uri.named? = none ∨ client.endpoint.uri.named? = some octets) := by
  obtain ⟨octets, encoded, authorized⟩ :=
    ((keeps_started secret store).after steps own).client client built
  refine ⟨octets, encoded, authorized, ?_⟩
  intro value decoder reply later request sent
  obtain ⟨payload, made⟩ := client.request_of_mem value decoder reply later request sent
  rw [client.endpoint.authorization_of_request client.cookies payload request made,
    client.endpoint.presented_eq, authorized]
  cases client.endpoint.uri.named? with
  | none => exact ⟨rfl, iff_of_true rfl (.inl rfl)⟩
  | some credentials =>
    refine ⟨rfl, ?_⟩
    constructor
    · intro same
      exact .inr (congrArg some (basicCredentials_injective credentials octets same))
    · rintro (absent | ⟨⟨⟩⟩)
      · nomatch absent
      · rfl

end

def nearbySteps : List Step := [
  .timeout (.constant (.float (.finite false 1 0))), .transport (some {}),
  .uri (.constant (.text "http://localhost:8443/")), .build false none]

set_option maxRecDepth 4000 in
/-- No credentials are named there, so queries go out with the authorization of the secret. -/
theorem authorization_exact_nearby :
    (∀ other, Step.builder other ∉ nearbySteps) ∧
      ((started "secret" .empty).after nearbySteps).client = some .nearby ∧
      (Client.nearby.report (.text "a") .response (.interrupted .stalled)
        .empty).trace.requests.map Request.authorization = ["Basic c2VjcmV0Og=="] := by
  have own (other : Script) : Step.builder other ∉ nearbySteps := by
    simp [nearbySteps]
  have built : ((started "secret" .empty).after nearbySteps).client = some .nearby := rfl
  obtain ⟨octets, encoded, authorized, requests⟩ :=
    authorization_exact "secret" .empty nearbySteps own .nearby built
  obtain ⟨-, same⟩ := requests (.text "a") .response (.interrupted .stalled) .empty _ (.head _)
  exact ⟨own, built, congrArg (fun authorization => [authorization]) (same.mpr (.inl rfl))⟩

def guardedClient : Client where
  endpoint := {
    uri := {
      scheme := "http", userinfo := "u:p", host := "localhost", port := none, path := []
      query := none, fragment := none }
    timeout := .finite false (60 * 2 ^ (47 : Nat)) (-47)
    authorization := "Basic c2VjcmV0Og==" }
  blocking := false

set_option maxRecDepth 4000 in
/-- It is built with the authorization of the secret, but its queries go out with another one. -/
theorem authorization_replaced :
    ((started "secret" .empty).after [
        .uri (.constant (.text "http://u:p@localhost")), .transport (some {}),
        .build false none]).client = some guardedClient ∧
      guardedClient.endpoint.authorization = "Basic c2VjcmV0Og==" ∧
      (guardedClient.report (.text "a") .response (.interrupted .stalled)
        .empty).trace.requests.map Request.authorization = ["Basic dTpw"] :=
  ⟨rfl, rfl, rfl⟩

end Session
end QueryWire
