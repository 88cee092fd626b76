import QueryWire.Proofs.Client.Authorization

/-!
What the secret of a client shows in. Two sessions that differ in nothing but their secrets, both of
which have an encoding, go through the same steps and answer the same, but for the authorization of
the requests and for the one that a build shows. So no result, no failure, no line of the log and no
other part of a request tells anything about the secret.
-/

namespace QueryWire

def Request.veiled (request : Request) : Request := { request with authorization := [] }

def Trace.veiled (trace : Trace) : Trace :=
  { trace with requests := trace.requests.map Request.veiled }

def Report.veiled (report : Report) : Report := { report with trace := report.trace.veiled }

def Endpoint.veiled (endpoint : Endpoint) : Endpoint := { endpoint with authorization := [] }

def Client.veiled (client : Client) : Client := { client with endpoint := client.endpoint.veiled }

def Picture.veiled : Picture → Picture
  | .list [uri, timeout, _] => .list [uri, timeout]
  | picture => picture

def Outcome.veiled : Outcome → Outcome
  | .completed picture => .completed picture.veiled
  | .failed picture => .failed picture

/-- An answer without authorizations: those in its trace, and that of the endpoint if it is the
answer to a build. -/
def Session.Answer.veiled (answer : Session.Answer) : Session.Answer where
  outcome := if answer.transports.isSome then answer.outcome.veiled else answer.outcome
  transports := answer.transports
  trace := answer.trace.map Trace.veiled

section

variable [Platform]

theorem Endpoint.request_veiled (endpoint : Endpoint) (cookies : List Text) (payload : Text) :
    (endpoint.veiled.request cookies payload).map Request.veiled =
      (endpoint.request cookies payload).map Request.veiled := by
  unfold request
  cases Utf8.encode payload with
  | error refusal => rfl
  | ok content =>
    change (if endpoint.uri.isSendable then _ else _ : Except Fault Request).map _ = _
    cases endpoint.uri.isSendable <;> rfl

namespace Client

variable (client : Client) (value : Value) (decoder : Decoder) (reply : Reply) (store : Store)

/-- The report of a query does not depend on the authorization, except for that of its requests. -/
theorem report_veiled :
    (client.veiled.report value decoder reply store).veiled =
      (client.report value decoder reply store).veiled := by
  by_cases unsent : client.isOpen = false ∨ client.endpoint.uri.isSendable = false
  · rw [client.report_unsent value decoder reply store unsent,
      client.veiled.report_unsent value decoder reply store unsent]
    rfl
  · obtain ⟨opened, sendable⟩ := not_or.mp unsent
    simp only [Bool.not_eq_false] at opened sendable
    rw [client.report_open value decoder reply store opened,
      client.veiled.report_open value decoder reply store opened]
    cases serialized : (serialize value).outcome store with
    | error fault => rfl
    | ok payload =>
      obtain ⟨request, made, -⟩ := client.endpoint.request_of_serialize client.cookies sendable
        value store payload serialized
      obtain ⟨other, remade, -⟩ := client.veiled.endpoint.request_of_serialize client.cookies
        sendable value store payload serialized
      have same := client.endpoint.request_veiled client.cookies payload
      rw [made, show client.endpoint.veiled.request client.cookies payload = _ from remade] at same
      have alike : other.veiled = request.veiled := Except.ok.inj same
      dsimp only
      rw [client.run_exchange decoder reply opened payload request made,
        client.veiled.run_exchange decoder reply opened payload other remade]
      simp only [Report.veiled, Trace.veiled, List.map_cons, List.map_nil, alike]
      rfl

theorem query_alike {client other : Client} (alike : other.veiled = client.veiled) (value : Value)
    (decoder : Decoder) (reply : Reply) (store : Store) :
    ((other.query value decoder reply).run store).1.veiled =
        ((client.query value decoder reply).run store).1.veiled ∧
      ((other.query value decoder reply).run store).2 =
        ((client.query value decoder reply).run store).2 := by
  constructor
  · have first := client.report_veiled value decoder reply store
    have second := other.report_veiled value decoder reply store
    rw [alike] at second
    exact second.symm.trans first
  · have blocking := congrArg Client.blocking alike
    have opened := congrArg Client.isOpen alike
    change other.blocking = client.blocking at blocking
    change other.isOpen = client.isOpen at opened
    rw [leaves_query, leaves_query, blocking, opened]

omit [Platform] in
theorem receive_alike {client other : Client} (alike : other.veiled = client.veiled)
    {report twin : Report} (same : twin.veiled = report.veiled) :
    (other.receive twin).veiled = (client.receive report).veiled := by
  have cookies := congrArg (·.trace.cookies) same
  change twin.trace.cookies = report.trace.cookies at cookies
  change { other.veiled with cookies := other.veiled.cookies ++ twin.trace.cookies } =
    { client.veiled with cookies := client.veiled.cookies ++ report.trace.cookies }
  rw [alike, cookies]

end Client

omit [Platform] in
theorem exists_authorization (secret : Text) (encodable : Utf8.Encodable secret) :
    ∃ authorization, basicAuthorization (.text secret) = pure authorization := by
  obtain ⟨authorization, -, made⟩ | ⟨unencodable, -⟩ := basicAuthorization_cases secret
  · exact ⟨authorization, made⟩
  · exact (unencodable encodable).elim

inductive Settings.Alike : Settings → Settings → Prop
  | same (settings : Settings) : Alike settings settings
  | apart (settings : Settings) {first second : Text} :
    Utf8.Encodable first → Utf8.Encodable second →
      Alike { settings with secret := .text first } { settings with secret := .text second }

namespace Settings

theorem run_endpoint (settings : Settings) (secret : Text) (encodable : Utf8.Encodable secret)
    (store : Store) :
    ((endpoint { settings with secret := .text secret }).outcome store).map Endpoint.veiled =
        ((checkUri settings.uri).outcome store).map (fun uri => ⟨uri, settings.timeout, []⟩) ∧
      (endpoint { settings with secret := .text secret }).leaves store =
        (checkUri settings.uri).leaves store := by
  obtain ⟨authorization, made⟩ := exists_authorization secret encodable
  rw [endpoint, made, Run.outcome_bind, Run.leaves_bind]
  cases (checkUri settings.uri).outcome store <;> exact ⟨rfl, rfl⟩

variable {settings other : Settings}

theorem Alike.endpoint (alike : Alike settings other) (store : Store) :
    (other.endpoint.outcome store).map Endpoint.veiled =
        (settings.endpoint.outcome store).map Endpoint.veiled ∧
      other.endpoint.leaves store = settings.endpoint.leaves store := by
  cases alike with
  | same => exact ⟨rfl, rfl⟩
  | apart settings first second =>
    obtain ⟨one, left⟩ := settings.run_endpoint _ first store
    obtain ⟨another, remains⟩ := settings.run_endpoint _ second store
    exact ⟨another.trans one.symm, remains.trans left.symm⟩

theorem Alike.build (alike : Alike settings other) (failing : Option Disruption) (store : Store) :
    ((other.build failing).run store).1.endpoint.map Endpoint.veiled =
        ((settings.build failing).run store).1.endpoint.map Endpoint.veiled ∧
      ((other.build failing).run store).1.transports =
        ((settings.build failing).run store).1.transports ∧
      ((other.build failing).run store).2 = ((settings.build failing).run store).2 := by
  obtain ⟨veiled, left⟩ := alike.endpoint store
  have shared : other.transport = settings.transport := by cases alike <;> rfl
  obtain ⟨endpoints, transports⟩ := furnish_map Endpoint.veiled shared failing veiled
  rw [run_build, run_build, left]
  exact ⟨endpoints, transports, rfl⟩

omit [Platform] in
theorem withTimeout_secret (settings : Settings) (secret : Value) (identity : Nat)
    (timeout : Value) :
    withTimeout { settings with secret } identity timeout =
      (settings.withTimeout identity timeout).map fun changed => { changed with secret } := by
  rw [withTimeout, withTimeout]
  cases seconds identity timeout with
  | error fault => rfl
  | ok seconds =>
    simp only [bind, Except.bind]
    split <;> rfl

theorem change_secret (step : Session.Step) (change : Settings → Run Settings)
    (configures : step.change? = some change) (settings : Settings) (secret : Value) :
    change { settings with secret } =
      (do return { (← change settings) with secret }) := by
  cases step with
  | uri script =>
    cases configures
    simp only [bind_assoc, pure_bind]
  | timeout script =>
    cases configures
    simp only [bind_assoc]
    refine bind_congr fun identity => bind_congr fun timeout => ?_
    rw [withTimeout_secret]
    cases settings.withTimeout identity timeout <;> rfl
  | transport provided =>
    cases configures
    rfl
  | _ => nomatch configures

end Settings

namespace Session

/-- Two sessions that are the same, but for secrets that have an encoding, and for what clients hold
of them. -/
structure Cloaked (session other : Session) : Prop where
  store : other.store = session.store
  settings : Option.Rel Settings.Alike session.settings other.settings
  client : other.client.map Client.veiled = session.client.map Client.veiled
  isOver : other.isOver = session.isOver

namespace Cloaked

variable {session other : Session}

omit [Platform] in
theorem settings_cases (cloaked : Cloaked session other) :
    (session.settings = none ∧ other.settings = none) ∨ ∃ given taken,
      session.settings = some given ∧ other.settings = some taken ∧ given.Alike taken := by
  have alike := cloaked.settings
  cases held : session.settings with
  | none =>
    rw [held] at alike
    cases found : other.settings with
    | none => exact .inl ⟨rfl, rfl⟩
    | some taken =>
      rw [found] at alike
      nomatch alike
  | some given =>
    rw [held] at alike
    cases found : other.settings with
    | none =>
      rw [found] at alike
      nomatch alike
    | some taken =>
      rw [found] at alike
      cases alike with
      | some alike => exact .inr ⟨given, taken, rfl, rfl, alike⟩

omit [Platform] in
theorem client_cases (cloaked : Cloaked session other) :
    (session.client = none ∧ other.client = none) ∨ ∃ client twin,
      session.client = some client ∧ other.client = some twin ∧ twin.veiled = client.veiled := by
  have same := cloaked.client
  cases held : session.client with
  | none =>
    rw [held] at same
    exact .inl ⟨rfl, Option.map_eq_none_iff.mp same⟩
  | some client =>
    rw [held] at same
    obtain ⟨twin, found, alike⟩ := Option.map_eq_some_iff.mp same
    exact .inr ⟨client, twin, rfl, found, alike⟩

theorem configure (cloaked : Cloaked session other) (step : Step)
    (change : Settings → Run Settings) (configures : step.change? = some change) :
    (other.configure change).1 = (session.configure change).1 ∧
      Cloaked (session.configure change).2 (other.configure change).2 := by
  obtain ⟨held, found⟩ | ⟨given, taken, held, found, alike⟩ := cloaked.settings_cases
  · rw [configure_none session change held, configure_none other change found]
    exact ⟨rfl, cloaked⟩
  · have same := cloaked.settings
    rw [configure_some session change given held, configure_some other change taken found,
      cloaked.store]
    cases alike with
    | same given =>
      cases (change given).outcome session.store with
      | ok changed => exact ⟨rfl, rfl, .some (.same changed), cloaked.client, cloaked.isOver⟩
      | error fault => exact ⟨rfl, rfl, same, cloaked.client, cloaked.isOver⟩
    | @apart given first second one another =>
      have changes := Settings.change_secret step change configures given
      rw [changes (.text first), changes (.text second)]
      simp only [Run.outcome_bind, Run.leaves_bind]
      cases (change given).outcome session.store with
      | ok changed =>
        exact ⟨rfl, rfl, .some (.apart changed one another), cloaked.client, cloaked.isOver⟩
      | error fault => exact ⟨rfl, rfl, same, cloaked.client, cloaked.isOver⟩

theorem build (cloaked : Cloaked session other) (blocking : Bool) (failing : Option Disruption) :
    (other.build blocking failing).1.veiled = (session.build blocking failing).1.veiled ∧
      Cloaked (session.build blocking failing).2 (other.build blocking failing).2 := by
  obtain ⟨held, found⟩ | ⟨given, taken, held, found, alike⟩ := cloaked.settings_cases
  · rw [Session.build, Session.build, held, found]
    exact ⟨rfl, cloaked⟩
  · obtain ⟨veiled, transports, left⟩ := alike.build failing session.store
    rw [build_some session blocking failing given held,
      build_some other blocking failing taken found, cloaked.store]
    dsimp only
    rw [transports, left]
    obtain ⟨fault, one, another⟩ | ⟨endpoint, built, one, another, parts⟩ :=
      cases_of_map_eq veiled
    · rw [one, another]
      exact ⟨rfl, rfl, cloaked.settings, cloaked.client, cloaked.isOver⟩
    · have shown : (endpointPicture built).veiled = (endpointPicture endpoint).veiled := by
        have pictures (endpoint : Endpoint) : (endpointPicture endpoint).veiled =
            (endpointPicture endpoint.veiled).veiled := rfl
        rw [pictures built, parts, ← pictures endpoint]
      rw [one, another]
      refine ⟨?_, rfl, cloaked.settings, ?_, cloaked.isOver⟩
      · simp only [Answer.veiled, Option.isSome_some, ↓reduceIte, Outcome.veiled, shown]
      · simp only [Option.map_some, Client.veiled, parts]

theorem query (cloaked : Cloaked session other) (script : Script) (decoder : Decoder)
    (reply : ReplyScript) :
    (other.step (.query script decoder reply)).1.veiled =
        (session.step (.query script decoder reply)).1.veiled ∧
      Cloaked (session.step (.query script decoder reply)).2
        (other.step (.query script decoder reply)).2 := by
  have runs : ((other.query script decoder reply).run session.store).1.veiled =
        ((session.query script decoder reply).run session.store).1.veiled ∧
      ((other.query script decoder reply).run session.store).2 =
        ((session.query script decoder reply).run session.store).2 := by
    obtain ⟨held, found⟩ | ⟨client, twin, held, found, same⟩ := cloaked.client_cases
    · rw [Session.query, Session.query, held, found]
      exact ⟨rfl, rfl⟩
    · rw [run_query session client held, run_query other twin found]
      cases (prepared script reply).outcome session.store with
      | error fault => exact ⟨rfl, rfl⟩
      | ok made => exact Client.query_alike same made.1 decoder made.2 _
  have received {report twin : Report} (same : twin.veiled = report.veiled) :
      (other.client.map (·.receive twin)).map Client.veiled =
        (session.client.map (·.receive report)).map Client.veiled := by
    obtain ⟨held, found⟩ | ⟨client, twin, held, found, alike⟩ := cloaked.client_cases
    · rw [held, found]
      rfl
    · rw [held, found]
      exact congrArg some (Client.receive_alike alike same)
  rw [step_query session, step_query other, cloaked.store]
  cases asked : (session.query script decoder reply).run session.store with
  | mk report left =>
    cases again : (other.query script decoder reply).run session.store with
    | mk twin after =>
      rw [asked, again] at runs
      obtain ⟨reports, rfl⟩ := runs
      have results := congrArg Report.result reports
      have traces := congrArg Report.trace reports
      change twin.result = report.result at results
      change twin.trace.veiled = report.trace.veiled at traces
      have interrupted : twin.isInterrupted = report.isInterrupted := by
        rw [Report.isInterrupted, results]
        rfl
      dsimp only
      rw [results, interrupted, cloaked.isOver]
      refine ⟨?_, rfl, cloaked.settings, received reports, rfl⟩
      simp only [Answer.veiled, Option.map_some, traces]

omit [Platform] in
theorem withClient (cloaked : Cloaked session other) (answer : Picture) (change : Client → Client)
    (veils : ∀ client, (change client).veiled = change client.veiled) :
    (other.withClient answer change).1 = (session.withClient answer change).1 ∧
      Cloaked (session.withClient answer change).2 (other.withClient answer change).2 := by
  obtain ⟨held, found⟩ | ⟨client, twin, held, found, same⟩ := cloaked.client_cases
  · rw [Session.withClient, Session.withClient, held, found]
    exact ⟨rfl, cloaked⟩
  · rw [withClient_some session client held, withClient_some other twin found]
    refine ⟨rfl, cloaked.store, cloaked.settings, ?_, cloaked.isOver⟩
    rw [Option.map_some, Option.map_some, veils, veils, same]

/-- No step tells secrets apart, except by an authorization. -/
theorem step (cloaked : Cloaked session other) (step : Step) :
    (other.step step).1.veiled = (session.step step).1.veiled ∧
      Cloaked (session.step step).2 (other.step step).2 := by
  cases configures : step.change? with
  | some change =>
    rw [step_of_change session step change configures, step_of_change other step change configures]
    obtain ⟨same, after⟩ := cloaked.configure step change configures
    rw [same]
    exact ⟨rfl, after⟩
  | none =>
    cases step with
    | builder secret =>
      rw [step_builder session secret, step_builder other secret, cloaked.store]
      cases (secret.eval []).outcome session.store with
      | ok value =>
        exact ⟨rfl, rfl, .some (.same { secret := value }), cloaked.client, cloaked.isOver⟩
      | error fault => exact ⟨rfl, rfl, cloaked.settings, cloaked.client, cloaked.isOver⟩
    | build blocking failing => exact cloaked.build blocking failing
    | query script decoder reply => exact cloaked.query script decoder reply
    | close =>
      obtain ⟨same, after⟩ := cloaked.withClient .null Client.close fun _ => rfl
      exact ⟨congrArg Answer.veiled same, after⟩
    | enter =>
      obtain ⟨same, after⟩ := cloaked.withClient (.bool true) id fun _ => rfl
      exact ⟨congrArg Answer.veiled same, after⟩
    | uri _ | timeout _ | transport _ => nomatch configures

theorem run (cloaked : Cloaked session other) (steps : List Step) :
    (other.run steps).map Answer.veiled = (session.run steps).map Answer.veiled := by
  induction steps generalizing session other with
  | nil => rfl
  | cons step steps ih =>
    obtain ⟨same, after⟩ := cloaked.step step
    rw [run_cons, run_cons, List.map_cons, List.map_cons, same, after.isOver]
    split
    next => rfl
    next => rw [ih after]

theorem after (cloaked : Cloaked session other) (steps : List Step) :
    Cloaked (session.after steps) (other.after steps) := by
  induction steps generalizing session other with
  | nil => exact cloaked
  | cons step steps ih => exact ih (cloaked.step step).2

end Cloaked

/-- Of two secrets that have an encoding nothing can be told apart but the authorizations, through
any steps and from any other settings: all else that is seen of the steps is equal, and so is the
store that they leave behind. -/
theorem secret_hidden (settings : Settings) (store : Store) (first second : Text)
    (encodable : Utf8.Encodable first) (too : Utf8.Encodable second) (steps : List Step) :
    let session (secret : Text) : Session :=
      { store, settings := some { settings with secret := .text secret } }
    ((session first).run steps).map Answer.veiled =
        ((session second).run steps).map Answer.veiled ∧
      ((session first).after steps).store = ((session second).after steps).store := by
  intro session
  have cloaked : Cloaked (session second) (session first) :=
    ⟨rfl, .some (.apart settings too encodable), rfl, rfl⟩
  exact ⟨cloaked.run steps, (cloaked.after steps).store⟩

end Session

end

namespace Session

def stalledSteps : List Step :=
  nearbySteps ++ [.query (.constant (.text "a")) .response (.interrupted .stalled)]

set_option maxRecDepth 4000 in
theorem secret_hidden_nearby :
    Utf8.Encodable "secret" ∧ Utf8.Encodable "other" ∧
      ((started "secret" .empty).run stalledSteps).map Answer.veiled =
        ((started "other" .empty).run stalledSteps).map Answer.veiled ∧
      ((started "secret" .empty).after stalledSteps).client.map (·.endpoint.authorization) =
        some "Basic c2VjcmV0Og==" ∧
      ((started "other" .empty).after stalledSteps).client.map (·.endpoint.authorization) =
        some "Basic b3RoZXI6" := by
  have first : Utf8.Encodable "secret" := ⟨_, rfl⟩
  have second : Utf8.Encodable "other" := ⟨_, rfl⟩
  obtain ⟨same, -⟩ :=
    secret_hidden { secret := .null } .empty "secret" "other" first second stalledSteps
  exact ⟨first, second, same, rfl, rfl⟩

end Session

end QueryWire
