import QueryWire.Proofs.Client.Blocking
import QueryWire.Proofs.Client.Closing
import QueryWire.Proofs.Client.Endpoint
import QueryWire.Proofs.Expr.Frame

/-!
The life of a client. Until it is closed a client is as it was built, whatever it was asked before,
but for the cookies that it has received, so each query is answered as by a new client but for the
cookies that it presents. From then on nothing reaches the transport and no query has a result;
entering the client again does not change that, and neither does closing it again.
-/

namespace QueryWire

def Request.bare (request : Request) : Request := { request with cookie? := none }

def Trace.bare (trace : Trace) : Trace :=
  { trace with requests := trace.requests.map Request.bare }

def Report.bare (report : Report) : Report := { report with trace := report.trace.bare }

def Session.Answer.bare (answer : Session.Answer) : Session.Answer :=
  { answer with trace := answer.trace.map Trace.bare }

def Client.keeping (client : Client) (cookies : List Text) : Client :=
  { client with cookies := client.cookies ++ cookies }

namespace Client

variable (client : Client) (first others : List Text)

@[simp] theorem keeping_nil : client.keeping [] = client :=
  congrArg (fun cookies => { client with cookies }) (List.append_nil client.cookies)

@[simp] theorem keeping_keeping :
    (client.keeping first).keeping others = client.keeping (first ++ others) :=
  congrArg (fun cookies => { client with cookies }) (List.append_assoc client.cookies first others)

@[simp] theorem close_keeping : client.close.keeping others = (client.keeping others).close := rfl

@[simp] theorem close_close : client.close.close = client.close := rfl

end Client

def ReplyScript.cookies : ReplyScript → List Text
  | .response _ cookies _ => cookies
  | .interrupted _ => []

section

variable [Platform]

theorem Endpoint.request_bare (endpoint : Endpoint) (cookies others : List Text) (payload : Text) :
    (endpoint.request others payload).map Request.bare =
      (endpoint.request cookies payload).map Request.bare := by
  unfold request
  cases Utf8.encode payload with
  | error refusal => rfl
  | ok content => cases endpoint.uri.isSendable <;> rfl

namespace Client

variable (client : Client) (value : Value) (decoder : Decoder) (reply : Reply) (store : Store)

/-- A query changes nothing in the store but how far one-shot sequences are read, which only the
serialization of its value does. -/
theorem query_still :
    ((client.query value decoder reply).run store).2 =
      { store with taken := ((client.query value decoder reply).run store).2.taken } := by
  have still := value.serialize_still store
  rw [leaves_query]
  split
  · rfl
  · exact still

theorem report_keeping (cookies : List Text) :
    ((client.keeping cookies).report value decoder reply store).bare =
      (client.report value decoder reply store).bare := by
  by_cases unsent : client.isOpen = false ∨ client.endpoint.uri.isSendable = false
  · rw [client.report_unsent value decoder reply store unsent,
      (client.keeping cookies).report_unsent value decoder reply store unsent]
    rfl
  · obtain ⟨opened, sendable⟩ := not_or.mp unsent
    simp only [Bool.not_eq_false] at opened sendable
    rw [client.report_open value decoder reply store opened,
      (client.keeping cookies).report_open value decoder reply store opened]
    cases serialized : (serialize value).outcome store with
    | error fault => rfl
    | ok payload =>
      obtain ⟨request, made, -⟩ := client.endpoint.request_of_serialize client.cookies sendable
        value store payload serialized
      obtain ⟨other, remade, -⟩ := client.endpoint.request_of_serialize (client.cookies ++ cookies)
        sendable value store payload serialized
      have same := client.endpoint.request_bare client.cookies (client.cookies ++ cookies) payload
      rw [made, remade] at same
      have alike : other.bare = request.bare := Except.ok.inj same
      dsimp only
      rw [client.run_exchange decoder reply opened payload request made,
        (client.keeping cookies).run_exchange decoder reply opened payload other remade]
      simp only [Report.bare, Trace.bare, List.map_cons, List.map_nil, alike]
      rfl

theorem cookies_report (none : reply.cookies = []) :
    (client.report value decoder reply store).trace.cookies = [] := by
  by_cases unsent : client.isOpen = false ∨ client.endpoint.uri.isSendable = false
  · rw [client.report_unsent value decoder reply store unsent, refusal]
    split
    · rfl
    · cases (serialize value).outcome store <;> rfl
  · obtain ⟨opened, sendable⟩ := not_or.mp unsent
    simp only [Bool.not_eq_false] at opened sendable
    cases serialized : (serialize value).outcome store with
    | error fault =>
      rw [client.report_unserialized value decoder reply store opened fault serialized]
    | ok payload =>
      let dispatch : Dispatch := ⟨client, value, store, payload, opened, sendable, serialized⟩
      obtain ⟨request, -, same⟩ := dispatch.report_eq decoder reply
      exact (congrArg (·.trace.cookies) same).trans none

theorem query_keeping (cookies : List Text) :
    (((client.keeping cookies).query value decoder reply).run store).1.bare =
        ((client.query value decoder reply).run store).1.bare ∧
      (((client.keeping cookies).query value decoder reply).run store).2 =
        ((client.query value decoder reply).run store).2 := by
  refine ⟨client.report_keeping value decoder reply store cookies, ?_⟩
  rw [leaves_query, leaves_query]
  rfl

end Client

namespace ReplyScript

theorem cookies_make (script : ReplyScript) (store : Store) (reply : Reply)
    (made : script.make.outcome store = .ok reply) : reply.cookies = script.cookies := by
  cases script with
  | interrupted interruption =>
    cases made
    rfl
  | response status cookies body =>
    cases body with
    | whole body =>
      rw [make, Run.outcome_bind] at made
      obtain ⟨octets, -, done⟩ := ok_of_bind made
      cases done
      rfl
    | chunks chunks interruption =>
      rw [make, Run.outcome_bind] at made
      obtain ⟨pieces, -, done⟩ := ok_of_bind made
      cases done
      rfl

end ReplyScript

namespace Session

theorem cookies_query (session : Session) (script : Script) (decoder : Decoder)
    (reply : ReplyScript) (none : reply.cookies = []) (store : Store) :
    ((session.query script decoder reply).run store).1.trace.cookies = [] := by
  cases held : session.client with
  | none => rw [session.trace_query_none held]
  | some client =>
    rw [session.run_query client held]
    cases prepares : (prepared script reply).outcome store with
    | error fault => rfl
    | ok made =>
      rw [prepared, Run.outcome_bind] at prepares
      obtain ⟨value, -, prepares⟩ := ok_of_bind prepares
      rw [Run.outcome_bind] at prepares
      obtain ⟨answer, makes, done⟩ := ok_of_bind prepares
      cases done
      exact client.cookies_report value decoder answer _
        ((reply.cookies_make _ answer makes).trans none)

def Cookieless (steps : List Step) : Prop :=
  ∀ script decoder reply, Step.query script decoder reply ∈ steps → reply.cookies = []

/-- But for the cookies that it receives, a step leaves a client as it is that does not close or
replace it. -/
theorem step_keeps (session : Session) (step : Step)
    (kept : ∀ blocking failing, step ≠ .build blocking failing) (lasts : step ≠ .close) :
    ∃ cookies, (session.step step).2.client = session.client.map (·.keeping cookies) ∧
      (Cookieless [step] → cookies = []) := by
  by_cases asks : ∃ script decoder reply, step = .query script decoder reply
  · obtain ⟨script, decoder, reply, rfl⟩ := asks
    refine ⟨((session.query script decoder reply).run session.store).1.trace.cookies, rfl, ?_⟩
    intro none
    exact session.cookies_query script decoder reply (none _ _ _ (.head _)) session.store
  · refine ⟨[], ?_, fun _ => rfl⟩
    simpa using session.step_client step kept lasts fun script decoder reply same =>
      asks ⟨script, decoder, reply, same⟩

variable {steps : List Step}

theorem after_client (session : Session)
    (kept : ∀ blocking failing, Step.build blocking failing ∉ steps) (lasts : .close ∉ steps) :
    ∃ cookies, (session.after steps).client = session.client.map (·.keeping cookies) ∧
      (Cookieless steps → cookies = []) := by
  induction steps generalizing session with
  | nil => exact ⟨[], by simp [after], fun _ => rfl⟩
  | cons step steps ih =>
    obtain ⟨first, here, none⟩ := session.step_keeps step (fun blocking failing same =>
      kept blocking failing (same ▸ .head _)) fun same => lasts (same ▸ .head _)
    obtain ⟨others, there, silent⟩ := ih (session.step step).2 (fun blocking failing member =>
      kept blocking failing (.tail _ member)) fun member => lasts (.tail _ member)
    refine ⟨first ++ others, ?_, fun cookieless => ?_⟩
    · change ((session.step step).2.after steps).client = _
      simp [there, here, Function.comp_def]
    · rw [none fun script decoder reply member => cookieless script decoder reply
          (List.mem_singleton.mp member ▸ .head _),
        silent fun script decoder reply member => cookieless script decoder reply (.tail _ member)]
      rfl

theorem after_client_closed (session : Session)
    (kept : ∀ blocking failing, Step.build blocking failing ∉ steps) (closes : .close ∈ steps) :
    ∃ cookies, (session.after steps).client =
      session.client.map fun client => (client.keeping cookies).close := by
  -- A close leaves a client that no later close changes; any other step comes before one.
  induction steps generalizing session with
  | nil => nomatch closes
  | cons step steps ih =>
    have others (blocking : Bool) (failing : Option Disruption) :
        Step.build blocking failing ∉ steps :=
      fun member => kept blocking failing (.tail _ member)
    change ∃ cookies, ((session.step step).2.after steps).client = _
    by_cases first : step = .close
    · subst first
      by_cases again : .close ∈ steps
      · obtain ⟨cookies, there⟩ := ih (session.step .close).2 others again
        exact ⟨cookies, by simp [there, close_client, Function.comp_def]⟩
      · obtain ⟨cookies, there, -⟩ := after_client (session.step .close).2 others again
        exact ⟨cookies, by simp [there, close_client, Function.comp_def]⟩
    · have later : .close ∈ steps := (List.mem_cons.mp closes).resolve_left fun same =>
        first same.symm
      obtain ⟨before, here, -⟩ := session.step_keeps step (fun blocking failing same =>
        kept blocking failing (same ▸ .head _)) first
      obtain ⟨rest, there⟩ := ih (session.step step).2 others later
      exact ⟨before ++ rest, by simp [there, here, Function.comp_def]⟩

theorem ofFault_failed (fault : Fault) (store : Store) :
    ∃ picture, ((Outcome.ofFault fault).run store).1 = .failed picture := by
  unfold Outcome.ofFault
  simp only [StateT.run, bind, StateT.bind, ExceptT.run]
  cases fault.picture store with
  | mk taken after => cases taken <;> exact ⟨_, rfl⟩

theorem step_query_closed (session : Session) (client : Client)
    (held : session.client = some client) (closed : client.isOpen = false) (script : Script)
    (decoder : Decoder) (reply : ReplyScript) :
    ∃ picture trace, (session.step (.query script decoder reply)).1 =
      { outcome := .failed picture, trace := some trace } ∧ trace.requests = [] := by
  have ends : ∃ fault trace, ((session.query script decoder reply).run session.store).1 =
      { result := .error fault, trace } ∧ trace.requests = [] := by
    rw [session.run_query client held]
    cases (prepared script reply).outcome session.store with
    | error fault => exact ⟨fault, {}, rfl, rfl⟩
    | ok made =>
      let store := (prepared script reply).leaves session.store
      have refused := client.report_unsent made.1 decoder made.2 store (.inl closed)
      obtain ⟨⟨fault, failed⟩, unsent⟩ := client.refusal_fails made.1 store
      refine ⟨fault, _, ?_, unsent⟩
      rw [← failed]
      exact refused
  obtain ⟨fault, trace, ended, unsent⟩ := ends
  obtain ⟨picture, failed⟩ :=
    ofFault_failed fault ((session.query script decoder reply).run session.store).2
  refine ⟨picture, trace, ?_, unsent⟩
  change (let queried := (session.query script decoder reply).run session.store
    ({ outcome := ((Outcome.ofResult queried.1.result).run queried.2).1
       trace := some queried.1.trace } : Answer)) = _
  dsimp only
  rw [ended]
  exact congrArg (fun outcome => ({ outcome, trace := some trace } : Answer)) failed

theorem step_query_keeping (session fresh : Session) (same : session.store = fresh.store)
    (client : Client) (cookies : List Text)
    (held : session.client = some (client.keeping cookies)) (found : fresh.client = some client)
    (script : Script) (decoder : Decoder) (reply : ReplyScript) :
    (session.step (.query script decoder reply)).1.bare =
      (fresh.step (.query script decoder reply)).1.bare := by
  have runs : ((session.query script decoder reply).run fresh.store).1.bare =
        ((fresh.query script decoder reply).run fresh.store).1.bare ∧
      ((session.query script decoder reply).run fresh.store).2 =
        ((fresh.query script decoder reply).run fresh.store).2 := by
    rw [run_query session _ held, run_query fresh client found]
    cases (prepared script reply).outcome fresh.store with
    | error fault => exact ⟨rfl, rfl⟩
    | ok made => exact client.query_keeping made.1 decoder made.2 _ cookies
  rw [step_query session, step_query fresh, same]
  cases asked : (session.query script decoder reply).run fresh.store with
  | mk report left =>
    cases again : (fresh.query script decoder reply).run fresh.store with
    | mk other after =>
      rw [asked, again] at runs
      obtain ⟨reports, rfl⟩ := runs
      have results := congrArg Report.result reports
      have traces := congrArg Report.trace reports
      change report.result = other.result at results
      change report.trace.bare = other.trace.bare at traces
      simp only [Answer.bare, Option.map_some, results, traces]

theorem client_of_build (session : Session) (blocking : Bool) (failing : Option Disruption)
    (settings : Settings) (held : session.settings = some settings)
    (absent : session.client = none) (client : Client)
    (built : (session.build blocking failing).2.client = some client) :
    ∃ endpoint, settings.endpoint.outcome session.store = .ok endpoint ∧
      client = { endpoint, blocking } := by
  rw [build_some session blocking failing settings held] at built
  dsimp only at built
  cases made : ((settings.build failing).run session.store).1.endpoint with
  | error fault =>
    rw [made, absent] at built
    nomatch built
  | ok endpoint =>
    rw [made] at built
    refine ⟨endpoint, settings.endpoint_of_build failing session.store endpoint made, ?_⟩
    exact (Option.some.inj built).symm

end Session

/-- A client that is built from settings and then taken through steps, which may change the settings
but build no other client, and none of which is meant to end the program. -/
structure Life where
  settings : Settings
  secret : Text
  held : settings.secret = .text secret
  blocking : Bool
  store : Store
  failing : Option Disruption
  client : Client
  built : (Session.build { store, settings := some settings } blocking failing).2.client =
    some client
  steps : List Session.Step
  kept : ∀ blocking failing, Session.Step.build blocking failing ∉ steps
  goesOn : ((Session.build { store, settings := some settings } blocking failing).2.after
    steps).isOver = false

namespace Life

variable (life : Life)

def session : Session :=
  (Session.build { store := life.store, settings := some life.settings } life.blocking
    life.failing).2.after life.steps

def Rebuilt (fresh : Client) : Prop :=
  ∃ store failing, (Session.build { store, settings := some life.settings } life.blocking
    failing).2.client = some fresh

theorem Rebuilt.same {life : Life} {fresh : Client} (rebuilt : life.Rebuilt fresh) :
    fresh = life.client := by
  obtain ⟨store, failing, again⟩ := rebuilt
  obtain ⟨endpoint, made, same⟩ := Session.client_of_build
    { store := life.store, settings := some life.settings } life.blocking life.failing
    life.settings rfl rfl life.client life.built
  obtain ⟨other, remade, rfl⟩ := Session.client_of_build
    { store, settings := some life.settings } life.blocking failing life.settings rfl rfl fresh
    again
  rw [same, life.settings.endpoint_unique life.secret life.held _ _ endpoint other made remade]

theorem client_open (stays : .close ∉ life.steps) :
    ∃ cookies, life.session.client = some (life.client.keeping cookies) ∧
      (Session.Cookieless life.steps → cookies = []) := by
  obtain ⟨cookies, there, none⟩ := Session.after_client _ life.kept stays
  refine ⟨cookies, ?_, none⟩
  rw [session, there, life.built]
  rfl

theorem client_closed (closes : .close ∈ life.steps) :
    ∃ cookies, life.session.client = some (life.client.keeping cookies).close := by
  obtain ⟨cookies, there⟩ := Session.after_client_closed _ life.kept closes
  refine ⟨cookies, ?_⟩
  rw [session, there, life.built]
  rfl

theorem client_held : ∃ client, life.session.client = some client := by
  by_cases closes : .close ∈ life.steps
  · obtain ⟨cookies, held⟩ := life.client_closed closes
    exact ⟨_, held⟩
  · obtain ⟨cookies, held, -⟩ := life.client_open closes
    exact ⟨_, held⟩

theorem kind_of_built : life.client.blocking = life.blocking := by
  obtain ⟨endpoint, -, same⟩ := Session.client_of_build
    { store := life.store, settings := some life.settings } life.blocking life.failing
    life.settings rfl rfl life.client life.built
  rw [same]

/-- Until it is closed, a client answers each query as one that was just built from the same
settings would, but for the cookies that its request presents, and these are none as well unless a
reply has set some. Once it is closed nothing is requested and no query has a result: a blocking
client refuses each, any other one serializes it first. Entering it changes nothing either way, and
after the first close neither does another one. A query itself leaves nothing behind in the store
but how far one-shot sequences are read. -/
theorem course :
    (.close ∉ life.steps → ∀ fresh, life.Rebuilt fresh → ∀ script decoder reply,
      (life.session.step (.query script decoder reply)).1.bare =
          (Session.step { store := life.session.store, client := some fresh }
            (.query script decoder reply)).1.bare ∧
        (Session.Cookieless life.steps →
          (life.session.step (.query script decoder reply)).1 =
            (Session.step { store := life.session.store, client := some fresh }
              (.query script decoder reply)).1)) ∧
    (.close ∈ life.steps →
      (∃ closed, life.session.client = some closed ∧ closed.isOpen = false ∧
        closed.blocking = life.blocking ∧ closed.endpoint = life.client.endpoint ∧
        ∀ value decoder reply store,
          closed.report value decoder reply store = closed.refusal value store) ∧
      (∀ script decoder reply, ∃ picture trace,
        (life.session.step (.query script decoder reply)).1 =
          { outcome := .failed picture, trace := some trace } ∧ trace.requests = []) ∧
      (life.session.step .close).2 = life.session) ∧
    (life.session.step .close).1 = { outcome := .completed .null } ∧
    life.session.step .enter = ({ outcome := .completed (.bool true) }, life.session) ∧
    ∀ client : Client, ∀ value decoder reply store,
      ((client.query value decoder reply).run store).2 =
        { store with taken := ((client.query value decoder reply).run store).2.taken } := by
  refine ⟨?_, ?_, ?_, ?_, Client.query_still⟩
  · intro stays fresh rebuilt script decoder reply
    obtain ⟨cookies, held, none⟩ := life.client_open stays
    rw [rebuilt.same]
    let anew : Session := { store := life.session.store, client := some life.client }
    refine ⟨life.session.step_query_keeping anew rfl life.client cookies held rfl script decoder
      reply, fun cookieless => ?_⟩
    have unchanged : life.session.client = some life.client := by
      rw [held, none cookieless]
      exact congrArg (fun cookies => some { life.client with cookies }) (List.append_nil _)
    rw [← unchanged]
    rfl
  · intro closes
    obtain ⟨cookies, held⟩ := life.client_closed closes
    refine ⟨⟨_, held, rfl, life.kind_of_built, rfl, ?_⟩, ?_, ?_⟩
    · exact fun value decoder reply store =>
        (life.client.keeping cookies).close.report_unsent value decoder reply store (.inl rfl)
    · exact life.session.step_query_closed _ held rfl
    · exact congrArg Prod.snd (life.session.withClient_fixed _ held .null Client.close rfl)
  · obtain ⟨client, held⟩ := life.client_held
    exact congrArg Prod.fst (life.session.withClient_some client held .null Client.close)
  · obtain ⟨client, held⟩ := life.client_held
    exact life.session.withClient_fixed client held (.bool true) id rfl

end Life

end

namespace Life

def nearby (steps : List Session.Step)
    (kept : ∀ blocking failing, Session.Step.build blocking failing ∉ steps)
    (goesOn : (Session.after { client := some .nearby, settings := some {
      secret := .text "secret", uri := .text "http://localhost:8443/", timeout := .finite false 1 0
      transport := some {} } } steps).isOver = false) : Life where
  settings := {
    secret := .text "secret", uri := .text "http://localhost:8443/", timeout := .finite false 1 0
    transport := some {} }
  secret := "secret"
  held := rfl
  blocking := false
  store := .empty
  failing := none
  client := .nearby
  built := rfl
  steps
  kept
  goesOn

set_option maxRecDepth 4000 in
/-- Two queries that end badly leave no trace behind, but a close between them and the next query
does, although the client is entered again. -/
theorem course_nearby :
    ∃ opened closed : Life, opened.steps = Session.badQueries ∧
      closed.steps = Session.badQueries ++ [.close, .enter] ∧
      (opened.session.step (.query (.constant (.text "b")) .response (.interrupted .stalled))).1 =
        (Session.step { store := opened.session.store, client := some .nearby }
          (.query (.constant (.text "b")) .response (.interrupted .stalled))).1 ∧
      (closed.session.step .close).2 = closed.session ∧
      ∃ picture trace, (closed.session.step (.query (.constant (.text "b")) .response
          (.interrupted .stalled))).1 = { outcome := .failed picture, trace := some trace } ∧
        trace.requests = [] := by
  let opened : Life := nearby Session.badQueries (by simp [Session.badQueries]) rfl
  let closed : Life :=
    nearby (Session.badQueries ++ [.close, .enter]) (by simp [Session.badQueries]) rfl
  have stays : .close ∉ opened.steps := by simp [opened, nearby, Session.badQueries]
  have closes : .close ∈ closed.steps := by simp [closed, nearby]
  have cookieless : Session.Cookieless opened.steps := by
    intro script decoder reply member
    simp only [opened, nearby, Session.badQueries, List.mem_cons, reduceCtorEq,
      Session.Step.query.injEq, List.not_mem_nil, or_false, false_or] at member
    obtain ⟨-, -, rfl⟩ | ⟨-, -, rfl⟩ := member <;> rfl
  obtain ⟨same, -⟩ := opened.course
  obtain ⟨-, spent, -⟩ := closed.course
  obtain ⟨-, refused, still⟩ := spent closes
  have rebuilt : opened.Rebuilt .nearby := ⟨.empty, none, rfl⟩
  refine ⟨opened, closed, rfl, rfl, (same stays .nearby rebuilt _ _ _).2 cookieless, still, ?_⟩
  exact refused _ _ _

end Life

/-- A platform that presents the last cookie that was set. -/
@[reducible]
def Platform.mindful : Platform :=
  { Platform.plain with
    cookie? := fun _ cookies => cookies.getLast?
    cookie_nil := fun _ => rfl }

set_option maxRecDepth 4000 in
/-- A client that has received a cookie presents it with the next query, where a new client presents
none. A client whose host no header can name still complains of that when it is closed. -/
theorem Life.nearby_remembers :
    (let _platform : Platform := .mindful
      let visits : List Session.Step := Session.nearbySteps ++ [
        .query (.constant (.text "a")) .text (.response 200 ["a=1"] (.chunks [] none))]
      let presented (session : Session) : Option (List (Option Text)) :=
        (session.step (.query (.constant (.text "b")) .text (.interrupted .stalled))).1.trace.map
          fun trace => trace.requests.map Request.cookie?
      presented ((Session.started "secret" .empty).after visits) = some [some (.ofString "a=1")] ∧
        presented { client := some .nearby } = some [none]) ∧
      (Client.zoned.close.report (.text "a") .text (.interrupted .stalled) .empty).result =
        .error (.ambient .unicodeEncodeError []) :=
  ⟨⟨rfl, rfl⟩, rfl⟩

end QueryWire
