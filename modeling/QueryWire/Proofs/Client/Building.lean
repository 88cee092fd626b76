import QueryWire.Proofs.Client.Settings
import QueryWire.Proofs.Expr.Frame

/-!
The building of clients. A builder of clients is told a uri, timeouts and a transport, and builds
clients in between. A client has what was last told before it was built, and nothing that is told
later changes it. What is refused leaves no trace in the builder. But to show a uri that is no text
and no url can use up one-shot sequences, and then the next refusal of such a uri may be another
one.
-/

namespace QueryWire

inductive Setting where
  | uri (value : Value)
  | timeout (value : Value)
  | transport (provided : Option Transport)

namespace Setting

def step : Setting → Session.Step
  | .uri value => .uri (.constant value)
  | .timeout value => .timeout (.constant value)
  | .transport provided => .transport provided

def apply (identity : Nat) (settings : Settings) : Setting → Except Fault Settings
  | .uri value => .ok { settings with uri := value }
  | .timeout value => settings.withTimeout identity value
  | .transport provided => .ok { settings with transport := provided }

theorem apply_anonymous (setting : Setting) {settings other : Settings}
    (same : other.anonymous = settings.anonymous) (first second : Nat) :
    (setting.apply second other).map Settings.anonymous =
      (setting.apply first settings).map Settings.anonymous := by
  cases setting with
  | uri value =>
    exact congrArg (fun settings : Settings => Except.ok { settings with uri := value }) same
  | timeout value => exact Settings.withTimeout_anonymous same first second value
  | transport provided =>
    exact congrArg (fun settings : Settings => Except.ok { settings with transport := provided })
      same

theorem apply_steady [Platform] (setting : Setting) (identity : Nat) (settings : Settings)
    (fault : Fault) (refused : setting.apply identity settings = .error fault) : fault.Steady := by
  cases setting with
  | timeout value => exact settings.withTimeout_steady identity value fault refused
  | uri value => cases refused
  | transport provided => cases refused

theorem run_change [Platform] (setting : Setting) (settings : Settings) (store : Store) :
    ∃ change identities, setting.step.change? = some change ∧
      ExceptT.run (change settings) store =
        (setting.apply (store.identities + 1) settings, { store with identities }) := by
  cases setting with
  | uri value => exact ⟨_, store.identities, rfl, rfl⟩
  | timeout value =>
    refine ⟨_, store.identities + 1, rfl, ?_⟩
    let accepted := settings.withTimeout (store.identities + 1) value
    change ExceptT.run (liftM accepted : Run Settings) _ = (accepted, _)
    cases accepted <;> rfl
  | transport provided => exact ⟨_, store.identities, rfl, rfl⟩

end Setting

inductive Setup where
  | set (setting : Setting)
  | build (blocking : Bool) (failing : Option Disruption)

namespace Setup

def step : Setup → Session.Step
  | .set setting => setting.step
  | .build blocking failing => .build blocking failing

def uri? : Setup → Option Value
  | .set (.uri value) => some value
  | _ => none

def timeout? : Setup → Option Binary64
  | .set (.timeout value) =>
    (Settings.seconds 0 value).toOption.filter fun seconds => !seconds.isAtMostZero
  | _ => none

def last {α : Type} (tells? : Setup → Option α) (calls : List Setup) : Option α :=
  calls.reverse.findSome? tells?

theorem last_concat {α : Type} (tells? : Setup → Option α) (calls : List Setup) (call : Setup) :
    last tells? (calls ++ [call]) = (tells? call).or (last tells? calls) := by
  rw [last, List.reverse_append, List.reverse_singleton, List.singleton_append,
    List.findSome?_cons]
  cases tells? call <;> rfl

def lastUri (calls : List Setup) : Value := (last uri? calls).getD (.text "https://db.fauna.com")

def lastTimeout (calls : List Setup) : Binary64 :=
  (last timeout? calls).getD (.ofQuotient false 60 1)

end Setup

namespace Session

variable [Platform]

def setUp (session : Session) (calls : List Setup) : Session :=
  session.after (calls.map Setup.step)

variable (session : Session) (settings : Settings)

/-- A call that sets something changes the settings, or it is refused and changes nothing. -/
theorem step_set (held : session.settings = some settings) (setting : Setting) :
    ∃ identities, session.step setting.step =
      match setting.apply (session.store.identities + 1) settings with
      | .ok changed => ({ outcome := .completed (.bool true) }, { session with
          store := { session.store with identities }
          settings := some changed })
      | .error fault => ({ outcome := fault.seen }, { session with
          store := { session.store with identities } }) := by
  have steady := setting.apply_steady (session.store.identities + 1) settings
  obtain ⟨change, identities, changes, runs⟩ := setting.run_change settings session.store
  refine ⟨identities, ?_⟩
  rw [step_of_change session setting.step change changes, configure, held]
  simp only [StateT.run, runs]
  cases made : setting.apply (session.store.identities + 1) settings with
  | ok changed => rfl
  | error fault =>
    have shown := (steady fault made).run_ofFault { session.store with identities }
    unfold StateT.run at shown
    simp only [shown]

theorem step_build (held : session.settings = some settings) (blocking : Bool)
    (failing : Option Disruption) :
    session.step (.build blocking failing) =
      let built := settings.furnish failing (settings.endpoint.outcome session.store)
      match built.endpoint with
      | .ok endpoint =>
        ({ outcome := .completed (endpointPicture endpoint), transports := some built.transports },
          { session with
            store := settings.endpoint.leaves session.store
            client := some { endpoint, blocking } })
      | .error fault =>
        ({ outcome := fault.seen, transports := some built.transports },
          { session with store := settings.endpoint.leaves session.store }) := by
  have steady := settings.furnish_steady failing _ (settings.endpoint_steady session.store)
  change session.build blocking failing = _
  rw [build_some session blocking failing settings held, settings.run_build]
  dsimp only
  cases built : (settings.furnish failing (settings.endpoint.outcome session.store)).endpoint with
  | ok endpoint => rfl
  | error fault =>
    dsimp only
    rw [(steady fault built).run_ofFault]

end Session

theorem Settings.withTimeout_toOption (settings : Settings) (identity : Nat) (value : Value) :
    (settings.withTimeout identity value).toOption.map (fun changed => changed.timeout.anonymous) =
      (Setup.set (.timeout value)).timeout?.map Binary64.anonymous := by
  have reads := seconds_anonymous identity 0 value
  rw [withTimeout, Setup.timeout?]
  obtain ⟨fault, one, another⟩ | ⟨number, found, one, another, numbers⟩ := cases_of_map_eq reads
  · rw [one, another]
    rfl
  · have limit : found.isAtMostZero = number.isAtMostZero := by
      rw [← found.isAtMostZero_anonymous, numbers, number.isAtMostZero_anonymous]
    simp only [one, another, bind, Except.bind, limit, Except.toOption, Option.filter_some]
    cases number.isAtMostZero with
    | true => rfl
    | false => exact congrArg some numbers

structure Settings.MadeFrom (secret : Value) (calls : List Setup) (settings : Settings) : Prop where
  secret : settings.secret = secret
  uri : settings.uri = Setup.lastUri calls
  timeout : settings.timeout.anonymous = (Setup.lastTimeout calls).anonymous

namespace Settings.MadeFrom

variable {secret : Value} {calls : List Setup} {settings : Settings}

theorem extend {call : Setup} {changed : Settings} (kept : changed.secret = secret)
    (uri : changed.uri = call.uri?.getD (Setup.lastUri calls))
    (timeout : changed.timeout.anonymous =
      (call.timeout?.getD (Setup.lastTimeout calls)).anonymous) :
    changed.MadeFrom secret (calls ++ [call]) := by
  refine ⟨kept, ?_, ?_⟩
  · rw [uri, Setup.lastUri, Setup.lastUri, Setup.last_concat]
    cases call.uri? <;> rfl
  · rw [timeout, Setup.lastTimeout, Setup.lastTimeout, Setup.last_concat]
    cases call.timeout? <;> rfl

theorem set (told : settings.MadeFrom secret calls) (setting : Setting) (identity : Nat) :
    match setting.apply identity settings with
    | .ok changed => changed.MadeFrom secret (calls ++ [.set setting])
    | .error _ => settings.MadeFrom secret (calls ++ [.set setting]) := by
  cases setting with
  | uri value => exact .extend told.secret rfl told.timeout
  | timeout value =>
    have tells := settings.withTimeout_toOption identity value
    rw [Setting.apply]
    cases accepted : settings.withTimeout identity value with
    | error fault =>
      rw [accepted] at tells
      refine .extend told.secret told.uri ?_
      rw [Option.map_eq_none_iff.mp tells.symm]
      exact told.timeout
    | ok changed =>
      rw [accepted] at tells
      obtain ⟨number, found, same⟩ := Option.map_eq_some_iff.mp tells.symm
      obtain ⟨seconds, -, rfl⟩ := settings.withTimeout_inv identity value changed accepted
      refine .extend told.secret told.uri ?_
      rw [found]
      exact same.symm
  | transport provided => exact .extend told.secret told.uri told.timeout

end Settings.MadeFrom

namespace Session

variable [Platform]

def MadeFrom (secret : Value) (calls : List Setup) (session : Session) : Prop :=
  ∃ settings, session.settings = some settings ∧ settings.MadeFrom secret calls

section MadeFrom

variable {secret : Value} {calls : List Setup} {session : Session}

omit [Platform] in
theorem madeFrom_builder (secret : Value) (store : Store) :
    ({ store, settings := some { secret } } : Session).MadeFrom secret [] :=
  ⟨{ secret }, rfl, rfl, rfl, rfl⟩

theorem settings_build (settings : Settings) (held : session.settings = some settings)
    (blocking : Bool) (failing : Option Disruption) :
    (session.step (.build blocking failing)).2.settings = some settings := by
  rw [session.step_build settings held]
  dsimp only
  split <;> exact held

theorem MadeFrom.step (told : session.MadeFrom secret calls) (call : Setup) :
    (session.step call.step).2.MadeFrom secret (calls ++ [call]) := by
  obtain ⟨settings, held, told⟩ := told
  cases call with
  | set setting =>
    obtain ⟨identities, stepped⟩ := session.step_set settings held setting
    have heeded := told.set setting (session.store.identities + 1)
    rw [Setup.step, stepped]
    cases made : setting.apply (session.store.identities + 1) settings with
    | ok changed =>
      rw [made] at heeded
      exact ⟨changed, rfl, heeded⟩
    | error fault =>
      rw [made] at heeded
      exact ⟨settings, held, heeded⟩
  | build blocking failing =>
    exact ⟨settings, settings_build settings held blocking failing,
      .extend told.secret told.uri told.timeout⟩

theorem MadeFrom.setUp (told : session.MadeFrom secret calls) (later : List Setup) :
    (session.setUp later).MadeFrom secret (calls ++ later) := by
  induction later generalizing session calls with
  | nil =>
    rw [List.append_nil]
    exact told
  | cons call later ih =>
    rw [List.append_cons]
    exact ih (told.step call)

theorem MadeFrom.timeout_iff (told : session.MadeFrom secret calls) (value : Value) :
    (session.step (.timeout (.constant value))).1.outcome = .completed (.bool true) ↔
      (Setup.set (.timeout value)).timeout?.isSome := by
  obtain ⟨settings, held, -⟩ := told
  have tells := settings.withTimeout_toOption (session.store.identities + 1) value
  have steady := settings.withTimeout_steady (session.store.identities + 1) value
  obtain ⟨identities, stepped⟩ := session.step_set settings held (.timeout value)
  change session.step (.timeout (.constant value)) = _ at stepped
  rw [stepped, Setting.apply]
  cases made : settings.withTimeout (session.store.identities + 1) value with
  | ok changed =>
    rw [made] at tells
    obtain ⟨number, found, -⟩ := Option.map_eq_some_iff.mp tells.symm
    rw [found]
    exact iff_of_true rfl rfl
  | error fault =>
    rw [made] at tells
    rw [Option.map_eq_none_iff.mp tells.symm]
    obtain ⟨shown, failed⟩ := (steady fault made).seen_failed
    dsimp only
    rw [failed]
    exact iff_of_false nofun nofun

/-- A build that succeeds gives a client with the endpoint of the settings. -/
theorem build_completed (settings : Settings) (held : session.settings = some settings)
    (blocking : Bool) (failing : Option Disruption) (shown : Picture)
    (done : (session.step (.build blocking failing)).1.outcome = .completed shown) :
    ∃ endpoint, shown = endpointPicture endpoint ∧
      (session.step (.build blocking failing)).2.client = some { endpoint, blocking } ∧
      settings.endpoint.outcome session.store = .ok endpoint := by
  have steady := settings.furnish_steady failing _ (settings.endpoint_steady session.store)
  rw [session.step_build settings held] at done ⊢
  dsimp only at done ⊢
  cases built : (settings.furnish failing (settings.endpoint.outcome session.store)).endpoint with
  | error fault =>
    obtain ⟨words, failed⟩ := (steady fault built).seen_failed
    rw [built] at done
    nomatch failed.symm.trans done
  | ok endpoint =>
    rw [built] at done
    exact ⟨endpoint, (Outcome.completed.inj done).symm, rfl,
      settings.furnish_ok failing _ endpoint built⟩

end MadeFrom

def Told (secret : Text) (calls : List Setup) (session : Session) : Prop :=
  session.MadeFrom (.text secret) calls

variable {secret : Text} {calls : List Setup} {session other : Session}

omit [Platform] in
theorem told_started (secret : Text) (store : Store) : (started secret store).Told secret [] :=
  madeFrom_builder (.text secret) store

theorem Told.step (told : session.Told secret calls) (call : Setup) :
    (session.step call.step).2.Told secret (calls ++ [call]) :=
  MadeFrom.step told call

theorem Told.setUp (told : session.Told secret calls) (later : List Setup) :
    (session.setUp later).Told secret (calls ++ later) :=
  MadeFrom.setUp told later

/-- Two sessions with the same settings and the same client, but for the identity of a NaN. What
their stores hold is another question. -/
structure Parallel (session other : Session) : Prop where
  settings : other.settings.map Settings.anonymous = session.settings.map Settings.anonymous
  client : other.client.map Client.anonymous = session.client.map Client.anonymous

/-- The answer of a build that is refused before it makes a transport. -/
def refusal (words : Picture) : Answer := { outcome := .failed words, transports := some 0 }

namespace Parallel

omit [Platform] in
theorem settings_eq (parallel : Parallel session other) (given : Settings)
    (held : session.settings = some given) :
    ∃ taken, other.settings = some taken ∧ taken.anonymous = given.anonymous := by
  have same := parallel.settings
  rw [held] at same
  exact Option.map_eq_some_iff.mp same

variable {given taken : Settings}

theorem set (parallel : Parallel session other) (held : session.settings = some given)
    (setting : Setting) :
    (other.step setting.step).1 = (session.step setting.step).1 ∧
      Parallel (session.step setting.step).2 (other.step setting.step).2 ∧
      (session.store.Near other.store →
        (session.step setting.step).2.store.Near (other.step setting.step).2.store) := by
  obtain ⟨taken, found, same⟩ := parallel.settings_eq given held
  obtain ⟨first, here⟩ := session.step_set given held setting
  obtain ⟨second, there⟩ := other.step_set taken found setting
  have near : session.store.Near other.store →
      Store.Near { session.store with identities := first }
        { other.store with identities := second } := by
    rintro ⟨_, stores⟩
    exact ⟨second, by rw [stores]⟩
  rw [here, there]
  obtain ⟨fault, one, another⟩ | ⟨changed, made, one, another, alike⟩ := cases_of_map_eq
    (setting.apply_anonymous same (session.store.identities + 1) (other.store.identities + 1))
  · rw [one, another]
    exact ⟨rfl, ⟨parallel.settings, parallel.client⟩, near⟩
  · rw [one, another]
    exact ⟨rfl, ⟨congrArg some alike, parallel.client⟩, near⟩

theorem build_alike (parallel : Parallel session other) (held : session.settings = some given)
    (found : other.settings = some taken) (same : taken.anonymous = given.anonymous)
    (blocking : Bool) (failing : Option Disruption)
    (verdicts : (taken.endpoint.outcome other.store).map Endpoint.anonymous =
      (given.endpoint.outcome session.store).map Endpoint.anonymous) :
    (other.step (.build blocking failing)).1 = (session.step (.build blocking failing)).1 ∧
      Parallel (session.step (.build blocking failing)).2
        (other.step (.build blocking failing)).2 := by
  obtain ⟨-, -, custom⟩ := Settings.parts_of_anonymous same
  obtain ⟨endpoints, transports⟩ :=
    Settings.furnish_map Endpoint.anonymous custom failing verdicts
  rw [session.step_build given held, other.step_build taken found]
  dsimp only
  rw [transports]
  obtain ⟨fault, one, another⟩ | ⟨endpoint, built, one, another, alike⟩ :=
    cases_of_map_eq endpoints
  · rw [one, another]
    exact ⟨rfl, parallel.settings, parallel.client⟩
  · have shown : endpointPicture built = endpointPicture endpoint := by
      have pictures (endpoint : Endpoint) :
          endpointPicture endpoint = endpointPicture endpoint.anonymous := by
        rw [endpointPicture, endpointPicture, Endpoint.anonymous, Binary64.toText_anonymous]
      rw [pictures built, alike, ← pictures endpoint]
    rw [one, another]
    dsimp only
    rw [shown]
    refine ⟨rfl, parallel.settings, ?_⟩
    simp only [Option.map_some, Client.anonymous, alike]

theorem build_refused (parallel : Parallel session other) (held : session.settings = some given)
    (found : other.settings = some taken) (blocking : Bool) (failing : Option Disruption)
    (fault cause : Fault) (refused : given.endpoint.outcome session.store = .error fault)
    (too : taken.endpoint.outcome other.store = .error cause) :
    (∃ words others, (session.step (.build blocking failing)).1 = refusal words ∧
        (other.step (.build blocking failing)).1 = refusal others) ∧
      Parallel (session.step (.build blocking failing)).2
        (other.step (.build blocking failing)).2 := by
  obtain ⟨words, here⟩ := (given.endpoint_steady session.store fault refused).seen_failed
  obtain ⟨others, there⟩ := (taken.endpoint_steady other.store cause too).seen_failed
  rw [session.step_build given held, other.step_build taken found, refused, too]
  dsimp only [Settings.furnish]
  rw [here, there]
  exact ⟨⟨words, others, rfl, rfl⟩, parallel.settings, parallel.client⟩

/-- Builds are answered in the same way if the stores are the same but for the number of identities,
and otherwise too unless the uri is refused for what it is. -/
theorem build (parallel : Parallel session other) (held : session.settings = some given)
    (secret : Text) (kept : given.secret = .text secret) (blocking : Bool)
    (failing : Option Disruption) :
    Parallel (session.step (.build blocking failing)).2
        (other.step (.build blocking failing)).2 ∧
      (session.store.Near other.store →
        (other.step (.build blocking failing)).1 = (session.step (.build blocking failing)).1) ∧
      ((other.step (.build blocking failing)).1 = (session.step (.build blocking failing)).1 ∨
        ¬given.uri.Spelled ∧ ∃ words others,
          (session.step (.build blocking failing)).1 = refusal words ∧
            (other.step (.build blocking failing)).1 = refusal others) := by
  obtain ⟨taken, found, same⟩ := parallel.settings_eq given held
  have alike := parallel.build_alike held found same blocking failing
  rw [Settings.outcome_endpoint same other.store] at alike
  by_cases spelled : given.uri.Spelled
  · have decided := given.endpoint_decided secret kept spelled
    obtain ⟨answers, after⟩ := alike (by rw [decided.outcome_eq session.store other.store])
    exact ⟨after, fun _ => answers, .inl answers⟩
  · obtain ⟨secrets, uris, -⟩ := Settings.parts_of_anonymous same
    obtain ⟨fault, refused⟩ := given.endpoint_unspelled secret kept spelled session.store
    obtain ⟨cause, too⟩ := taken.endpoint_unspelled secret (secrets.trans kept) (uris ▸ spelled)
      other.store
    obtain ⟨answers, after⟩ :=
      parallel.build_refused held found blocking failing fault cause refused too
    refine ⟨after, fun near => ?_, .inr ⟨spelled, answers⟩⟩
    exact (alike (by rw [(given.endpoint_near near).1])).1

end Parallel

theorem store_build (settings : Settings) (held : session.settings = some settings)
    (blocking : Bool) (failing : Option Disruption) :
    (session.step (.build blocking failing)).2.store = settings.endpoint.leaves session.store := by
  rw [session.step_build settings held]
  dsimp only
  split <;> rfl

/-- Two sessions stay in parallel, and so do stores that are the same but for the number of
identities. They give the same answers then, and otherwise too unless a uri is refused that is no
text and no url. -/
theorem Parallel.step (parallel : Parallel session other) (told : session.Told secret calls)
    (call : Setup) :
    Parallel (session.step call.step).2 (other.step call.step).2 ∧
      (session.store.Near other.store →
        (other.step call.step).1 = (session.step call.step).1 ∧
          (session.step call.step).2.store.Near (other.step call.step).2.store) ∧
      ((other.step call.step).1 = (session.step call.step).1 ∨
        ¬(Setup.lastUri calls).Spelled ∧ ∃ words others,
          (session.step call.step).1 = refusal words ∧
            (other.step call.step).1 = refusal others) := by
  obtain ⟨given, held, told⟩ := told
  cases call with
  | set setting =>
    obtain ⟨answers, after, near⟩ := parallel.set held setting
    exact ⟨after, fun close => ⟨answers, near close⟩, .inl answers⟩
  | build blocking failing =>
    obtain ⟨taken, found, same⟩ := parallel.settings_eq given held
    obtain ⟨after, answers, otherwise⟩ := parallel.build held secret told.secret blocking failing
    rw [← told.uri]
    refine ⟨after, fun close => ⟨answers close, ?_⟩, otherwise⟩
    rw [Setup.step, store_build given held, store_build taken found,
      Settings.leaves_endpoint same]
    exact (given.endpoint_near close).2

theorem Parallel.setUp (parallel : Parallel session other) (told : session.Told secret calls)
    (later : List Setup) :
    Parallel (session.setUp later) (other.setUp later) ∧
      (session.store.Near other.store →
        (session.setUp later).store.Near (other.setUp later).store) := by
  induction later generalizing session other calls with
  | nil => exact ⟨parallel, id⟩
  | cons call later ih =>
    obtain ⟨after, near, -⟩ := parallel.step told call
    obtain ⟨rest, stores⟩ := ih after (told.step call)
    exact ⟨rest, fun close => stores (near close).2⟩

theorem parallel_of_build_failed (settings : Settings) (held : session.settings = some settings)
    (blocking : Bool) (failing : Option Disruption) (shown : Picture)
    (failed : (session.step (.build blocking failing)).1.outcome = .failed shown) :
    Parallel session (session.step (.build blocking failing)).2 := by
  rw [session.step_build settings held] at failed ⊢
  dsimp only at failed ⊢
  split at failed
  next => cases failed
  next => exact ⟨rfl, rfl⟩

/-- A call that is refused leaves settings and client as they are. It leaves the store as it is too,
but for identities, unless it shows a uri that is no text and no url. -/
theorem Told.failed (told : session.Told secret calls) (call : Setup) (shown : Picture)
    (failed : (session.step call.step).1.outcome = .failed shown) :
    Parallel session (session.step call.step).2 ∧
      ((session.step call.step).2.store.taken = session.store.taken →
        session.store.Near (session.step call.step).2.store) ∧
      (((∃ setting, call = .set setting) ∨ (Setup.lastUri calls).Spelled) →
        (session.step call.step).2.store.taken = session.store.taken) := by
  obtain ⟨settings, held, told⟩ := told
  cases call with
  | set setting =>
    obtain ⟨identities, stepped⟩ := session.step_set settings held setting
    change (session.step setting.step).1.outcome = _ at failed
    rw [Setup.step]
    rw [stepped] at failed ⊢
    cases made : setting.apply (session.store.identities + 1) settings with
    | ok changed =>
      rw [made] at failed
      cases failed
    | error fault => exact ⟨⟨rfl, rfl⟩, fun _ => ⟨identities, rfl⟩, fun _ => rfl⟩
  | build blocking failing =>
    have left := store_build settings held blocking failing
    have still := settings.endpoint_still session.store
    refine ⟨parallel_of_build_failed settings held blocking failing shown failed, ?_, ?_⟩
    · intro same
      change (session.step (.build blocking failing)).2.store.taken = _ at same
      rw [left] at same
      rw [same] at still
      exact ⟨session.store.identities, left.trans still⟩
    · rintro (⟨setting, other⟩ | spelled)
      · cases other
      · have decided := settings.endpoint_decided secret told.secret (told.uri ▸ spelled)
        exact congrArg Store.taken (left.trans (decided.leaves_eq session.store))

theorem Told.build (told : session.Told secret calls) (blocking : Bool)
    (failing : Option Disruption) (shown : Picture)
    (done : (session.step (.build blocking failing)).1.outcome = .completed shown) :
    ∃ endpoint, shown = endpointPicture endpoint ∧
      (session.step (.build blocking failing)).2.client = some { endpoint, blocking } ∧
      (Setup.lastUri calls).webUrl? = some endpoint.uri ∧
      endpoint.timeout.anonymous = (Setup.lastTimeout calls).anonymous ∧
      Authorizes secret endpoint.authorization := by
  obtain ⟨settings, held, told⟩ := told
  obtain ⟨endpoint, pictured, client, made⟩ :=
    build_completed settings held blocking failing shown done
  obtain ⟨named, timeout, authorized⟩ :=
    (settings.endpoint_iff secret told.secret session.store endpoint).mp made
  exact ⟨endpoint, pictured, client, told.uri ▸ named, timeout ▸ told.timeout, authorized⟩

theorem Told.setUp_set (told : session.Told secret calls) (settings : List Setting) :
    (session.setUp (settings.map .set)).client = session.client ∧
      session.store.Near (session.setUp (settings.map .set)).store := by
  induction settings generalizing session calls with
  | nil => exact ⟨rfl, session.store.identities, rfl⟩
  | cons setting settings ih =>
    obtain ⟨given, held, -⟩ := id told
    obtain ⟨identities, stepped⟩ := session.step_set given held setting
    have here : (session.step setting.step).2.client = session.client ∧
        session.store.Near (session.step setting.step).2.store := by
      rw [stepped]
      split <;> exact ⟨rfl, identities, rfl⟩
    obtain ⟨client, stores⟩ := ih (told.step (.set setting))
    exact ⟨client.trans here.1, here.2.trans stores⟩

end Session

theorem Client.report_near [Platform] (client : Client) (value : Value) (decoder : Decoder)
    (reply : Reply) {store later : Store} (near : store.Near later) :
    client.report value decoder reply later = client.report value decoder reply store := by
  obtain ⟨identities, rfl⟩ := near
  cases opened : client.isOpen with
  | true =>
    rw [client.report_open value decoder reply _ opened,
      client.report_open value decoder reply _ opened, value.serialize_blind store identities]
  | false =>
    rw [client.report_unsent value decoder reply _ (.inl opened),
      client.report_unsent value decoder reply _ (.inl opened), refusal, refusal,
      value.serialize_blind store identities]

namespace Session

/-- A client has the uri and the timeout that were told last before it was built, and the
authorization of the secret. A call that is refused makes no difference to any later one, unless it
shows a uri that is no text and no url and reads one-shot sequences for it; then a later build with
such a uri is refused too, but its exception may be another one. To set something changes no client
that there is, and neither its requests nor what its queries come to. -/
theorem builds_separate [Platform] (secret : Text) (store : Store) (calls : List Setup) :
    let session := (started secret store).setUp calls
    (∀ value, (session.step (.timeout (.constant value))).1.outcome = .completed (.bool true) ↔
      (Setup.set (.timeout value)).timeout?.isSome) ∧
    (∀ blocking failing shown,
      (session.step (.build blocking failing)).1.outcome = .completed shown →
        ∃ endpoint, shown = endpointPicture endpoint ∧
          (session.step (.build blocking failing)).2.client = some { endpoint, blocking } ∧
          (Setup.lastUri calls).webUrl? = some endpoint.uri ∧
          endpoint.timeout.anonymous = (Setup.lastTimeout calls).anonymous ∧
          Authorizes secret endpoint.authorization) ∧
    (∀ (call : Setup) (shown : Picture), (session.step call.step).1.outcome = .failed shown →
      let spoilt := (session.step call.step).2
      ((∃ setting, call = .set setting) ∨ (Setup.lastUri calls).Spelled →
        spoilt.store.taken = session.store.taken) ∧
      ∀ (later : List Setup) (next : Setup),
        let unspoilt := (session.setUp later).step next.step
        let answered := (spoilt.setUp later).step next.step
        (spoilt.store.taken = session.store.taken → answered.1 = unspoilt.1) ∧
        (answered.1 = unspoilt.1 ∨ ¬(Setup.lastUri (calls ++ later)).Spelled ∧
          ∃ words others, unspoilt.1 = refusal words ∧ answered.1 = refusal others) ∧
        answered.2.client.map Client.anonymous = unspoilt.2.client.map Client.anonymous) ∧
    ∀ client, session.client = some client →
      ∀ settings : List Setting,
        (session.setUp (settings.map .set)).client = some client ∧
        ∀ value decoder reply,
          client.report value decoder reply (session.setUp (settings.map .set)).store =
            client.report value decoder reply session.store := by
  intro session
  have told : session.Told secret calls := (told_started secret store).setUp calls
  refine ⟨told.timeout_iff, told.build, ?_, ?_⟩
  · intro call shown failed
    obtain ⟨parallel, near, taken⟩ := told.failed call shown failed
    refine ⟨taken, fun later next => ?_⟩
    obtain ⟨after, stores⟩ := parallel.setUp told later
    obtain ⟨clients, answers, otherwise⟩ := after.step (told.setUp later) next
    exact ⟨fun same => (answers (stores (near same))).1, otherwise, clients.client⟩
  · intro client held settings
    obtain ⟨same, near⟩ := told.setUp_set settings
    exact ⟨same.trans held, fun value decoder reply =>
      client.report_near value decoder reply near⟩

def nearbyCalls : List Setup := [
  .set (.timeout (.float (.finite false 1 0))), .set (.transport (some {})),
  .set (.uri (.text "http://localhost:8443/")), .set (.timeout (.text "soon")), .build false none]

set_option maxRecDepth 4000 in
/-- The client has the timeout that was accepted and keeps it, and another timeout that is refused
makes no difference to what is built later. -/
theorem builds_separate_nearby :
    let session := (started "secret" .empty).setUp nearbyCalls
    let spoilt := (session.step (.timeout (.constant (.int 0)))).2
    (∃ shown, (session.step (.timeout (.constant (.int 0)))).1.outcome = .failed shown) ∧
      ((spoilt.setUp [.set (.uri (.text "https://localhost/"))]).step (.build true none)).1 =
        ((session.setUp [.set (.uri (.text "https://localhost/"))]).step (.build true none)).1 ∧
      (session.step (.build true none)).1.outcome =
        .completed (endpointPicture Client.nearby.endpoint) ∧
      Authorizes "secret" Client.nearby.endpoint.authorization ∧
      (session.setUp [.set (.timeout (.int 5)), .set (.uri .null)]).client = some .nearby := by
  intro session spoilt
  have refused : (session.step (.timeout (.constant (.int 0)))).1.outcome =
      .failed (.fault "ValueError" [("message", .text "Timeout must be positive, got 0.0")]) := rfl
  have done : (session.step (.build true none)).1.outcome =
      .completed (endpointPicture Client.nearby.endpoint) := rfl
  have held : session.client = some .nearby := rfl
  obtain ⟨-, builds, refusals, sets⟩ := builds_separate "secret" .empty nearbyCalls
  obtain ⟨endpoint, -, built, -, -, authorized⟩ := builds true none _ done
  obtain ⟨taken, same⟩ := refusals (.set (.timeout (.int 0))) _ refused
  obtain ⟨answers, -, -⟩ := same [.set (.uri (.text "https://localhost/"))] (.build true none)
  obtain ⟨kept, -⟩ := sets .nearby held [.timeout (.int 5), .uri .null]
  refine ⟨⟨_, refused⟩, answers (taken (.inl ⟨_, rfl⟩)), done, ?_, kept⟩
  cases built
  exact authorized

/-- A uri that reads a one-shot sequence when it is shown. -/
def greedyUri : Script :=
  .method (.call .indexValueOfBinding [.constant (.text "b")] []) (.set .reverse)
    [.call .errors [.cursor [.constant (.int 5)]] []]

set_option maxRecDepth 4000 in
/-- The first build is refused because the item cannot be shown, and the second one because of the
uri, in which no item is left. -/
theorem refused_build_interferes :
    let session := (started "secret" .empty).after [.uri greedyUri, .transport (some {})]
    (∃ shown, (session.step (.build false none)).1.outcome = .failed shown) ∧
      ((session.step (.build false none)).2.step (.build false none)).1 ≠
        (session.step (.build false none)).1 := by
  intro session
  have first : (session.step (.build false none)).1 =
      refusal (.fault "AttributeError" []) := rfl
  obtain ⟨words, second⟩ : ∃ words,
      ((session.step (.build false none)).2.step (.build false none)).1 =
        refusal (.fault "ConfigurationError" [("message", .text words), ("code", .null)]) :=
    ⟨_, rfl⟩
  rw [first, second]
  refine ⟨⟨_, rfl⟩, fun same => ?_⟩
  have pictures := Outcome.failed.inj (congrArg Answer.outcome same)
  obtain ⟨-, details⟩ := Picture.fault.inj pictures
  nomatch details

end Session

end QueryWire
