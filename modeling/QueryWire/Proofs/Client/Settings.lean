import QueryWire.Proofs.Client.Endpoint
import QueryWire.Proofs.Value.Frame

/-!
How little settings have to do with the store. What is refused shows the same in every store, and
how many identities were handed out only shows in that of a NaN, which is not seen. How far one-shot
sequences are read matters to a uri that is no text and no url, since it is shown when it is
refused; no other build looks at the store.
-/

namespace QueryWire

open Run (Habit)

section

variable [Platform]

/-- A fault that shows the same in every store, which stays as it is then. -/
def Fault.Steady (fault : Fault) : Prop := ∃ shown : Picture, fault.picture = pure shown

namespace Fault

theorem steady_worded (own : Failure.Kind) (message : Text) :
    (failure (.plain own (.text message) .null)).Steady := ⟨_, rfl⟩

theorem steady_of_kind {fault : Fault} {kind : FaultKind} (same : fault.kind? = some kind) :
    fault.Steady := by
  cases fault with
  | failure cause => nomatch same
  | refused kind message => exact ⟨_, rfl⟩
  | ambient kind message => exact ⟨_, rfl⟩

theorem Usual.steady {fault : Fault} (usual : fault.Usual) : fault.Steady := by
  obtain ⟨message, same⟩ | ⟨kind, -, same⟩ := usual
  · cases fault with
    | failure cause =>
      cases same
      exact steady_worded _ message
    | refused kind message => exact steady_of_kind rfl
    | ambient kind message => exact steady_of_kind rfl
  · exact steady_of_kind same

end Fault

def Fault.seen (fault : Fault) : Outcome := ((Outcome.ofFault fault).run .empty).1

theorem Fault.Steady.run_ofFault {fault : Fault} (steady : fault.Steady) (store : Store) :
    (Outcome.ofFault fault).run store = (fault.seen, store) := by
  obtain ⟨shown, taken⟩ := steady
  rw [seen, Outcome.ofFault, taken]
  rfl

theorem Fault.Steady.seen_failed {fault : Fault} (steady : fault.Steady) :
    ∃ shown, fault.seen = .failed shown := by
  obtain ⟨shown, taken⟩ := steady
  refine ⟨shown, ?_⟩
  rw [seen, Outcome.ofFault, taken]
  rfl

theorem transportFault_steady (disruption : Disruption) : (transportFault disruption).Steady := by
  rw [transportFault]
  split
  · exact Fault.steady_worded _ _
  · exact Fault.steady_of_kind rfl

end

namespace Settings

theorem seconds_text (identity : Nat) (spelling : Text) :
    seconds identity (.text spelling) =
      (Binary64.ofText? identity spelling).elim (.error (.ambient .valueError [])) .ok := by
  rw [seconds]
  cases Binary64.ofText? identity spelling <;> rfl

theorem seconds_bytes (identity : Nat) (spelling : Octets) :
    seconds identity (.bytes spelling) =
      (Binary64.ofOctets? identity spelling).elim (.error (.ambient .valueError [])) .ok := by
  rw [seconds]
  cases Binary64.ofOctets? identity spelling <;> rfl

theorem seconds_steady [Platform] (identity : Nat) (timeout : Value) (fault : Fault)
    (failed : seconds identity timeout = .error fault) : fault.Steady := by
  have reading (read : Option Binary64)
      (failed : read.elim (.error (.ambient .valueError [])) Except.ok = .error fault) :
      fault.Steady := by
    cases read <;> cases failed
    exact Fault.steady_of_kind rfl
  cases timeout with
  | text spelling =>
    rw [seconds_text] at failed
    exact reading _ failed
  | bytes spelling =>
    rw [seconds_bytes] at failed
    exact reading _ failed
  | int value =>
    rw [seconds] at failed
    split at failed <;> cases failed
    exact Fault.steady_of_kind rfl
  | duration _ | bool _ | float _ => cases failed
  | _ =>
    cases failed
    exact Fault.steady_of_kind rfl

theorem withTimeout_steady [Platform] (settings : Settings) (identity : Nat) (timeout : Value)
    (fault : Fault) (failed : settings.withTimeout identity timeout = .error fault) : fault.Steady := by
  rw [withTimeout] at failed
  cases read : seconds identity timeout with
  | error cause =>
    rw [read] at failed
    cases failed
    exact seconds_steady identity timeout fault read
  | ok number =>
    simp only [read, bind, Except.bind] at failed
    split at failed
    · cases failed
      exact Fault.steady_of_kind rfl
    · nomatch failed

end Settings

theorem Url.isWeb_holds [Platform] (url : Url) (habit : Habit) :
    habit.Holds (liftM url.isWeb : Run Bool) := by
  obtain ⟨-, same⟩ | ⟨-, ⟨-, same⟩ | ⟨-, same⟩⟩ := url.isWeb_cases
  · rw [same]
    exact habit.result true
  · rw [same]
    exact habit.result false
  · rw [same]
    exact habit.stops (.inl ⟨_, rfl⟩)

section

variable (habit : Habit)
  (refuses : ∀ {α : Type} (message : Text), habit.Holds (throw (.configuration message) : Run α))

include refuses

theorem refuseUri_holds (uri : Value) (reason : Text) : habit.Holds (refuseUri uri reason) :=
  habit.bind (uri.display_holds habit) fun _ => refuses _

variable [Platform]

theorem readUri_holds (uri : Value) : habit.Holds (readUri uri) := by
  have refused := refuseUri_holds habit refuses
  cases uri with
  | url found => exact habit.result found
  | text content =>
    rw [readUri]
    cases Url.parse content with
    | ok found => exact habit.result found
    | error cause =>
      cases cause with
      | unencodable => exact habit.stops (.inl ⟨_, rfl⟩)
      | _ => exact refused _ _
  | _ => exact habit.bind (Value.display_holds habit _) fun _ => refused _ _

theorem Settings.endpoint_holds (settings : Settings) : habit.Holds settings.endpoint := by
  have checks : habit.Holds (checkUri settings.uri) := by
    refine habit.bind (readUri_holds habit refuses settings.uri) fun url => ?_
    refine habit.bind (url.isWeb_holds habit) fun web => ?_
    split
    · exact habit.result url
    · exact refuseUri_holds habit refuses _ _
  have authorizes : habit.Holds (basicAuthorization settings.secret) := by
    refine habit.bind (settings.secret.plain_holds habit) fun user => ?_
    cases Utf8.encode (user ++ ":") with
    | ok octets => exact habit.result _
    | error refusal => exact refuses _
  exact habit.bind checks fun _ => habit.map _ authorizes

end

/-- A store that is the same but for the number of identities. -/
def Store.Near (store later : Store) : Prop := ∃ identities, later = { store with identities }

theorem Store.Near.trans {first second third : Store} (near : first.Near second)
    (close : second.Near third) : first.Near third := by
  obtain ⟨_, rfl⟩ := near
  obtain ⟨identities, rfl⟩ := close
  exact ⟨identities, rfl⟩

namespace Settings

variable (settings : Settings) {store later : Store}

theorem furnish_steady [Platform] (failing : Option Disruption) (verdict : Except Fault Endpoint)
    (steady : ∀ fault, verdict = .error fault → fault.Steady) (fault : Fault)
    (failed : (settings.furnish failing verdict).endpoint = .error fault) : fault.Steady := by
  cases verdict with
  | error cause => exact steady fault failed
  | ok endpoint =>
    unfold furnish at failed
    dsimp only at failed
    split at failed
    next => nomatch failed
    next => nomatch failed
    next =>
      cases failed
      exact transportFault_steady _
    next =>
      cases failed
      exact transportFault_steady _

variable [Platform]

theorem endpoint_still : Run.Still settings.endpoint :=
  settings.endpoint_holds Run.still fun _ => .fault _

theorem endpoint_blind : Run.blind.Holds settings.endpoint :=
  settings.endpoint_holds Run.blind fun _ _ _ => ⟨rfl, rfl⟩

theorem endpoint_steady (store : Store) (fault : Fault)
    (failed : settings.endpoint.outcome store = .error fault) : fault.Steady :=
  settings.endpoint_holds (Run.ending Fault.Steady fun _ usual => usual.steady)
    (fun _ _ => .error (Fault.steady_worded _ _)) store fault failed

theorem endpoint_near (near : store.Near later) :
    settings.endpoint.outcome later = settings.endpoint.outcome store ∧
      (settings.endpoint.leaves store).Near (settings.endpoint.leaves later) := by
  obtain ⟨identities, rfl⟩ := near
  obtain ⟨same, left⟩ := settings.endpoint_blind store identities
  exact ⟨same, identities, left⟩

end Settings

inductive Value.Spelled : Value → Prop
  | text (content : Text) : Spelled (.text content)
  | url (url : Url) : Spelled (.url url)

theorem Value.spelled_of_webUrl? [Platform] {uri : Value} {url : Url}
    (named : uri.webUrl? = some url) :
    uri.Spelled := by
  cases uri with
  | text content => exact .text content
  | url found => exact .url found
  | _ => nomatch named

theorem Value.display_text (content : Text) :
    (Value.text content).display = pure (Quoted.text content) := by
  rw [display, displayWith, showing_of_free [] (.text content) _ _ rfl]

theorem Value.display_url (url : Url) : (Value.url url).display = pure url.display := by
  rw [display, displayWith, showing_of_free [] (.url url) _ _ rfl]

theorem refuseUri_text (content reason : Text) :
    refuseUri (.text content) reason =
      throw (.configuration ("Invalid uri " ++ Quoted.text content ++ ": " ++ reason)) := by
  rw [refuseUri, Value.display_text, pure_bind]

/-- A computation that does not look at the store. -/
def Run.Decided {α : Type} (run : Run α) : Prop := ∃ verdict : Except Fault α, run = liftM verdict

namespace Run.Decided

variable {α β : Type}

theorem result (value : α) : Decided (pure value) := ⟨.ok value, rfl⟩

theorem fault (fault : Fault) : Decided (throw fault : Run α) := ⟨.error fault, rfl⟩

theorem bind {run : Run α} {next : α → Run β} (first : Decided run)
    (others : ∀ value, Decided (next value)) : Decided (run >>= next) := by
  obtain ⟨verdict, rfl⟩ := first
  cases verdict with
  | error cause => exact fault cause
  | ok value =>
    rw [lift_ok, pure_bind]
    exact others value

theorem outcome_eq {run : Run α} (decided : Decided run) (store later : Store) :
    run.outcome later = run.outcome store := by
  obtain ⟨verdict, rfl⟩ := decided
  cases verdict <;> rfl

theorem leaves_eq {run : Run α} (decided : Decided run) (store : Store) :
    run.leaves store = store := by
  obtain ⟨verdict, rfl⟩ := decided
  cases verdict <;> rfl

end Run.Decided

open Run (Decided)

section

variable {uri : Value}

theorem refuseUri_decided (spelled : uri.Spelled) (reason : Text) :
    Decided (refuseUri uri reason) := by
  cases spelled with
  | text content =>
    rw [refuseUri_text]
    exact .fault _
  | url url =>
    rw [refuseUri, Value.display_url, pure_bind]
    exact .fault _

variable [Platform]

theorem readUri_decided (spelled : uri.Spelled) : Decided (readUri uri) := by
  cases id spelled with
  | url url => exact .result url
  | text content =>
    rw [readUri]
    cases Url.parse content with
    | ok url => exact .result url
    | error cause =>
      cases cause with
      | unencodable => exact .fault _
      | _ => exact refuseUri_decided spelled _

theorem checkUri_decided (spelled : uri.Spelled) : Decided (checkUri uri) := by
  refine (readUri_decided spelled).bind fun url => ?_
  refine Decided.bind ⟨url.isWeb, rfl⟩ fun web => ?_
  split
  · exact .result url
  · exact refuseUri_decided spelled _

end

namespace Settings

variable [Platform] (settings : Settings) (secret : Text) (held : settings.secret = .text secret)

include held

/-- With a text or a url nothing depends on the store. -/
theorem endpoint_decided (spelled : settings.uri.Spelled) : Decided settings.endpoint := by
  refine (checkUri_decided spelled).bind fun uri => ?_
  rw [held, basicAuthorization_text]
  cases Utf8.encode (secret ++ ":") with
  | ok octets => exact .result _
  | error refusal => exact .fault _

theorem endpoint_unspelled (unspelled : ¬settings.uri.Spelled) (store : Store) :
    ∃ fault, settings.endpoint.outcome store = .error fault := by
  cases built : settings.endpoint.outcome store with
  | error fault => exact ⟨fault, rfl⟩
  | ok endpoint =>
    obtain ⟨named, -⟩ := (settings.endpoint_iff secret held store endpoint).mp built
    exact (unspelled (Value.spelled_of_webUrl? named)).elim

end Settings

def Binary64.anonymous : Binary64 → Binary64
  | .nan _ => .nan 0
  | number => number

namespace Binary64

variable (number : Binary64)

theorem toText_anonymous : number.anonymous.toText = number.toText := by
  cases number <;> rfl

theorem isAtMostZero_anonymous : number.anonymous.isAtMostZero = number.isAtMostZero := by
  cases number <;> rfl

theorem spelled?_anonymous (first second : Nat) (text : Text) :
    (spelled? first text).map anonymous = (spelled? second text).map anonymous := by
  unfold spelled?
  dsimp only
  split
  · rfl
  · split <;> rfl

theorem read?_anonymous (first second : Nat) (spelling : Text) :
    (read? first spelling).map anonymous = (read? second spelling).map anonymous := by
  rw [read?, read?]
  cases Numeral.ungroup? false (Numeral.trim spelling) with
  | none => rfl
  | some text => exact spelled?_anonymous first second text

end Binary64

def Settings.anonymous (settings : Settings) : Settings :=
  { settings with timeout := settings.timeout.anonymous }

def Endpoint.anonymous (endpoint : Endpoint) : Endpoint :=
  { endpoint with timeout := endpoint.timeout.anonymous }

def Client.anonymous (client : Client) : Client :=
  { client with endpoint := client.endpoint.anonymous }

namespace Settings

theorem seconds_anonymous (first second : Nat) (timeout : Value) :
    (seconds first timeout).map Binary64.anonymous =
      (seconds second timeout).map Binary64.anonymous := by
  have readings (one other : Option Binary64)
      (same : one.map Binary64.anonymous = other.map Binary64.anonymous) :
      (one.elim (.error (.ambient .valueError [])) .ok : Except Fault Binary64).map
          Binary64.anonymous =
        (other.elim (.error (.ambient .valueError [])) .ok : Except Fault Binary64).map
          Binary64.anonymous := by
    cases one with
    | none =>
      cases other with
      | none => rfl
      | some number => cases same
    | some number =>
      cases other with
      | none => cases same
      | some found => exact congrArg Except.ok (Option.some.inj same)
  cases timeout with
  | text spelling =>
    rw [seconds_text, seconds_text]
    exact readings _ _ (Binary64.read?_anonymous first second _)
  | bytes spelling =>
    rw [seconds_bytes, seconds_bytes]
    exact readings _ _ (Binary64.read?_anonymous first second _)
  | _ => rfl

variable {settings other : Settings}

theorem parts_of_anonymous (same : other.anonymous = settings.anonymous) :
    other.secret = settings.secret ∧ other.uri = settings.uri ∧
      other.transport = settings.transport := by
  obtain ⟨secret, uri, -, transport⟩ := Settings.mk.inj same
  exact ⟨secret, uri, transport⟩

theorem withTimeout_anonymous (same : other.anonymous = settings.anonymous) (first second : Nat)
    (timeout : Value) :
    (other.withTimeout second timeout).map anonymous =
      (settings.withTimeout first timeout).map anonymous := by
  have reads := seconds_anonymous second first timeout
  rw [withTimeout, withTimeout]
  obtain ⟨fault, one, another⟩ | ⟨number, found, one, another, numbers⟩ := cases_of_map_eq reads
  · rw [one, another]
    rfl
  · have limit : found.isAtMostZero = number.isAtMostZero := by
      rw [← found.isAtMostZero_anonymous, numbers, number.isAtMostZero_anonymous]
    have text : found.toText = number.toText := by
      rw [← found.toText_anonymous, numbers, number.toText_anonymous]
    simp only [one, another, bind, Except.bind, limit, text]
    split
    · rfl
    · change Except.ok { other.anonymous with timeout := found.anonymous } =
        Except.ok { settings.anonymous with timeout := number.anonymous }
      rw [same, numbers]

variable [Platform]

theorem endpoint_anonymous (settings : Settings) :
    settings.anonymous.endpoint = (do return (← settings.endpoint).anonymous) := by
  simp only [endpoint, bind_assoc, pure_bind]
  rfl

theorem outcome_endpoint (same : other.anonymous = settings.anonymous) (store : Store) :
    (other.endpoint.outcome store).map Endpoint.anonymous =
      (settings.endpoint.outcome store).map Endpoint.anonymous := by
  have views (settings : Settings) : settings.anonymous.endpoint.outcome store =
      (settings.endpoint.outcome store).map Endpoint.anonymous := by
    rw [endpoint_anonymous, Run.outcome_bind]
    cases settings.endpoint.outcome store <;> rfl
  rw [← views, ← views, same]

theorem leaves_endpoint (same : other.anonymous = settings.anonymous) (store : Store) :
    other.endpoint.leaves store = settings.endpoint.leaves store := by
  have views (settings : Settings) : settings.anonymous.endpoint.leaves store =
      settings.endpoint.leaves store := by
    rw [endpoint_anonymous, Run.leaves_bind]
    cases settings.endpoint.outcome store <;> rfl
  rw [← views, ← views settings, same]

end Settings

end QueryWire
