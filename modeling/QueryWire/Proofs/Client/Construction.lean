import QueryWire.Proofs.Client.Settings
import QueryWire.Proofs.Url.Parse

/-!
How a client comes to be. A build looks at the uri, then at the secret, and makes a transport last,
so it makes one exactly if both are fit and none was provided that counts as true, and reports the
first of the three that fails. With a text for a uri and a text for a secret it gives a client or
reports a failure of the configuration, unless the reading of the uri stumbles over a surrogate or
its host stands for no name.
-/

namespace QueryWire

def Value.Encodes (secret : Value) (store : Store) : Prop :=
  ∃ words, secret.plain.outcome store = .ok words ∧ Utf8.Encodable words

theorem basicAuthorization_eq (secret : Value) :
    basicAuthorization secret = (do basicAuthorization (.text (← secret.plain))) := rfl

theorem basicAuthorization_ok_iff (secret : Value) (store : Store) (authorization : Text) :
    (basicAuthorization secret).outcome store = .ok authorization ↔
      ∃ words, secret.plain.outcome store = .ok words ∧ Authorizes words authorization := by
  rw [basicAuthorization_eq, Run.outcome_bind]
  cases said : secret.plain.outcome store with
  | error fault => simp [Except.bind]
  | ok words =>
    simp only [Except.bind, Except.ok.injEq, exists_eq_left']
    constructor
    · exact authorizes_of_basicAuthorization words authorization _
    · intro authorizes
      obtain ⟨found, same, made⟩ | ⟨unencodable, -⟩ := basicAuthorization_cases words
      · rw [made, authorizes.unique same, Run.outcome_pure]
      · obtain ⟨octets, encoded, -⟩ := authorizes
        exact (unencodable (Utf8.encodable_colon words |>.mp ⟨octets, encoded⟩)).elim

theorem basicAuthorization_verdict (secret : Value) (store : Store) :
    (secret.Encodes store ∧
        ∃ authorization, (basicAuthorization secret).outcome store = .ok authorization) ∨
      ¬secret.Encodes store ∧
        ∃ fault, (basicAuthorization secret).outcome store = .error fault := by
  cases made : (basicAuthorization secret).outcome store with
  | ok authorization =>
    obtain ⟨words, said, octets, encoded, -⟩ :=
      (basicAuthorization_ok_iff secret store authorization).mp made
    exact .inl ⟨⟨words, said, (Utf8.encodable_colon words).mp ⟨octets, encoded⟩⟩, _, rfl⟩
  | error fault =>
    refine .inr ⟨?_, fault, rfl⟩
    rintro ⟨words, said, encodable⟩
    obtain ⟨octets, encoded⟩ := (Utf8.encodable_colon words).mpr encodable
    rw [(basicAuthorization_ok_iff secret store _).mpr ⟨words, said, octets, encoded, rfl⟩] at made
    nomatch made

section

variable [Platform]

def Url.NamelessText (content : Text) : Prop := ∃ url, parse content = .ok url ∧ url.Nameless

/-- A text passes as a uri or it is refused with a reason, unless its reading stumbles or its host
stands for no name. -/
theorem checkUri_text (content : Text) :
    Url.Stumbles content ∧ checkUri (.text content) = throw (.ambient .unicodeEncodeError []) ∨
      Url.NamelessText content ∧ checkUri (.text content) = throw (.ambient .idnaError []) ∨
      ¬Url.Stumbles content ∧ ¬Url.NamelessText content ∧
        ((∃ url, checkUri (.text content) = pure url) ∨
          ∃ reason, checkUri (.text content) =
            throw (.configuration ("Invalid uri " ++ Quoted.text content ++ ": " ++ reason))) := by
  rw [← Url.parse_eq_unencodable_iff, Url.NamelessText, checkUri, readUri]
  cases Url.parse content with
  | ok url =>
    simp only [pure_bind, Except.ok.injEq, exists_eq_left', reduceCtorEq, not_false_eq_true,
      false_and, true_and, false_or]
    obtain ⟨⟨-, named⟩, same⟩ | ⟨-, ⟨named, same⟩ | ⟨nameless, same⟩⟩ := url.isWeb_cases
    · rw [same]
      refine .inr ⟨fun nameless => named ?_, .inl ⟨url, rfl⟩⟩
      rw [nameless.2]
      rfl
    · rw [same]
      exact .inr ⟨named, .inr ⟨_, refuseUri_text content _⟩⟩
    · rw [same]
      exact .inl ⟨nameless, rfl⟩
  | error cause =>
    cases cause with
    | unencodable => exact .inl ⟨rfl, rfl⟩
    | _ => exact .inr (.inr ⟨by simp, by simp, .inr ⟨_, by rw [refuseUri_text]; rfl⟩⟩)

theorem checkUri_named {uri : Value} {url : Url} (named : uri.webUrl? = some url) (store : Store) :
    (checkUri uri).outcome store = .ok url ∧ (checkUri uri).leaves store = store :=
  ⟨toOption_eq_some_iff.mp ((checkUri_toOption uri store).trans named),
    (checkUri_decided (Value.spelled_of_webUrl? named)).leaves_eq store⟩

theorem checkUri_unnamed {uri : Value} (unnamed : uri.webUrl? = none) (store : Store) :
    ∃ fault, (checkUri uri).outcome store = .error fault :=
  toOption_eq_none_iff.mp ((checkUri_toOption uri store).trans unnamed)

theorem Value.web_of_webUrl? {uri : Value} {url : Url} (named : uri.webUrl? = some url) :
    url.Web :=
  of_decide_eq_true (Option.filter_eq_some_iff.mp named).2

variable (settings : Settings) (failing : Option Disruption) (store : Store)

/-- How a build accounts for what it was given, when it may fail to make a transport. -/
structure Build.Accounts (built : Build) : Prop where
  /-- At most one transport is made. -/
  once : built.transports ≤ 1
  /-- One is made exactly if none was provided that counts as true, and both the uri and the secret
  are fit. -/
  exactly : built.transports = 1 ↔
    settings.isFurnished = .ok false ∧ (∃ url, settings.uri.webUrl? = some url) ∧
      settings.secret.Encodes store
  /-- An unfit uri is what is reported, whatever else is wrong, and nothing is made. -/
  uri : settings.uri.webUrl? = none →
    built.transports = 0 ∧
      ∃ fault, (checkUri settings.uri).outcome store = .error fault ∧ built.endpoint = .error fault
  /-- With a fit uri, an unfit secret is what is reported, and nothing is made. -/
  secret : (∃ url, settings.uri.webUrl? = some url) → ¬settings.secret.Encodes store →
    built.transports = 0 ∧
      ∃ fault, (basicAuthorization settings.secret).outcome store = .error fault ∧
        built.endpoint = .error fault
  /-- With both fit, what is reported is that a transport that had to be made could not be made, or
  that the one that was provided could not tell whether it counts as true. -/
  transport : (∃ url, settings.uri.webUrl? = some url) → settings.secret.Encodes store →
    ∀ fault, built.endpoint = .error fault ↔
      ∃ disruption, fault = transportFault disruption ∧
        (settings.isFurnished = .ok false ∧ failing = some disruption ∨
          settings.isFurnished = .error disruption)
  /-- A client is one of the uri and the secret. -/
  client : ∀ endpoint, built.endpoint = .ok endpoint →
    endpoint.uri.Web ∧ settings.uri.webUrl? = some endpoint.uri ∧
      ∃ words, settings.secret.plain.outcome store = .ok words ∧
        Authorizes words endpoint.authorization

namespace Settings

theorem endpoint_of_unnamed (unnamed : settings.uri.webUrl? = none) :
    ∃ fault, (checkUri settings.uri).outcome store = .error fault ∧
      settings.endpoint.outcome store = .error fault := by
  obtain ⟨fault, refused⟩ := checkUri_unnamed unnamed store
  refine ⟨fault, refused, ?_⟩
  rw [endpoint, Run.outcome_bind, refused]
  rfl

theorem endpoint_of_named {url : Url} (named : settings.uri.webUrl? = some url) :
    settings.endpoint.outcome store =
      ((basicAuthorization settings.secret).outcome store).map (⟨url, settings.timeout, ·⟩) := by
  obtain ⟨checked, left⟩ := checkUri_named named store
  rw [endpoint, Run.outcome_bind, checked, left]
  change (((basicAuthorization settings.secret) >>= _).outcome store) = _
  rw [Run.outcome_bind]
  cases (basicAuthorization settings.secret).outcome store <;> rfl

omit [Platform] in
theorem furnish_error_iff (endpoint : Endpoint) (fault : Fault) :
    (settings.furnish failing (.ok endpoint)).endpoint = .error fault ↔
      ∃ disruption, fault = transportFault disruption ∧
        (settings.isFurnished = .ok false ∧ failing = some disruption ∨
          settings.isFurnished = .error disruption) := by
  unfold furnish
  cases settings.isFurnished with
  | error disruption => simp [@eq_comm _ fault]
  | ok truth => cases truth <;> cases failing <;> simp [@eq_comm _ fault]

omit [Platform] in
theorem furnish_transports (endpoint : Endpoint) :
    (settings.furnish failing (.ok endpoint)).transports ≤ 1 ∧
      ((settings.furnish failing (.ok endpoint)).transports = 1 ↔
        settings.isFurnished = .ok false) := by
  unfold furnish
  cases settings.isFurnished with
  | error disruption => simp
  | ok truth => cases truth <;> cases failing <;> simp

/-- A transport is made last, if it is made at all, and what is reported is the first thing that
goes wrong. -/
theorem build_accounts :
    Build.Accounts settings failing store ((settings.build failing).run store).1 := by
  rw [settings.run_build]
  cases named : settings.uri.webUrl? with
  | none =>
    obtain ⟨fault, refused, verdict⟩ := settings.endpoint_of_unnamed store named
    rw [verdict]
    exact {
      once := Nat.zero_le 1
      exactly := by simp [furnish, named]
      uri := fun _ => ⟨rfl, fault, refused, rfl⟩
      secret := by simp [named]
      transport := by simp [named]
      client := by simp [furnish] }
  | some url =>
    have verdict := settings.endpoint_of_named store named
    obtain ⟨encodes, authorization, made⟩ | ⟨unencodable, fault, refused⟩ :=
      basicAuthorization_verdict settings.secret store
    · rw [made, Except.map] at verdict
      rw [verdict]
      exact {
        once := (settings.furnish_transports failing _).1
        exactly := by
          rw [(settings.furnish_transports failing _).2]
          simp [named, encodes]
        uri := by simp [named]
        secret := fun _ unencodable => (unencodable encodes).elim
        transport := fun _ _ fault => settings.furnish_error_iff failing _ fault
        client := by
          intro endpoint built
          cases settings.furnish_ok failing _ endpoint built
          exact ⟨Value.web_of_webUrl? named, named,
            (basicAuthorization_ok_iff settings.secret store authorization).mp made⟩ }
    · rw [refused, Except.map] at verdict
      rw [verdict]
      exact {
        once := Nat.zero_le 1
        exactly := by simp [furnish, unencodable]
        uri := by simp [named]
        secret := fun _ _ => ⟨rfl, fault, refused, rfl⟩
        transport := fun _ encodes => (unencodable encodes).elim
        client := by simp [furnish] }

end Settings

end

def Settings.falsy : Settings where
  secret := .text "secret"
  transport := some { truth := .ok false }

def Settings.nameless : Settings where
  secret := .text "secret"
  uri := .text "http://xn--/"

set_option maxRecDepth 4000 in
/-- A transport is made although one was provided, and none is made although none was. -/
theorem Settings.build_miscounts :
    (falsy.transport.isSome ∧ ((falsy.build none).run .empty).1.transports = 1) ∧
      (∃ url, Url.parse "http://xn--/" = .ok url ∧ url.scheme = "http" ∧ url.host = "xn--") ∧
      nameless.secret.Encodes .empty ∧ nameless.transport = none ∧
      ((nameless.build none).run .empty).1.transports = 0 :=
  ⟨⟨rfl, rfl⟩, ⟨_, rfl, rfl, rfl⟩, ⟨_, rfl, _, rfl⟩, rfl, rfl⟩

section

variable [Platform]

namespace Settings

variable (settings : Settings) (store : Store)

theorem endpoint_of_build_none (told : ∃ truth, settings.isFurnished = .ok truth) :
    ((settings.build none).run store).1.endpoint = settings.endpoint.outcome store := by
  rw [settings.run_build]
  cases settings.endpoint.outcome store with
  | error fault => rfl
  | ok endpoint =>
    obtain ⟨truth, furnished⟩ := told
    unfold furnish
    rw [furnished]
    cases truth <;> rfl

/-- With texts for a uri and a secret, and a transport that can be made or was provided, a build
gives a client or reports a failure of the configuration exactly if the reading of the uri does not
stumble and its host stands for a name. It can only stumble over a surrogate, and then, as where
there is no name, it is not the configuration that is said to have failed. -/
theorem build_ends_iff (secret uri : Text) (timeout : Binary64) (provided : Option Bool)
    (store : Store) :
    let settings : Settings := {
      secret := .text secret, uri := .text uri, timeout
      transport := provided.map fun truth => { truth := .ok truth } }
    let built := ((settings.build none).run store).1.endpoint
    (((∃ endpoint, built = .ok endpoint) ∨ ∃ message, built = .error (.configuration message)) ↔
        ¬Url.Stumbles uri ∧ ¬Url.NamelessText uri) ∧
      (Url.Stumbles uri →
        built = .error (.ambient .unicodeEncodeError []) ∧ uri.HasSurrogate) ∧
      (Url.NamelessText uri → built = .error (.ambient .idnaError [])) := by
  intro settings built
  have furnished : ∃ truth, settings.isFurnished = .ok truth := by
    cases provided <;> exact ⟨_, rfl⟩
  have ended : built = (do
      let url ← checkUri (.text uri)
      return ⟨url, timeout, ← basicAuthorization (.text secret)⟩ : Run Endpoint).outcome store :=
    settings.endpoint_of_build_none store furnished
  have stuck {fault : Fault} (stopped : checkUri (.text uri) = throw fault) :
      built = .error fault := by
    rw [ended, stopped, Run.throw_bind, Run.outcome_throw]
  have foreign {kind : FaultKind} (same : built = .error (.ambient kind [])) :
      ¬((∃ endpoint, built = .ok endpoint) ∨
        ∃ message, built = .error (.configuration message)) := by
    rw [same]
    rintro (⟨_, done⟩ | ⟨_, done⟩) <;> nomatch done
  obtain ⟨stumbles, stopped⟩ | ⟨nameless, stopped⟩ | ⟨reads, named, passed | refused⟩ :=
    checkUri_text uri
  · refine ⟨iff_of_false (foreign (stuck stopped)) fun fit => fit.1 stumbles,
      fun _ => ⟨stuck stopped, stumbles.hasSurrogate⟩, ?_⟩
    rintro ⟨url, parsed, -⟩
    rw [(Url.parse_eq_unencodable_iff uri).mpr stumbles] at parsed
    nomatch parsed
  · refine ⟨iff_of_false (foreign (stuck stopped)) fun fit => fit.2 nameless, fun stumbles => ?_,
      fun _ => stuck stopped⟩
    obtain ⟨url, parsed, -⟩ := nameless
    rw [(Url.parse_eq_unencodable_iff uri).mpr stumbles] at parsed
    nomatch parsed
  · refine ⟨iff_of_true ?_ ⟨reads, named⟩, fun stumbles => (reads stumbles).elim,
      fun nameless => (named nameless).elim⟩
    obtain ⟨url, passed⟩ := passed
    rw [ended, passed, pure_bind]
    obtain ⟨authorization, -, made⟩ | ⟨-, refusal, refused⟩ := basicAuthorization_cases secret
    · rw [made, pure_bind]
      exact .inl ⟨_, rfl⟩
    · rw [refused, Run.throw_bind]
      exact .inr ⟨_, rfl⟩
  · refine ⟨iff_of_true ?_ ⟨reads, named⟩, fun stumbles => (reads stumbles).elim,
      fun nameless => (named nameless).elim⟩
    obtain ⟨reason, refused⟩ := refused
    rw [ended, refused, Run.throw_bind]
    exact .inr ⟨_, rfl⟩

end Settings

end

namespace Settings

/-- A uri with a surrogate for a path, which is reported as a failed encoding. -/
theorem build_stumbles :
    let uri : Text := "http://localhost/" ++ [CodePoint.ofNat 0xD800]
    let settings : Settings := { secret := .text "secret", uri := .text uri }
    let built := ((settings.build none).run .empty).1.endpoint
    built = .error (.ambient .unicodeEncodeError []) ∧
      ¬((∃ endpoint, built = .ok endpoint) ∨
        ∃ message, built = .error (.configuration message)) := by
  intro uri settings built
  have stuck : built = .error (.ambient .unicodeEncodeError []) := rfl
  rw [stuck]
  refine ⟨rfl, ?_⟩
  rintro (⟨_, done⟩ | ⟨_, done⟩) <;> nomatch done

end Settings

end QueryWire
