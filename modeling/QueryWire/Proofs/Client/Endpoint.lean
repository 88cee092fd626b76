import QueryWire.Proofs.Client.Authorization

/-!
What settings come to. Which endpoint is built is decided by the settings alone, and by the url that
their uri names; the store only plays a part in the words that refuse a uri which is no text and no
url.
-/

namespace QueryWire

theorem refuseUri_not_ok (uri : Value) (reason : Text) (store : Store) :
    ((refuseUri uri reason).outcome store).toOption = none := by
  rw [refuseUri, Run.outcome_bind]
  cases uri.display.outcome store <;> rfl

theorem toOption_bind_none {α β : Type} (run : Run α) (next : α → Run β) (store : Store)
    (refused : (run.outcome store).toOption = none) :
    ((run >>= next).outcome store).toOption = none := by
  rw [Run.outcome_bind]
  cases done : run.outcome store with
  | ok value =>
    rw [done] at refused
    nomatch refused
  | error fault => rfl

theorem Authorizes.unique {secret first second : Text} (one : Authorizes secret first)
    (other : Authorizes secret second) : first = second := by
  obtain ⟨octets, encoded, rfl⟩ := one
  obtain ⟨found, again, rfl⟩ := other
  rw [encoded] at again
  rw [Except.ok.inj again]

variable [Platform]

namespace Url

variable (url : Url)

/-- A url to send requests to: it names a web server, whose host stands for a name. -/
def Web : Prop :=
  (url.scheme = "http" ∨ url.scheme = "https") ∧ url.hostName?.getD [] ≠ []

instance : Decidable url.Web := inferInstanceAs (Decidable (_ ∧ _))

def Nameless : Prop := (url.scheme = "http" ∨ url.scheme = "https") ∧ url.hostName? = none

theorem isWeb_cases :
    url.Web ∧ url.isWeb = .ok true ∨
      ¬url.Web ∧ (¬url.Nameless ∧ url.isWeb = .ok false ∨
        url.Nameless ∧ url.isWeb = .error (.ambient .idnaError [])) := by
  unfold Web Nameless isWeb
  by_cases scheme : url.scheme = "http" ∨ url.scheme = "https"
  · cases url.hostName? with
    | none => simp [scheme]
    | some name => by_cases empty : name = [] <;> simp [scheme, empty]
  · simp [scheme]

end Url

def Value.webUrl? (uri : Value) : Option Url :=
  let named : Option Url :=
    match uri with
    | .url found => some found
    | .text content => (Url.parse content).toOption
    | _ => none
  named.filter fun url => decide url.Web

/-- A uri passes exactly if it names a url to send requests to, and then it passes as that url. -/
theorem checkUri_toOption (uri : Value) (store : Store) :
    ((checkUri uri).outcome store).toOption = uri.webUrl? := by
  have judged (url : Url) :
      ((do if ← url.isWeb then return url
           else refuseUri uri "expected an http(s) url with a host" : Run Url).outcome
        store).toOption = (some url).filter fun url => decide url.Web := by
    obtain ⟨web, same⟩ | ⟨foreign, ⟨-, same⟩ | ⟨-, same⟩⟩ := url.isWeb_cases
    · rw [same, Option.filter_some, if_pos (decide_eq_true web)]
      rfl
    · rw [same, Option.filter_some, if_neg (by simpa using foreign)]
      exact refuseUri_not_ok uri _ store
    · rw [same, Option.filter_some, if_neg (by simpa using foreign)]
      rfl
  have shown (reason : Text → Text) :
      ((do refuseUri uri (reason (← uri.display)) : Run Url).outcome store).toOption = none := by
    rw [Run.outcome_bind]
    cases uri.display.outcome store with
    | ok text => exact refuseUri_not_ok uri _ _
    | error fault => rfl
  cases uri with
  | url found => exact judged found
  | text content =>
    rw [Value.webUrl?, checkUri, readUri]
    cases parsed : Url.parse content with
    | ok found => exact judged found
    | error cause =>
      apply toOption_bind_none
      cases cause with
      | unencodable => rfl
      | _ => exact refuseUri_not_ok _ _ store
  | _ => exact toOption_bind_none _ _ store (shown _)

/-- An endpoint is built exactly if the uri names a url to send requests to and the secret has an
encoding. -/
theorem Settings.endpoint_iff (settings : Settings) (secret : Text)
    (held : settings.secret = .text secret) (store : Store) (endpoint : Endpoint) :
    settings.endpoint.outcome store = .ok endpoint ↔
      settings.uri.webUrl? = some endpoint.uri ∧ endpoint.timeout = settings.timeout ∧
        Authorizes secret endpoint.authorization := by
  rw [← checkUri_toOption settings.uri store]
  constructor
  · intro done
    obtain ⟨checked, timeout, later, made⟩ := settings.endpoint_inv store endpoint done
    rw [held] at made
    rw [checked]
    exact ⟨rfl, timeout, authorizes_of_basicAuthorization secret _ later made⟩
  · rintro ⟨named, timeout, octets, encoded, authorized⟩
    obtain ⟨uri, _, authorization⟩ := endpoint
    have checked := toOption_eq_some_iff.mp named
    cases timeout
    cases authorized
    rw [endpoint, Run.outcome_bind, checked, held, basicAuthorization_text, encoded]
    rfl

theorem Settings.endpoint_unique (settings : Settings) (secret : Text)
    (held : settings.secret = .text secret) (store later : Store) (endpoint other : Endpoint)
    (built : settings.endpoint.outcome store = .ok endpoint)
    (rebuilt : settings.endpoint.outcome later = .ok other) : endpoint = other := by
  obtain ⟨named, timeout, authorized⟩ :=
    (settings.endpoint_iff secret held store endpoint).mp built
  obtain ⟨renamed, lasting, reauthorized⟩ :=
    (settings.endpoint_iff secret held later other).mp rebuilt
  obtain ⟨uri, _, authorization⟩ := endpoint
  obtain ⟨url, _, credentials⟩ := other
  cases timeout
  cases lasting
  cases authorized.unique reauthorized
  cases Option.some.inj (named.symm.trans renamed)
  rfl

end QueryWire
