import QueryWire.Proofs.Client.Authorization

/-!
The credentials that stand for a secret. A text without surrogates becomes a header in which nothing
of it shows but base64, and the token of that header is read back as the octets of the text with a
colon behind them. Any other text is refused, so no two secrets are taken for each other.
-/

namespace QueryWire

/-- The header consists of the scheme and of a token that is read as the octets. -/
def Presents (octets : Octets) (header : Text) : Prop :=
  ∃ token : Text, header = "Basic " ++ token ∧ Base64.Padded token ∧
    (∀ point ∈ token, 0x21 ≤ point.val ∧ point.val ≤ 0x7E) ∧ Base64.decode? token = some octets

theorem presents_basicCredentials (octets : Octets) : Presents octets (basicCredentials octets) :=
  have padded := Base64.padded_encode octets
  ⟨Base64.encode octets, rfl, padded, padded.visible, Base64.decode?_encode octets⟩

theorem Authorizes.presents {secret header : Text} {octets : Octets}
    (authorizes : Authorizes secret header) (encoded : Utf8.encode secret = .ok octets) :
    Presents (octets ++ [0x3A]) header := by
  obtain ⟨credentials, whole, rfl⟩ := authorizes
  rw [Utf8.encode_append secret ":" octets [0x3A] encoded rfl] at whole
  cases whole
  exact presents_basicCredentials _

theorem Authorizes.secret_unique {secret other header : Text} (first : Authorizes secret header)
    (second : Authorizes other header) : secret = other := by
  obtain ⟨octets, encoded, rfl⟩ := first
  obtain ⟨octets', encoded', same⟩ := second
  cases basicCredentials_injective octets octets' same
  rw [← Utf8.decode?_eq_some_iff] at encoded encoded'
  exact List.append_cancel_right (Option.some.inj (encoded.symm.trans encoded'))

/-- A secret is refused exactly if it holds a surrogate. Any other one gives a header whose token is
read as the octets of the secret and a colon, and which no other secret gives. -/
theorem basicAuthorization_faithful (secret : Text) :
    ((∃ message, basicAuthorization (.text secret) = throw (.configuration message)) ↔
        secret.HasSurrogate) ∧
      (¬secret.HasSurrogate → ∃ octets header, Utf8.encode secret = .ok octets ∧
        basicAuthorization (.text secret) = pure header ∧ Presents (octets ++ [0x3A]) header) ∧
      ∀ other header, basicAuthorization (.text secret) = pure header →
        basicAuthorization (.text other) = pure header → secret = other := by
  have authorizes {words header : Text} (made : basicAuthorization (.text words) = pure header) :
      Authorizes words header :=
    authorizes_of_basicAuthorization words header .empty (by rw [made]; rfl)
  refine ⟨?_, ?_, fun other header made made' => (authorizes made).secret_unique (authorizes made')⟩
  · obtain ⟨header, ⟨octets, encoded, -⟩, made⟩ | ⟨refused, refusal, thrown⟩ :=
      basicAuthorization_cases secret
    · refine iff_of_false ?_ ((Utf8.encodable_iff secret).mp ?_)
      · rintro ⟨message, thrown⟩
        exact nomatch congrArg (Run.outcome · .empty) (made.symm.trans thrown)
      · exact (Utf8.encodable_colon secret).mp ⟨octets, encoded⟩
    · rw [Utf8.encodable_iff, not_not] at refused
      exact iff_of_true ⟨_, thrown⟩ refused
  · intro scalar
    have encodable := (Utf8.encodable_iff secret).mpr scalar
    obtain ⟨header, authorized, made⟩ | ⟨refused, -⟩ := basicAuthorization_cases secret
    · obtain ⟨octets, encoded⟩ := encodable
      exact ⟨octets, header, encoded, made, authorized.presents encoded⟩
    · exact (refused encodable).elim

/-- A colon or a line break in the secret is not taken for the end of it. -/
theorem basicAuthorization_faithful_broken_line :
    basicAuthorization (.text "a:\n") = pure "Basic YToKOg==" ∧
      ∀ other, basicAuthorization (.text other) = pure "Basic YToKOg==" → "a:\n" = other :=
  have made : basicAuthorization (.text "a:\n") = pure "Basic YToKOg==" := rfl
  ⟨made, fun other => (basicAuthorization_faithful "a:\n").2.2 other _ made⟩

end QueryWire
