import QueryWire.Expr.Ref
import QueryWire.Proofs.Expr.Outline
import QueryWire.Proofs.Expr.Written
import QueryWire.Response

/-!
References as plain data. What a reference is written as is read as that reference, at any depth,
and all that is read are references. Plain data that is no reference is refused with a value fault;
but a parent that counts as false is taken for none, whatever it is.
-/

namespace QueryWire

inductive Reference where
  | root (id : Text)
  | within (id : Text) (parent : Reference)

namespace Reference

def expression : Reference → Expression
  | .root id => .root id
  | .within id parent => .ref id parent.expression

def toValue (reference : Reference) : Value := reference.expression.toValue

def json : Reference → Json
  | .root id => .object [("@ref", .object [("id", .text id)])]
  | .within id parent => .object [("@ref", .object [("id", .text id), ("class", parent.json)])]

theorem wire_expression (reference : Reference) :
    reference.expression.wire = .ok reference.json := by
  induction reference with
  | root id => rfl
  | within id parent ih =>
    rw [expression, Expression.wire, ih]
    rfl

end Reference

namespace Json

/-- Whether a tree counts as true: it is not null, false, zero or empty. -/
def truth : Json → Bool
  | .null => false
  | .bool value => value
  | .int value => value ≠ 0
  | .float value => !value.isZero
  | .text value => !value.isEmpty
  | .array items => !items.isEmpty
  | .object members => !members.isEmpty

/-- A tree denotes a reference: it is an object whose `@ref` is an object with an `id` that can be
shown, and a `class` that denotes the parent. Without a `class`, or with one that stands for
nothing, the reference is at the root. -/
inductive Denotes (nothing : Json → Prop) : Json → Reference → Prop
  | root {members body : List (Text × Json)} {id : Json} {shown : Text} :
    member? members "@ref" = some (.object body) → member? body "id" = some id →
    id.Shows shown → (∀ parent, member? body "class" = some parent → nothing parent) →
    Denotes nothing (.object members) (.root shown)
  | within {members body : List (Text × Json)} {id parent : Json} {shown : Text}
    {reference : Reference} :
    member? members "@ref" = some (.object body) → member? body "id" = some id →
    id.Shows shown → member? body "class" = some parent →
    Denotes nothing parent reference → Denotes nothing (.object members) (.within shown reference)

def Falsy (json : Json) : Prop := json.truth = false

theorem Denotes.truth {nothing : Json → Prop} {json : Json} {reference : Reference}
    (denotes : json.Denotes nothing reference) : json.truth = true := by
  have full {members : List (Text × Json)} {value : Json}
      (found : member? members "@ref" = some value) : (object members).truth = true := by
    cases members with
    | nil => cases found
    | cons member members => rfl
  cases denotes with
  | root found => exact full found
  | within found => exact full found

theorem Denotes.weaken {nothing none : Json → Prop} (more : ∀ parent, nothing parent → none parent)
    {json : Json} {reference : Reference} (denotes : json.Denotes nothing reference) :
    json.Denotes none reference := by
  induction denotes with
  | root entry named shows above =>
    exact .root entry named shows fun parent found => more parent (above parent found)
  | within entry named shows found denotes ih => exact .within entry named shows found ih

theorem Denotes.unique {json : Json} {first second : Reference} (denotes : json.Denotes Falsy first)
    (other : json.Denotes Falsy second) : first = second := by
  induction denotes generalizing second with
  | root entry named shows above =>
    cases other with
    | root entry' named' shows' =>
      cases entry.symm.trans entry'
      cases named.symm.trans named'
      cases Run.pure_injective (shows.symm.trans shows')
      rfl
    | within entry' named' shows' found denotes =>
      cases entry.symm.trans entry'
      have falsy : Json.truth _ = false := above _ found
      rw [denotes.truth] at falsy
      cases falsy
  | within entry named shows found denotes ih =>
    cases other with
    | root entry' named' shows' above =>
      cases entry.symm.trans entry'
      have falsy : Json.truth _ = false := above _ found
      rw [denotes.truth] at falsy
      cases falsy
    | within entry' named' shows' found' denotes' =>
      cases entry.symm.trans entry'
      cases named.symm.trans named'
      cases found.symm.trans found'
      cases Run.pure_injective (shows.symm.trans shows')
      rw [ih denotes']

theorem sizeOf_of_member? (members : List (Text × Json)) (key : Text) (value : Json)
    (found : member? members key = some value) : sizeOf value < sizeOf members := by
  induction members with
  | nil => cases found
  | cons member members ih =>
    obtain ⟨other, first⟩ := member
    rw [member?, List.lookup_cons] at found
    split at found
    · cases found
      simp only [List.cons.sizeOf_spec, Prod.mk.sizeOf_spec]
      omega
    · have later := ih found
      simp only [List.cons.sizeOf_spec]
      omega

end Json

namespace Value

theorem truth_ofJson (json : Json) : (ofJson json).truth = .ok json.truth := by
  cases json with
  | array items => cases items <;> rfl
  | object members =>
    cases members with
    | nil => rfl
    | cons member members => rfl
  | _ => rfl

theorem plain_steady_ofJson (json : Json) : Run.Steady (ofJson json).plain := by
  cases json with
  | text value => exact .inl ⟨value, rfl⟩
  | _ => exact display_steady _ (enclosure?_ofJson _)

theorem refuseRef_ofJson (json : Json) :
    ∃ fault, fault.isA .valueError = true ∧ refuseRef (ofJson json) = throw fault := by
  obtain ⟨shown, display⟩ | display := display_steady (ofJson json) (enclosure?_ofJson json)
  · refine ⟨.refused .valueError ("Not a ref: " ++ shown), rfl, ?_⟩
    rw [refuseRef, display, pure_bind]
  · refine ⟨.tooManyDigits, rfl, ?_⟩
    rw [refuseRef, display, Run.throw_bind]

theorem refuseRef_yields {good : Value → Prop} (data : Value) :
    Run.Yields good (refuseRef data) :=
  data.display_still.spares.bind fun _ _ => .fault _

theorem readRefEntries_eq (data : Value) (entries : List (Value × Value)) :
    readRefEntries data entries =
      match lookup "@ref" entries with
      | some body => readRefBody data body
      | none => refuseRef data := by
  induction entries with
  | nil => rfl
  | cons entry entries ih =>
    obtain ⟨key, body⟩ := entry
    have step : readRefEntries data ((key, body) :: entries) =
        if key.keyText? = some (Text.ofString "@ref") then readRefBody data body
        else readRefEntries data entries := rfl
    rw [step, ih, lookup]
    split <;> rfl

theorem readRefParent_eq (entries : List (Value × Value)) :
    readRefParent entries =
      match lookup "class" entries with
      | some parent => do if ← parent.truth then readRef parent else return .null
      | none => pure .null := by
  induction entries with
  | nil => rfl
  | cons entry entries ih =>
    obtain ⟨key, parent⟩ := entry
    have step : readRefParent ((key, parent) :: entries) =
        if key.keyText? = some (Text.ofString "class") then do
          if ← parent.truth then readRef parent else return .null
        else readRefParent entries := rfl
    rw [step, ih, lookup]
    split <;> rfl

section

variable (members : List (Text × Json))

theorem readRef_ofJson_object :
    readRef (ofJson (.object members)) =
      match Json.member? members "@ref" with
      | some body => readRefBody (ofJson (.object members)) (ofJson body)
      | none => refuseRef (ofJson (.object members)) := by
  rw [ofJson, readRef, readRefEntries_eq, lookup_ofJsonMembers]
  cases Json.member? members "@ref" <;> rfl

theorem readRefBody_ofJson_object (data : Value) :
    readRefBody data (ofJson (.object members)) =
      match Json.member? members "id" with
      | some id => do
        let id ← (ofJson id).plain
        return .ref (.text id) (← readRefParent (ofJsonMembers members))
      | none => refuseRef data := by
  rw [ofJson, readRefBody, lookup_ofJsonMembers]
  cases Json.member? members "id" <;> rfl

theorem readRefParent_ofJsonMembers :
    readRefParent (ofJsonMembers members) =
      match Json.member? members "class" with
      | some parent => if parent.truth then readRef (ofJson parent) else pure .null
      | none => pure .null := by
  rw [readRefParent_eq, lookup_ofJsonMembers]
  cases Json.member? members "class" with
  | none => rfl
  | some parent =>
    rw [Option.map_some]
    dsimp only
    rw [truth_ofJson]
    rfl

end

/-- Plain data that denote a reference are read as it, and other data are refused. -/
def ReadsRef (json : Json) : Prop :=
  (∃ reference, json.Denotes Json.Falsy reference ∧
    readRef (ofJson json) = pure reference.toValue) ∨
  ((∀ reference, ¬json.Denotes Json.Falsy reference) ∧
    ∃ fault : Fault, fault.isA .valueError = true ∧ readRef (ofJson json) = throw fault)

theorem readsRef_of_refused (json : Json)
    (other : ∀ reference, ¬json.Denotes Json.Falsy reference)
    (refused : readRef (ofJson json) = refuseRef (ofJson json)) : ReadsRef json := by
  obtain ⟨fault, kind, thrown⟩ := refuseRef_ofJson json
  exact .inr ⟨other, fault, kind, refused.trans thrown⟩

/-- An object whose body has an id that can be shown is read as its parent allows. -/
theorem readsRef_object (members body : List (Text × Json)) (id : Json) (shown : Text)
    (entry : Json.member? members "@ref" = some (.object body))
    (named : Json.member? body "id" = some id) (shows : id.Shows shown)
    (above : ∀ parent, Json.member? body "class" = some parent → ReadsRef parent) :
    ReadsRef (.object members) := by
  have start : readRef (ofJson (.object members)) = do
      return .ref (.text shown) (← readRefParent (ofJsonMembers body)) := by
    rw [readRef_ofJson_object, entry]
    dsimp only
    rw [readRefBody_ofJson_object, named]
    dsimp only
    rw [shows, pure_bind]
  rw [readRefParent_ofJsonMembers] at start
  cases found : Json.member? body "class" with
  | none =>
    rw [found] at start
    refine .inl ⟨.root shown, .root entry named shows ?_, start⟩
    intro parent present
    rw [found] at present
    cases present
  | some parent =>
    rw [found] at start
    dsimp only at start
    by_cases counts : parent.truth = true
    · rw [if_pos counts] at start
      obtain ⟨reference, denotes, read⟩ | ⟨other, fault, kind, thrown⟩ := above parent found
      · refine .inl ⟨.within shown reference, .within entry named shows found denotes, ?_⟩
        rw [start, read, pure_bind]
        rfl
      · refine .inr ⟨?_, fault, kind, by rw [start, thrown, Run.throw_bind]⟩
        intro reference denotes
        cases denotes with
        | root entry' _ _ nothing =>
          cases entry.symm.trans entry'
          have falsy : parent.truth = false := nothing parent found
          rw [counts] at falsy
          cases falsy
        | within entry' _ _ found' denotes =>
          cases entry.symm.trans entry'
          cases found.symm.trans found'
          exact other _ denotes
    · have falsy : parent.truth = false := Bool.eq_false_iff.mpr counts
      rw [if_neg counts] at start
      refine .inl ⟨.root shown, .root entry named shows ?_, start⟩
      intro other present
      cases found.symm.trans present
      exact falsy

theorem not_denotes {nothing : Json → Prop} (members : List (Text × Json))
    (unread : ∀ body id shown, Json.member? members "@ref" = some (.object body) →
      Json.member? body "id" = some id → ¬id.Shows shown) :
    ∀ reference, ¬(Json.object members).Denotes nothing reference := by
  intro reference denotes
  cases denotes with
  | root entry named shows => exact unread _ _ _ entry named shows
  | within entry named shows => exact unread _ _ _ entry named shows

theorem readRef_ofJson (json : Json) : ReadsRef json := by
  match json with
  | .object members =>
    have start := readRef_ofJson_object members
    cases entry : Json.member? members "@ref" with
    | none =>
      refine readsRef_of_refused _ (not_denotes members ?_) (by rw [start, entry])
      intro body id shown present
      rw [entry] at present
      cases present
    | some found =>
      cases found with
      | object body =>
        cases named : Json.member? body "id" with
        | none =>
          refine readsRef_of_refused _ (not_denotes members ?_) ?_
          · intro other id shown present present'
            cases entry.symm.trans present
            rw [named] at present'
            cases present'
          · rw [start, entry]
            dsimp only
            rw [readRefBody_ofJson_object, named]
        | some id =>
          obtain ⟨shown, shows⟩ | long := plain_steady_ofJson id
          · refine readsRef_object members body id shown entry named shows ?_
            intro parent found
            have := Json.sizeOf_of_member? members "@ref" (.object body) entry
            have := Json.sizeOf_of_member? body "class" parent found
            exact readRef_ofJson parent
          · refine .inr ⟨not_denotes members ?_, .tooManyDigits, rfl, ?_⟩
            · intro other id' shown present present'
              cases entry.symm.trans present
              cases named.symm.trans present'
              rw [Json.Shows, long]
              exact Run.not_throw_eq_pure _ _
            · rw [start, entry]
              dsimp only
              rw [readRefBody_ofJson_object, named]
              dsimp only
              rw [long, Run.throw_bind]
      | _ =>
        refine readsRef_of_refused _ (not_denotes members ?_) (by rw [start, entry]; rfl)
        intro body id shown present
        rw [entry] at present
        cases present
  | .null | .bool _ | .int _ | .float _ | .text _ | .array _ =>
    exact readsRef_of_refused _ nofun rfl
termination_by sizeOf json
decreasing_by
  simp only [Json.object.sizeOf_spec] at *
  omega

theorem readRef_of_denotes {json : Json} {reference : Reference}
    (denotes : json.Denotes Json.Falsy reference) :
    readRef (ofJson json) = pure reference.toValue := by
  obtain ⟨other, denotes', read⟩ | ⟨refused, -⟩ := readRef_ofJson json
  · rw [read, denotes.unique denotes']
  · exact (refused reference denotes).elim

def IsRef (value : Value) : Prop := ∃ reference : Reference, value = reference.toValue

mutual

theorem readRef_yields (data : Value) : Run.Yields IsRef (readRef data) := by
  match data with
  | .dict entries => exact readRefEntries_yields _ entries
  | .view entries => exact readRefEntries_yields _ entries
  | .null | .bool _ | .int _ | .float _ | .text _ | .bytes _ | .list _ | .tuple _ | .set _
  | .duration _ | .url _ | .bare _ | .literal _ | .array _ | .object _ | .ref .. | .query ..
  | .level _ | .response _ | .errorDetail .. | .errors _ | .fieldSource _ | .bindingSource _
  | .term .. | .builder .. | .cursor .. | .foreign .. | .unknown _ | .failure .. =>
    exact refuseRef_yields _

theorem readRefEntries_yields (data : Value) (entries : List (Value × Value)) :
    Run.Yields IsRef (readRefEntries data entries) := by
  match entries with
  | [] => exact refuseRef_yields data
  | (key, body) :: entries =>
    rw [readRefEntries]
    split
    · exact readRefBody_yields data body
    · exact readRefEntries_yields data entries

theorem readRefBody_yields (data body : Value) : Run.Yields IsRef (readRefBody data body) := by
  match body with
  | .dict entries | .view entries =>
    rw [readRefBody]
    split
    · next id _ =>
      refine (id.plain_holds Run.still).spares.bind fun shown _ => ?_
      refine (readRefParent_yields entries).bind fun parent above => .result _ ?_
      obtain rfl | ⟨reference, rfl⟩ := above
      · exact ⟨.root shown, rfl⟩
      · exact ⟨.within shown reference, rfl⟩
    · exact refuseRef_yields data
  | .null | .bool _ | .int _ | .float _ | .text _ | .bytes _ | .list _ | .tuple _ | .set _
  | .duration _ | .url _ | .bare _ | .literal _ | .array _ | .object _ | .ref .. | .query ..
  | .level _ | .response _ | .errorDetail .. | .errors _ | .fieldSource _ | .bindingSource _
  | .term .. | .builder .. | .cursor .. | .foreign .. | .unknown _ | .failure .. =>
    exact refuseRef_yields data

theorem readRefParent_yields (entries : List (Value × Value)) :
    Run.Yields (fun parent => parent = .null ∨ IsRef parent) (readRefParent entries) := by
  match entries with
  | [] => exact .result _ (.inl rfl)
  | (key, parent) :: entries =>
    rw [readRefParent]
    split
    · refine (Run.Still.lift _).spares.bind fun counts _ => ?_
      split
      · exact (readRef_yields parent).weaken fun _ => .inr
      · exact .result _ (.inl rfl)
    · exact readRefParent_yields entries

end

end Value

namespace Reference

theorem denotes_json {nothing : Json → Prop} (reference : Reference) :
    reference.json.Denotes nothing reference := by
  induction reference with
  | root id => exact .root rfl rfl (Json.shows_text id) nofun
  | within id parent ih => exact .within rfl rfl (Json.shows_text id) rfl ih

theorem readRef_tree (reference : Reference) :
    (do (← reference.toValue.tree Run.enclose).readRef) = pure reference.toValue := by
  have tree : reference.toValue.tree Run.enclose = pure (Value.ofJson reference.json) := by
    rw [toValue, Expression.tree_toValue Expression.keeps_enclose, reference.wire_expression]
    rfl
  rw [tree, pure_bind]
  exact Value.readRef_of_denotes reference.denotes_json

end Reference

def Json.RefersTo (nothing : Json → Prop) (resource : Json) (reference : Reference) : Prop :=
  ∃ members data, resource = .object members ∧ member? members "ref" = some data ∧
    data.Denotes nothing reference

namespace Value

/-- The reference of a resource is the one it refers to, and null where there is none. -/
def ShowsRef (resource : Json) : Prop :=
  (∃ reference, resource.RefersTo Json.Falsy reference ∧
    resourceRef (ofJson resource) = pure reference.toValue) ∨
  ((∀ reference, ¬resource.RefersTo Json.Falsy reference) ∧
    resourceRef (ofJson resource) = pure .null)

theorem resourceRef_ofJson (resource : Json) : ShowsRef resource := by
  match resource with
  | .object members =>
    cases found : Json.member? members "ref" with
    | none =>
      refine .inr ⟨?_, ?_⟩
      · rintro reference ⟨_, data, ⟨⟩, present, -⟩
        rw [found] at present
        cases present
      · rw [ofJson, resourceRef, lookup_ofJsonMembers, found]
        rfl
    | some data =>
      have start : resourceRef (ofJson (.object members)) =
          tryCatch (readRef (ofJson data)) fun fault =>
            if fault.isA .valueError then pure .null else throw fault := by
        rw [ofJson, resourceRef, lookup_ofJsonMembers, found]
        rfl
      obtain ⟨reference, denotes, read⟩ | ⟨other, fault, kind, thrown⟩ := readRef_ofJson data
      · refine .inl ⟨reference, ⟨members, data, rfl, found, denotes⟩, ?_⟩
        rw [start, read]
        rfl
      · refine .inr ⟨?_, ?_⟩
        · rintro reference ⟨_, data', ⟨⟩, present, denotes⟩
          cases found.symm.trans present
          exact other reference denotes
        · rw [start, thrown]
          exact if_pos kind
  | .null | .bool _ | .int _ | .float _ | .text _ | .array _ =>
    refine .inr ⟨?_, rfl⟩
    rintro reference ⟨_, _, ⟨⟩, -⟩

theorem resourceRef_of_refersTo {resource : Json} {reference : Reference}
    (refers : resource.RefersTo Json.Falsy reference) :
    resourceRef (ofJson resource) = pure reference.toValue := by
  obtain ⟨other, ⟨_, _, rfl, found', denotes'⟩, shown⟩ | ⟨none, -⟩ := resourceRef_ofJson resource
  · obtain ⟨_, _, ⟨⟩, found, denotes⟩ := refers
    cases found.symm.trans found'
    rw [shown, denotes.unique denotes']
  · exact (none reference refers).elim

/-- Reading gives a reference exactly for the plain data that denote one, where a parent that counts
as false is none, and it ends in a value fault for all other data. The reference of a resource never
fails; it is null exactly if the resource refers to nothing. Data that denote a reference with no
parent but null or none at all are always read as it. -/
theorem readRef_exact (json : Json) :
    ReadsRef json ∧ ShowsRef json ∧
      ∀ reference, json.Denotes (· = .null) reference →
        readRef (ofJson json) = pure reference.toValue := by
  refine ⟨readRef_ofJson json, resourceRef_ofJson json, fun reference denotes => ?_⟩
  refine readRef_of_denotes (denotes.weaken fun parent same => ?_)
  rw [same]
  rfl

def orphan : Json :=
  .object [("@ref", .object [("id", .text "1"), ("class", .array [])])]

/-- It is read as a reference at the root, although the list is no reference and is not null. -/
theorem readRef_orphan :
    readRef (ofJson orphan) = pure (.ref (.text "1") .null) ∧
      ∀ reference, ¬orphan.Denotes (· = .null) reference := by
  refine ⟨rfl, fun reference denotes => ?_⟩
  cases denotes with
  | root entry _ _ above =>
    cases entry
    cases above _ rfl
  | within entry _ _ found denotes =>
    cases entry
    cases found
    cases denotes

end Value

end QueryWire
