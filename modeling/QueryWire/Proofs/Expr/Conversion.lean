import Mathlib.Data.List.Forall2
import QueryWire.Expr.Construct
import QueryWire.Proofs.Value.Settled

/-!
The two ways of conversion side by side: the one of programs, which gives identities to what it
makes, and the one of the wire, which does not. They fail alike, and what they make from settled
values is settled and is the same where there is no builder in it.
-/

namespace QueryWire

namespace Run

variable {α β γ δ : Type}

/-- In one store a computation leaves the builders as they are and comes to what another comes to
without a store: to a related result, or to the same fault. -/
def MirrorsIn (store : Store) (relation : α → β → Prop) (run : Run α)
    (verdict : Except Fault β) : Prop :=
  (leaves run store).builders = store.builders ∧
    ((∃ made plain, outcome run store = .ok made ∧ verdict = .ok plain ∧ relation made plain) ∨
      ∃ fault, outcome run store = .error fault ∧ verdict = .error fault)

theorem MirrorsIn.ok {store : Store} {relation : α → β → Prop} {run : Run α}
    {verdict : Except Fault β} (mirrors : MirrorsIn store relation run verdict) {plain : β}
    (decided : verdict = .ok plain) :
    ∃ made, outcome run store = .ok made ∧ relation made plain := by
  obtain ⟨_, ⟨made, _, done, found, related⟩ | ⟨cause, _, found⟩⟩ := mirrors
  · rw [found] at decided
    cases decided
    exact ⟨made, done, related⟩
  · rw [found] at decided
    nomatch decided

theorem MirrorsIn.yields {store : Store} {relation : α → β → Prop} {run : Run α}
    {verdict : Except Fault β} {good : α → Prop} (mirrors : MirrorsIn store relation run verdict)
    (enough : ∀ made plain, relation made plain → good made) : YieldsIn store good run := by
  refine ⟨mirrors.1, fun result done => ?_⟩
  obtain ⟨made, plain, found, _, related⟩ | ⟨cause, found, _⟩ := mirrors.2
  · rw [found] at done
    cases done
    exact enough result plain related
  · rw [found] at done
    nomatch done

def Mirrors (relation : α → β → Prop) (run : Run α) (verdict : Except Fault β) : Prop :=
  ∀ store, MirrorsIn store relation run verdict

namespace Mirrors

variable {relation : α → β → Prop} {next : γ → δ → Prop}

theorem result {made : α} {plain : β} (related : relation made plain) :
    Mirrors relation (pure made) (pure plain) :=
  fun _ => ⟨rfl, .inl ⟨made, plain, rfl, rfl, related⟩⟩

theorem fault (cause : Fault) : Mirrors relation (throw cause) (throw cause) :=
  fun _ => ⟨rfl, .inr ⟨cause, rfl, rfl⟩⟩

theorem bind {run : Run α} {verdict : Except Fault β} {others : α → Run γ}
    {verdicts : β → Except Fault δ} (first : Mirrors relation run verdict)
    (later : ∀ made plain, relation made plain → Mirrors next (others made) (verdicts plain)) :
    Mirrors next (run >>= others) (verdict >>= verdicts) := by
  intro store
  rw [MirrorsIn, leaves_bind, outcome_bind]
  obtain ⟨same, ⟨made, plain, done, decided, related⟩ | ⟨cause, done, decided⟩⟩ := first store
  · obtain ⟨unchanged, rest⟩ := later made plain related (leaves run store)
    rw [done, decided]
    exact ⟨unchanged.trans same, rest⟩
  · rw [done, decided]
    exact ⟨same, .inr ⟨cause, rfl, rfl⟩⟩

theorem mapM {items : List α} {others : List β} {body : α → Run γ} {verdicts : β → Except Fault δ}
    (related : List.Forall₂ relation items others)
    (each : ∀ made plain, relation made plain → Mirrors next (body made) (verdicts plain)) :
    Mirrors (List.Forall₂ next) (items.mapM body) (others.mapM verdicts) := by
  induction related with
  | nil => exact .result .nil
  | cons here _ ih =>
    rw [List.mapM_cons, List.mapM_cons]
    refine (each _ _ here).bind fun first second related => ?_
    exact ih.bind fun _ _ rest => .result (.cons related rest)

theorem mapM_same (items : List α) {body : α → Run γ} {verdicts : α → Except Fault δ}
    (each : ∀ item ∈ items, Mirrors next (body item) (verdicts item)) :
    Mirrors (List.Forall₂ next) (items.mapM body) (items.mapM verdicts) := by
  have same : List.Forall₂ (fun item other => item = other ∧ item ∈ items) items items :=
    List.forall₂_same.mpr fun _ member => ⟨rfl, member⟩
  refine mapM same ?_
  rintro item _ ⟨rfl, member⟩
  exact each item member

theorem yields {run : Run α} {verdict : Except Fault β} {good : α → Prop}
    (mirrors : Mirrors relation run verdict)
    (enough : ∀ made plain, relation made plain → good made) : Yields good run :=
  fun store => (mirrors store).yields enough

end Mirrors

end Run

open Run (Mirrors)

namespace Value

/-- Two good values, which are the same if there is no builder in the second. -/
structure Like (good : Value → Prop) (made plain : Value) : Prop where
  made_good : good made
  plain_good : good plain
  same : plain.enclosure? = none → made = plain

theorem Like.itself {good : Value → Prop} {value : Value} (holds : good value) :
    Like good value value :=
  ⟨holds, holds, fun _ => rfl⟩

theorem enclose_mirrors {good : Value → Prop} (stable : Stable good) {made plain : Value}
    (like : Like good made plain) : Mirrors (Like good) (Run.enclose made) (pure plain) := by
  intro store
  rw [Run.enclose]
  cases enclosed : made.enclosure? with
  | none => exact ⟨rfl, .inl ⟨made, plain, rfl, rfl, like⟩⟩
  | some enclosure =>
    -- There is a builder in it then, so the other one is not free either.
    refine ⟨rfl, .inl ⟨_, plain, rfl, rfl, stable _ 0 made like.made_good, like.plain_good, ?_⟩⟩
    intro free
    rw [like.same free, free] at enclosed
    nomatch enclosed

theorem like_items {good : Value → Prop} {made plain : List Value}
    (alike : List.Forall₂ (Like good) made plain) :
    (∀ item ∈ made, good item) ∧ (∀ item ∈ plain, good item) ∧
      (enclosureOfItems? plain = none → made = plain) := by
  induction alike with
  | nil => exact ⟨nofun, nofun, fun _ => rfl⟩
  | cons here _ ih =>
    obtain ⟨madeGood, plainGood, same⟩ := ih
    refine ⟨List.forall_mem_cons.mpr ⟨here.made_good, madeGood⟩,
      List.forall_mem_cons.mpr ⟨here.plain_good, plainGood⟩, fun free => ?_⟩
    obtain ⟨first, others⟩ := free_of_or free
    rw [here.same first, same others]

theorem Like.tuple {good better : Value → Prop} {made plain : List Value}
    (enough : ∀ items : List Value, (∀ item ∈ items, good item) → better (.tuple items))
    (alike : List.Forall₂ (Like good) made plain) :
    Like better (.tuple made) (.tuple plain) := by
  obtain ⟨madeGood, plainGood, same⟩ := like_items alike
  refine ⟨enough made madeGood, enough plain plainGood, fun free => ?_⟩
  rw [same (free_of_deeper free)]

theorem Like.array {made plain : Value} (like : Like Held made plain) :
    Like Settled (.array made) (.array plain) :=
  ⟨like.made_good, like.plain_good, fun free => congrArg _ (like.same (free_of_deeper free))⟩

theorem Like.object {made plain : Value} (like : Like HeldFields made plain) :
    Like Settled (.object made) (.object plain) :=
  ⟨like.made_good, like.plain_good, fun free => congrArg _ (like.same (free_of_deeper free))⟩

theorem Like.query {made plain : Value} (construct : Construct) (verb : Text)
    (like : Like Settled made plain) :
    Like Settled (.query construct (.text verb) made) (.query construct (.text verb) plain) := by
  refine ⟨like.made_good, like.plain_good, fun free => ?_⟩
  rw [like.same (free_of_or (free_of_deeper free)).2]

def FieldLike (made plain : Text × Value) : Prop :=
  made.1 = plain.1 ∧ Like Settled made.2 plain.2

theorem fieldLike_optional (key : Text) (value : Option Value)
    (settled : ∀ found, value = some found → found.Settled) :
    List.Forall₂ FieldLike (optionalField key value) (optionalField key value) := by
  cases value with
  | none => exact .nil
  | some value => exact .cons ⟨rfl, .itself (settled value rfl)⟩ .nil

end Value

namespace Conversion

open Value

variable {snapshot : Nat → Run Value} {verdict : Nat → Except Fault Value}

theorem literal_mirrors (value : Value) :
    Mirrors (Like Settled) (literal ⟨Run.enclose, snapshot⟩ value)
      (literal ⟨pure, verdict⟩ value) :=
  enclose_mirrors settled_stable (.itself trivial)

theorem array_mirrors {made plain : List Value} (alike : List.Forall₂ (Like Settled) made plain) :
    Mirrors (Like Settled) (array ⟨Run.enclose, snapshot⟩ made) (array ⟨pure, verdict⟩ plain) := by
  have held : Like Held (.tuple made) (.tuple plain) :=
    .tuple (fun items => (settledItems_iff items).mpr) alike
  exact (enclose_mirrors held_stable held).bind fun _ _ like =>
    enclose_mirrors settled_stable like.array

theorem pair_mirrors (key : Value) (settled : key.Settled) {made plain : Value}
    (like : Like Settled made plain) :
    Mirrors (Like Held) (pair ⟨Run.enclose, snapshot⟩ key made)
      (pair ⟨pure, verdict⟩ key plain) := by
  have alike : List.Forall₂ (Like Settled) [key, made] [key, plain] :=
    .cons (.itself settled) (.cons like .nil)
  exact enclose_mirrors held_stable (.tuple (fun items => (settledItems_iff items).mpr) alike)

theorem object_mirrors {made plain : List Value} (alike : List.Forall₂ (Like Held) made plain) :
    Mirrors (Like Settled) (object ⟨Run.enclose, snapshot⟩ made)
      (object ⟨pure, verdict⟩ plain) := by
  have held : Like HeldFields (.tuple made) (.tuple plain) :=
    .tuple (fun items => (heldItems_iff items).mpr) alike
  exact (enclose_mirrors heldFields_stable held).bind fun _ _ like =>
    enclose_mirrors settled_stable like.object

theorem record_mirrors {made plain : List (Text × Value)}
    (alike : List.Forall₂ FieldLike made plain) :
    Mirrors (Like Settled) (record ⟨Run.enclose, snapshot⟩ made)
      (record ⟨pure, verdict⟩ plain) := by
  refine (Mirrors.mapM alike ?_).bind fun _ _ => object_mirrors
  rintro ⟨key, made⟩ ⟨_, plain⟩ ⟨rfl, like⟩
  exact pair_mirrors (.text key) trivial like

theorem sourceField_mirrors (source : Value) :
    Mirrors FieldLike (sourceField ⟨Run.enclose, snapshot⟩ source)
      (sourceField ⟨pure, verdict⟩ source) := by
  cases source with
  | fieldSource path =>
    cases path with
    | tuple segments =>
      refine (Mirrors.mapM_same segments fun segment _ => literal_mirrors segment).bind ?_
      exact fun _ _ alike => (array_mirrors alike).bind fun _ _ like => .result ⟨rfl, like⟩
    | _ => exact .fault _
  | bindingSource name => exact (literal_mirrors name).bind fun _ _ like => .result ⟨rfl, like⟩
  | _ => exact .fault _

theorem literalField_mirrors (key : Text) (value : Value) :
    Mirrors FieldLike (literalField ⟨Run.enclose, snapshot⟩ key value)
      (literalField ⟨pure, verdict⟩ key value) :=
  (literal_mirrors value).bind fun _ _ like => .result ⟨rfl, like⟩

theorem fieldUnlessNull_mirrors (key : Text) (value : Value) {convert : Value → Run Value}
    {judge : Value → Except Fault Value}
    (each : Mirrors (Like Settled) (convert value) (judge value)) :
    Mirrors (List.Forall₂ FieldLike) (fieldUnlessNull key convert value)
      (fieldUnlessNull key judge value) := by
  cases value with
  | null => exact .result .nil
  | _ => exact each.bind fun _ _ like => .result (.cons ⟨rfl, like⟩ .nil)

/-- Snapshots that are alike, whether they are made for a program or for the wire. -/
def Snapshots (snapshot : Nat → Run Value) (verdict : Nat → Except Fault Value) : Prop :=
  ∀ handle, Mirrors (Like Settled) (snapshot handle) (verdict handle)

theorem form_mirrors (snapshots : Snapshots snapshot verdict) (value : Value)
    (settled : value.Settled) :
    Mirrors (Like Settled) (form ⟨Run.enclose, snapshot⟩ value)
      (form ⟨pure, verdict⟩ value) := by
  cases value with
  | term own source =>
    exact (sourceField_mirrors source).bind fun _ _ like => record_mirrors (.cons like .nil)
  | builder kind handle around => exact snapshots handle
  | foreign own form callable =>
    cases callable with
    | true => exact .result (.itself settled)
    | false => exact .fault _
  | _ => exact .fault _

theorem formsField_mirrors (snapshots : Snapshots snapshot verdict) (key : Text)
    (items : Option (List Value))
    (settled : ∀ found, items = some found → ∀ item ∈ found, item.Settled) :
    Mirrors (List.Forall₂ FieldLike) (formsField ⟨Run.enclose, snapshot⟩ key items)
      (formsField ⟨pure, verdict⟩ key items) := by
  cases items with
  | none => exact .result .nil
  | some items =>
    have each := fun item member => form_mirrors snapshots item (settled items rfl item member)
    refine (Mirrors.mapM_same items each).bind fun _ _ alike => ?_
    exact (array_mirrors alike).bind fun _ _ like => .result (.cons ⟨rfl, like⟩ .nil)

mutual

theorem expr_mirrors (snapshots : Snapshots snapshot verdict) (value : Value)
    (settled : value.Settled) :
    Mirrors (Like Settled) (expr ⟨Run.enclose, snapshot⟩ value) (expr ⟨pure, verdict⟩ value) := by
  match value with
  | .null | .bool _ | .int _ | .float _ | .text _ => exact literal_mirrors _
  | .list items | .tuple items =>
    exact (exprItems_mirrors snapshots items settled).bind fun _ _ => array_mirrors
  | .dict entries | .view entries =>
    exact (exprFields_mirrors snapshots entries settled).bind fun _ _ => object_mirrors
  | .term own source => exact form_mirrors snapshots (.term own source) settled
  | .builder _ handle _ => exact snapshots handle
  | .foreign own form true => exact .result (.itself settled)
  | .bare _ | .literal _ | .array _ | .object _ | .ref .. | .query .. | .level _ =>
    exact .result (.itself settled)
  | .foreign _ _ false | .set _ | .bytes _ | .duration _ | .url _ | .response _ | .errorDetail ..
  | .errors _ | .fieldSource _ | .bindingSource _ | .cursor .. | .unknown _ | .failure .. =>
    exact .fault _

theorem exprItems_mirrors (snapshots : Snapshots snapshot verdict) (items : List Value)
    (settled : SettledItems items) :
    Mirrors (List.Forall₂ (Like Settled)) (exprItems ⟨Run.enclose, snapshot⟩ items)
      (exprItems ⟨pure, verdict⟩ items) := by
  match items with
  | [] => exact .result .nil
  | item :: items =>
    refine (expr_mirrors snapshots item settled.1).bind fun _ _ here => ?_
    exact (exprItems_mirrors snapshots items settled.2).bind fun _ _ rest =>
      .result (.cons here rest)

theorem exprFields_mirrors (snapshots : Snapshots snapshot verdict)
    (entries : List (Value × Value)) (settled : SettledEntries entries) :
    Mirrors (List.Forall₂ (Like Held)) (exprFields ⟨Run.enclose, snapshot⟩ entries)
      (exprFields ⟨pure, verdict⟩ entries) := by
  match entries with
  | [] => exact .result .nil
  | (key, value) :: entries =>
    refine (expr_mirrors snapshots value settled.2.1).bind fun _ _ like => ?_
    refine (pair_mirrors key settled.1 like).bind fun _ _ here => ?_
    exact (exprFields_mirrors snapshots entries settled.2.2).bind fun _ _ rest =>
      .result (.cons here rest)

end

theorem mapping_mirrors (snapshots : Snapshots snapshot verdict) (value : Value)
    (settled : value.Settled) :
    Mirrors (Like Settled) (mapping ⟨Run.enclose, snapshot⟩ value)
      (mapping ⟨pure, verdict⟩ value) := by
  cases value with
  | dict entries | view entries =>
    exact (exprFields_mirrors snapshots entries settled).bind fun _ _ => object_mirrors
  | _ => exact .fault _

end Conversion

end QueryWire
