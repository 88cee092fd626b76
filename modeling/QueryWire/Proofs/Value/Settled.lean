import QueryWire.Proofs.Value.Frame

/-!
Values whose nodes keep what they are given. A node that holds a one-shot sequence is another node
once that is read, so arrays, objects and the fields of objects hold tuples or lists here. What a
literal or a key holds does not matter.
-/

namespace QueryWire

open Run (Yields)

namespace Value

mutual

/-- All array and object nodes that a loop or a conversion finds in a value hold tuples or lists. -/
def Settled : Value → Prop
  | .list items | .tuple items | .set items | .cursor _ items => SettledItems items
  | .dict entries | .view entries => SettledEntries entries
  | .errors details => Settled details
  | .array items => Held items
  | .object fields => HeldFields fields
  | .ref _ parent => Settled parent
  | .query _ _ argument => Settled argument
  | .level value => Settled value
  | .foreign _ form _ => Settled form
  | _ => True

def SettledItems : List Value → Prop
  | [] => True
  | item :: items => Settled item ∧ SettledItems items

def SettledEntries : List (Value × Value) → Prop
  | [] => True
  | (key, value) :: entries => Settled key ∧ Settled value ∧ SettledEntries entries

def Held : Value → Prop
  | .list items | .tuple items => SettledItems items
  | _ => False

def HeldFields : Value → Prop
  | .list fields | .tuple fields => HeldItems fields
  | _ => False

def HeldItems : List Value → Prop
  | [] => True
  | field :: fields => Held field ∧ HeldItems fields

end

theorem settledItems_iff (items : List Value) :
    SettledItems items ↔ ∀ item ∈ items, item.Settled := by
  induction items with
  | nil => exact iff_of_true trivial nofun
  | cons item items ih => rw [SettledItems, ih, List.forall_mem_cons]

theorem heldItems_iff (items : List Value) : HeldItems items ↔ ∀ item ∈ items, item.Held := by
  induction items with
  | nil => exact iff_of_true trivial nofun
  | cons item items ih => rw [HeldItems, ih, List.forall_mem_cons]

theorem settled_of_entry (entries : List (Value × Value)) (settled : SettledEntries entries) :
    ∀ entry ∈ entries, entry.1.Settled ∧ entry.2.Settled := by
  induction entries with
  | nil => nofun
  | cons entry entries ih =>
    obtain ⟨key, value⟩ := entry
    exact List.forall_mem_cons.mpr ⟨⟨settled.1, settled.2.1⟩, ih settled.2.2⟩

def Stable (good : Value → Prop) : Prop :=
  ∀ identity depth value, good value → good (value.withIdentity identity depth)

section

variable (identity : Nat)

mutual

theorem settled_withIdentity (depth : Nat) (value : Value) (settled : value.Settled) :
    (value.withIdentity identity depth).Settled := by
  match value with
  | .list items | .tuple items | .set items =>
    exact settledItems_withIdentity (depth + 1) items settled
  | .dict entries | .view entries => exact settledEntries_withIdentity (depth + 1) entries settled
  | .errors value | .ref _ value | .query _ _ value | .level value =>
    exact settled_withIdentity (depth + 1) value settled
  | .array items => exact held_withIdentity (depth + 1) items settled
  | .object fields => exact heldFields_withIdentity (depth + 1) fields settled
  | .cursor .. | .foreign .. => exact settled
  | .null | .bool _ | .int _ | .float _ | .text _ | .bytes _ | .duration _ | .url _ | .bare _
  | .literal _ | .response _ | .errorDetail .. | .fieldSource _ | .bindingSource _ | .term ..
  | .builder .. | .unknown _ | .failure _ (.plain ..) | .failure _ (.unauthorized _)
  | .failure _ (.emptyResponse _) | .failure _ (.badRequest ..) | .failure _ (.notFound ..)
  | .failure _ (.database ..) =>
    trivial

theorem settledItems_withIdentity (depth : Nat) (items : List Value)
    (settled : SettledItems items) :
    SettledItems (itemsWithIdentity identity depth items) := by
  match items with
  | [] => trivial
  | item :: items =>
    exact ⟨settled_withIdentity depth item settled.1,
      settledItems_withIdentity depth items settled.2⟩

theorem settledEntries_withIdentity (depth : Nat) (entries : List (Value × Value))
    (settled : SettledEntries entries) :
    SettledEntries (entriesWithIdentity identity depth entries) := by
  match entries with
  | [] => trivial
  | (key, value) :: entries =>
    exact ⟨settled_withIdentity depth key settled.1, settled_withIdentity depth value settled.2.1,
      settledEntries_withIdentity depth entries settled.2.2⟩

theorem held_withIdentity (depth : Nat) (value : Value) (held : value.Held) :
    (value.withIdentity identity depth).Held := by
  match value with
  | .list items | .tuple items => exact settledItems_withIdentity (depth + 1) items held

theorem heldFields_withIdentity (depth : Nat) (value : Value) (held : value.HeldFields) :
    (value.withIdentity identity depth).HeldFields := by
  match value with
  | .list fields | .tuple fields => exact heldItems_withIdentity (depth + 1) fields held

theorem heldItems_withIdentity (depth : Nat) (items : List Value) (held : HeldItems items) :
    HeldItems (itemsWithIdentity identity depth items) := by
  match items with
  | [] => trivial
  | item :: items =>
    exact ⟨held_withIdentity depth item held.1, heldItems_withIdentity depth items held.2⟩

end

end

theorem settled_stable : Stable Settled := fun identity => settled_withIdentity identity

theorem held_stable : Stable Held := fun identity => held_withIdentity identity

theorem heldFields_stable : Stable HeldFields := fun identity => heldFields_withIdentity identity

theorem iteration_settled (value : Value) (settled : value.Settled) (iteration : Iteration Value)
    (found : value.iteration = .ok iteration) : ∀ item ∈ iteration.items, item.Settled := by
  match value with
  | .list items | .tuple items | .set items | .cursor _ items =>
    cases found
    exact (settledItems_iff items).mp settled
  | .dict entries | .view entries =>
    cases found
    intro key member
    obtain ⟨entry, among, rfl⟩ := List.mem_map.mp member
    exact (settled_of_entry entries settled entry among).1
  | .text _ | .bytes _ =>
    cases found
    intro item member
    obtain ⟨_, _, rfl⟩ := List.mem_map.mp member
    trivial
  | .errors details => exact iteration_settled details settled iteration found

theorem collect_yields (value : Value) (settled : value.Settled) :
    Yields (fun items => ∀ item ∈ items, item.Settled) value.collect := by
  intro store
  refine ⟨(value.collect_still.spares store).1, fun items done => ?_⟩
  rw [outcome_collect] at done
  cases found : value.iteration with
  | error cause =>
    rw [found] at done
    cases done
  | ok iteration =>
    rw [found] at done
    cases done
    intro item left
    exact iteration_settled value settled iteration found item
      (iteration.mem_of_mem_remaining store item left)

end Value

structure IndexParams.Settled (params : IndexParams) : Prop where
  source : params.source.Settled
  terms : ∀ items, params.terms = some items → ∀ item ∈ items, item.Settled
  values : ∀ items, params.values = some items → ∀ item ∈ items, item.Settled
  permissions : params.permissions.Settled
  data : ∀ data, params.data = some data → data.Settled

structure ClassParams.Settled (params : ClassParams) : Prop where
  permissions : params.permissions.Settled
  data : ∀ data, params.data = some data → data.Settled

theorem IndexParams.new_settled (name source : Value) (given : source.Settled) :
    ({ name, source } : IndexParams).Settled :=
  ⟨given, nofun, nofun, trivial, nofun⟩

theorem ClassParams.new_settled (name : Value) : ({ name } : ClassParams).Settled :=
  ⟨trivial, nofun⟩

/-- What a builder hands on to the nodes made from it is settled; the rest ends up in literals. -/
def Builder.Settled : Builder → Prop
  | .indexValue _ _ => True
  | .indexParams params => params.Settled
  | .classParams params => params.Settled
  | .indexPermission read => read.Settled

def Store.Settled (store : Store) : Prop := ∀ builder ∈ store.builders, builder.Settled

end QueryWire
