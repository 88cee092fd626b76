import QueryWire.Json

/-!
Data among expressions. On the wire an object of data is wrapped, so that no key of it can be taken
for the tag of a reference or the verb of a call. Wrapping is undone by taking the wrappers off, and
in a wrapped tree nothing but wrappers stands where an expression is expected.
-/

namespace QueryWire.Json

mutual

def wrapped : Json → Json
  | .array items => .array (wrappedItems items)
  | .object members => .object [("object", .object (wrappedMembers members))]
  | json => json

def wrappedItems : List Json → List Json
  | [] => []
  | item :: items => wrapped item :: wrappedItems items

def wrappedMembers : List (Text × Json) → List (Text × Json)
  | [] => []
  | (key, value) :: members => (key, wrapped value) :: wrappedMembers members

end

mutual

/-- A tree without its wrappers, if every object in it has one. -/
def strip? : Json → Option Json
  | .array items => do return .array (← stripItems? items)
  | .object [(tag, .object members)] =>
    if tag = "object" then do return .object (← stripMembers? members) else none
  | .object _ => none
  | json => some json

def stripItems? : List Json → Option (List Json)
  | [] => some []
  | item :: items => do return (← strip? item) :: (← stripItems? items)

def stripMembers? : List (Text × Json) → Option (List (Text × Json))
  | [] => some []
  | (key, value) :: members => do return (key, ← strip? value) :: (← stripMembers? members)

end

mutual

theorem strip?_wrapped (json : Json) : json.wrapped.strip? = some json := by
  match json with
  | .null | .bool _ | .int _ | .float _ | .text _ => rfl
  | .array items =>
    rw [wrapped, strip?, stripItems?_wrappedItems items]
    rfl
  | .object members =>
    rw [wrapped, strip?, if_pos rfl, stripMembers?_wrappedMembers members]
    rfl

theorem stripItems?_wrappedItems (items : List Json) :
    stripItems? (wrappedItems items) = some items := by
  match items with
  | [] => rfl
  | item :: items =>
    rw [wrappedItems, stripItems?, strip?_wrapped item, stripItems?_wrappedItems items]
    rfl

theorem stripMembers?_wrappedMembers (members : List (Text × Json)) :
    stripMembers? (wrappedMembers members) = some members := by
  match members with
  | [] => rfl
  | (key, value) :: members =>
    rw [wrappedMembers, stripMembers?, strip?_wrapped value,
      stripMembers?_wrappedMembers members]
    rfl

end

theorem wrapped_injective (first second : Json) (same : first.wrapped = second.wrapped) :
    first = second := by
  have stripped := congrArg strip? same
  rw [strip?_wrapped, strip?_wrapped] at stripped
  exact Option.some.inj stripped

/-- The trees that stand where a reader of the wire format finds an expression: the whole, the items
of an array, the values of a wrapped object, the parent of a reference, the argument of a call. -/
inductive Stands (inner : Json) : Json → Prop
  | whole : Stands inner inner
  | item (items : List Json) (item : Json) (member : item ∈ items) (within : Stands inner item) :
    Stands inner (.array items)
  | value (members : List (Text × Json)) (key : Text) (value : Json)
    (member : (key, value) ∈ members) (within : Stands inner value) :
    Stands inner (.object [("object", .object members)])
  | parent (id parent : Json) (within : Stands inner parent) :
    Stands inner (.object [("@ref", .object [("id", id), ("class", parent)])])
  | argument (verb : Text) (ordinary : verb ≠ "object" ∧ verb ≠ "@ref") (argument : Json)
    (within : Stands inner argument) : Stands inner (.object [(verb, argument)])

theorem exists_of_mem_wrappedItems (items : List Json) (item : Json)
    (member : item ∈ wrappedItems items) : ∃ plain, item = wrapped plain := by
  induction items with
  | nil => nomatch member
  | cons first items ih =>
    rcases List.mem_cons.mp member with rfl | member
    · exact ⟨first, rfl⟩
    · exact ih member

theorem exists_of_mem_wrappedMembers (members : List (Text × Json)) (key : Text) (value : Json)
    (member : (key, value) ∈ wrappedMembers members) : ∃ plain, value = wrapped plain := by
  induction members with
  | nil => nomatch member
  | cons first members ih =>
    obtain ⟨found, plain⟩ := first
    rcases List.mem_cons.mp member with same | member
    · exact ⟨plain, congrArg Prod.snd same⟩
    · exact ih member

theorem wrapped_eq_object (json : Json) (members : List (Text × Json))
    (same : json.wrapped = .object members) :
    ∃ inner, members = [(("object" : Text), object (wrappedMembers inner))] := by
  cases json with
  | object inner => exact ⟨inner, (Json.object.inj same).symm⟩
  | _ => nomatch same

/-- What stands where an expression is expected in a wrapped tree is a wrapped tree again. -/
theorem Stands.exists_wrapped {inner json : Json} (stands : Stands inner json) (plain : Json)
    (same : json = plain.wrapped) : ∃ part, inner = wrapped part := by
  induction stands generalizing plain with
  | whole => exact ⟨plain, same⟩
  | item items item member within ih =>
    cases plain with
    | array plains =>
      cases same
      obtain ⟨part, rfl⟩ := exists_of_mem_wrappedItems plains item member
      exact ih part rfl
    | _ => nomatch same
  | value members key value member within ih =>
    obtain ⟨plains, same⟩ := wrapped_eq_object plain _ same.symm
    cases same
    obtain ⟨part, rfl⟩ := exists_of_mem_wrappedMembers plains key value member
    exact ih part rfl
  | parent id parent within ih =>
    obtain ⟨plains, same⟩ := wrapped_eq_object plain _ same.symm
    have tag : ("@ref" : Text) = "object" := congrArg Prod.fst (List.cons.inj same).1
    exact absurd tag (by decide)
  | argument verb ordinary argument within ih =>
    obtain ⟨plains, same⟩ := wrapped_eq_object plain _ same.symm
    exact absurd (congrArg Prod.fst (List.cons.inj same).1) ordinary.1

end QueryWire.Json
