import QueryWire.Expr.Wire
import QueryWire.Proofs.Json.Limit
import QueryWire.Proofs.Value.Display

/-!
Plain data that stands for a JSON tree. There are no builders in it, it can always be shown if its
integers are within the limit, and its members are found by their keys.
-/

namespace QueryWire

def Json.member? (members : List (Text × Json)) (key : Text) : Option Json := members.lookup key

theorem Json.member?_cons (members : List (Text × Json)) (found key : Text) (value : Json) :
    member? ((found, value) :: members) key =
      if key = found then some value else member? members key := by
  rw [member?, List.lookup_cons]
  by_cases same : key = found
  · rw [if_pos same, beq_iff_eq.mpr same]
  · rw [if_neg same, beq_eq_false_iff_ne.mpr same]
    rfl

namespace Value

/-- Collections and nodes with no builder in them need no identity. -/
theorem enclose_of_free (value : Value) (free : value.enclosure? = none) :
    Run.enclose value = pure value := by
  rw [Run.enclose, free]

theorem enclosure?_text (content : Text) : (text content).enclosure? = none := rfl

mutual

theorem enclosure?_ofJson (json : Json) : (ofJson json).enclosure? = none := by
  match json with
  | .null | .bool _ | .int _ | .float _ | .text _ => rfl
  | .array items => rw [ofJson, enclosure?, enclosureOfItems?_ofJsonItems items, Option.map_none]
  | .object members =>
    rw [ofJson, enclosure?, enclosureOfEntries?_ofJsonMembers members, Option.map_none]

theorem enclosureOfItems?_ofJsonItems (items : List Json) :
    enclosureOfItems? (ofJsonItems items) = none := by
  match items with
  | [] => rfl
  | item :: items =>
    rw [ofJsonItems, enclosureOfItems?, enclosure?_ofJson item,
      enclosureOfItems?_ofJsonItems items, Option.none_or]

theorem enclosureOfEntries?_ofJsonMembers (members : List (Text × Json)) :
    enclosureOfEntries? (ofJsonMembers members) = none := by
  match members with
  | [] => rfl
  | (key, value) :: members =>
    rw [ofJsonMembers, enclosureOfEntries?, enclosure?_text, enclosure?_ofJson value,
      enclosureOfEntries?_ofJsonMembers members, Option.none_or, Option.none_or]

end

theorem lookup_ofJsonMembers (key : Text) (members : List (Text × Json)) :
    lookup key (ofJsonMembers members) = (Json.member? members key).map ofJson := by
  unfold Json.member?
  induction members with
  | nil => rfl
  | cons member members ih =>
    obtain ⟨found, value⟩ := member
    rw [ofJsonMembers, lookup, List.lookup_cons]
    by_cases same : key = found
    · subst same
      simp [keyText?]
    · have differs : (key == found) = false := beq_eq_false_iff_ne.mpr same
      simp [keyText?, Ne.symm same, differs, ih]

variable (builders : BuilderDisplay) (opened : List Nat)

mutual

theorem displayWith_ofJson (json : Json) (fits : json.Fits) :
    ∃ shown, displayWith builders opened (ofJson json) = pure shown := by
  rw [displayWith, showing_of_free opened _ _ _ (enclosure?_ofJson json)]
  match json with
  | .null | .bool _ | .float _ | .text _ => exact ⟨_, rfl⟩
  | .int value =>
    have within : Numeral.fits value = true := fits
    refine ⟨Numeral.ofInt value, ?_⟩
    simp only [ofJson, displayInt, within, ↓reduceIte, Run.lift_ok]
  | .array items =>
    obtain ⟨shown, inner⟩ := displayItems_ofJsonItems items fits
    simp only [ofJson, inner]
    exact ⟨_, rfl⟩
  | .object members =>
    obtain ⟨shown, inner⟩ := displayEntries_ofJsonMembers members fits
    simp only [ofJson, inner]
    exact ⟨_, rfl⟩

theorem displayItems_ofJsonItems (items : List Json) (fits : Json.FitsItems items) :
    ∃ shown, displayItems builders opened (ofJsonItems items) = pure shown := by
  match items with
  | [] => exact ⟨_, rfl⟩
  | item :: items =>
    obtain ⟨first, here⟩ := displayWith_ofJson item fits.1
    obtain ⟨others, rest⟩ := displayItems_ofJsonItems items fits.2
    simp only [ofJsonItems, displayItems, here, rest]
    exact ⟨_, rfl⟩

theorem displayEntries_ofJsonMembers (members : List (Text × Json))
    (fits : Json.FitsMembers members) :
    ∃ shown, displayEntries builders opened (ofJsonMembers members) = pure shown := by
  match members with
  | [] => exact ⟨_, rfl⟩
  | (key, value) :: members =>
    have quoted : displayWith builders opened (.text key) = pure (Quoted.text key) := rfl
    obtain ⟨first, here⟩ := displayWith_ofJson value fits.1
    obtain ⟨others, rest⟩ := displayEntries_ofJsonMembers members fits.2
    simp only [ofJsonMembers, displayEntries, quoted, here, rest]
    exact ⟨_, rfl⟩

end

theorem display_ofJson (json : Json) (fits : json.Fits) :
    ∃ shown, (ofJson json).display = pure shown :=
  displayWith_ofJson _ [] json fits

theorem plain_ofJson (json : Json) (fits : json.Fits) :
    ∃ shown, (ofJson json).plain = pure shown := by
  cases json with
  | text value => exact ⟨value, rfl⟩
  | _ => exact display_ofJson _ fits

end Value

/-- A tree is written as a text in messages; a text is written as it is. -/
def Json.Shows (json : Json) (shown : Text) : Prop := (Value.ofJson json).plain = pure shown

theorem Json.shows_text (content : Text) : (Json.text content).Shows content := rfl

end QueryWire
