import QueryWire.Proofs.Json.Printable
import QueryWire.Proofs.Json.RoundTrip
import QueryWire.Proofs.Value.Data

/-!
What is found in a tree that has been written and read again. A key of printable characters finds
what it found before, as it is read again, for no other key becomes it.
-/

namespace QueryWire

namespace Text

theorem Printable.joined {text : Text} (printable : text.Printable) : text.joined = text := by
  induction text with
  | nil => rfl
  | cons point rest ih =>
    obtain ⟨visible, others⟩ := (printable_cons point rest).mp printable
    have range := (CodePoint.within_iff _ _ _).mp visible
    have noHigh : point.isHighSurrogate = false := by
      rw [Bool.eq_false_iff, ne_eq, Json.isHighSurrogate_iff]
      omega
    rw [joined_cons point rest (.inl noHigh), ih others]

theorem joined_eq_iff (text key : Text) (printable : key.Printable) :
    text.joined = key ↔ text = key := by
  constructor
  · intro same
    induction text generalizing key with
    | nil => exact same
    | cons point rest ih =>
      by_cases pair : point.isHighSurrogate = false ∨
          ∀ next ∈ rest.head?, next.isLowSurrogate = false
      · rw [joined_cons point rest pair] at same
        subst same
        have others := ((printable_cons _ _).mp printable).2
        exact congrArg (point :: ·) (ih _ others rfl)
      · -- What a pair becomes lies beyond the printable characters.
        obtain ⟨first, found⟩ := not_or.mp pair
        cases rest with
        | nil => exact (found fun _ absent => nomatch absent).elim
        | cons low rest =>
          have first : point.isHighSurrogate = true := by simpa using first
          have second : low.isLowSurrogate = true := by simpa using found
          have highRange := (Json.isHighSurrogate_iff point).mp first
          have lowRange := (Json.isLowSurrogate_iff low).mp second
          have bound : 0x10000 + (point.val - 0xD800) * 0x400 + (low.val - 0xDC00) < 0x110000 := by
            omega
          rw [joined_pair point low rest first second] at same
          rw [← same, printable_cons, CodePoint.ofNat, dif_pos bound, CodePoint.within_iff]
            at printable
          have beyond := printable.1.2
          dsimp only at beyond
          omega
  · rintro rfl
    exact printable.joined

end Text

namespace Json

theorem member?_insertMember (members : List (Text × Json)) (key other : Text) (value : Json) :
    member? (insertMember key value members) other =
      if other = key then some value else member? members other := by
  induction members with
  | nil => rw [insertMember, member?_cons]
  | cons member members ih =>
    obtain ⟨found, old⟩ := member
    rw [insertMember]
    by_cases here : found = key
    · subst here
      rw [if_pos rfl, member?_cons, member?_cons]
      split <;> rfl
    · rw [if_neg here, member?_cons, member?_cons, ih]
      by_cases same : other = found
      · subst same
        rw [if_pos rfl, if_neg here, if_pos rfl]
      · rw [if_neg same, if_neg same]

theorem member?_of_absent (members : List (Text × Json)) (key : Text)
    (absent : key ∉ members.map Prod.fst) : member? members key = none := by
  induction members with
  | nil => rfl
  | cons member members ih =>
    obtain ⟨found, value⟩ := member
    rw [List.map_cons, List.mem_cons, not_or] at absent
    rw [member?_cons, if_neg absent.1, ih absent.2]

theorem member?_rereadMembers (members done : List (Text × Json)) (key : Text)
    (printable : key.Printable) (distinct : (members.map Prod.fst).Nodup) :
    member? (rereadMembers done members) key =
      ((member? members key).map reread).or (member? done key) := by
  induction members generalizing done with
  | nil => rfl
  | cons member members ih =>
    obtain ⟨found, value⟩ := member
    obtain ⟨new, others⟩ := List.nodup_cons.mp distinct
    have becomes : key = found.joined ↔ key = found := by
      rw [eq_comm, Text.joined_eq_iff found key printable, eq_comm]
    rw [rereadMembers, ih _ others, member?_insertMember, member?_cons]
    by_cases same : key = found
    · rw [if_pos (becomes.mpr same), if_pos same, same, member?_of_absent members found new]
      rfl
    · rw [if_neg (mt becomes.mp same), if_neg same]

/-- The members of an object that was read are found as they were, read again. -/
theorem member?_reread (members : List (Text × Json)) (key : Text) (printable : key.Printable)
    (distinct : (members.map Prod.fst).Nodup) :
    member? (rereadMembers [] members) key = (member? members key).map reread := by
  rw [member?_rereadMembers members [] key printable distinct]
  exact Option.or_none

end Json

end QueryWire
