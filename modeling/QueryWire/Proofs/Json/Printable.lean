import Mathlib.Data.List.Basic
import QueryWire.Json.Printer
import QueryWire.Proofs.Number.Decimal
import QueryWire.Proofs.Text.Parts
import QueryWire.Proofs.Text.Utf8

/-!
JSON text is printable ASCII: whatever a tree holds, every code point of its text lies between a
space and a tilde. Such a text always has an encoding, with one octet for each code point.
-/

namespace QueryWire

/-- Every code point is a visible ASCII character or a space. -/
def Text.Printable (text : Text) : Prop := ∀ point ∈ text, point.within 0x20 0x7E = true

instance (text : Text) : Decidable text.Printable :=
  inferInstanceAs (Decidable (∀ point ∈ text, point.within 0x20 0x7E = true))

namespace Text

@[simp] theorem printable_nil : Printable [] := nofun

@[simp] theorem printable_cons (point : CodePoint) (text : Text) :
    Printable (point :: text) ↔ point.within 0x20 0x7E = true ∧ text.Printable :=
  List.forall_mem_cons

@[simp] theorem printable_append (first second : Text) :
    Printable (first ++ second) ↔ first.Printable ∧ second.Printable :=
  List.forall_mem_append

theorem Printable.of_subset {part whole : Text} (printable : whole.Printable)
    (included : part ⊆ whole) : part.Printable :=
  fun point member => printable point (included member)

theorem printable_flatMap (text : Text) (write : CodePoint → Text)
    (each : ∀ point, (write point).Printable) : Printable (text.flatMap write) := by
  intro point member
  obtain ⟨source, -, written⟩ := List.mem_flatMap.mp member
  exact each source point written

theorem printable_joinWith (separator : Text) (between : separator.Printable)
    (pieces : List Text) (each : ∀ piece ∈ pieces, piece.Printable) :
    (joinWith separator pieces).Printable := by
  intro point member
  obtain inside | ⟨piece, among, inside⟩ := mem_joinWith member
  · exact between point inside
  · exact each piece among point inside

theorem printable_hex (width n : Nat) : (Text.hex width n).Printable := by
  have digits : ∀ digit < 16, (CodePoint.hexDigit digit).within 0x20 0x7E = true := by decide
  intro point member
  obtain ⟨place, -, rfl⟩ := List.mem_map.mp member
  exact digits _ (Nat.mod_lt _ (by decide))

end Text

open Text

namespace Numeral

theorem printable_ofNat (n : Nat) : (ofNat n).Printable := by
  intro point member
  have digit := (CodePoint.within_iff _ _ _).mp (isDigit_of_mem_ofNat n point member)
  exact (CodePoint.within_iff _ _ _).mpr ⟨by omega, by omega⟩

theorem printable_ofInt (n : Int) : (ofInt n).Printable := by
  rw [ofInt]
  split
  · exact (printable_cons _ _).mpr ⟨by decide, printable_ofNat _⟩
  · exact printable_ofNat _

end Numeral

namespace Binary64

theorem printable_zeros (count : Nat) : (zeros count).Printable := by
  intro point member
  rw [List.eq_of_mem_replicate member]
  decide

theorem printable_layout (digits : Nat) (power : Int) : (layout digits power).Printable := by
  have shown := Numeral.printable_ofNat digits
  have front (count : Nat) : Printable ((Numeral.ofNat digits).take count) :=
    shown.of_subset (List.take_subset _ _)
  have back (count : Nat) : Printable ((Numeral.ofNat digits).drop count) :=
    shown.of_subset (List.drop_subset _ _)
  have mark : Printable "." := by decide
  have opening : Printable "0." := by decide
  have ending : Printable ".0" := by decide
  have letter : Printable "e" := by decide
  have sign (below : Prop) [Decidable below] : Printable (if below then "-" else "+" : Text) := by
    split <;> decide
  unfold layout
  dsimp only
  split
  · split
    · simp only [printable_append, opening, printable_zeros, shown, and_self]
    split
    · simp only [printable_append, ending, printable_zeros, shown, and_self]
    · simp only [printable_append, mark, front, back, and_self]
  · have fraction : Printable (if (Numeral.ofNat digits).length ≤ 1 then []
        else .ofChar '.' :: (Numeral.ofNat digits).drop 1) := by
      split
      · exact printable_nil
      · exact (printable_cons _ _).mpr ⟨by decide, back 1⟩
    simp only [printable_append, front, fraction, letter, sign, printable_zeros,
      Numeral.printable_ofNat, and_self]

theorem printable_toText (number : Binary64) : number.toText.Printable := by
  cases number with
  | finite negative significand exponent =>
    have body : Printable (if significand = 0 then "0.0" else
        layout (stripZeros 17 (shortest significand exponent).1 (shortest significand exponent).2).1
          (stripZeros 17 (shortest significand exponent).1
            (shortest significand exponent).2).2) := by
      split
      · decide
      · exact printable_layout _ _
    cases negative with
    | false => exact body
    | true => exact (printable_cons _ _).mpr ⟨by decide, body⟩
  | infinite negative => cases negative <;> decide
  | nan identity => exact (by decide : Printable "nan")

end Binary64

namespace Json

theorem printable_escapePoint (point : CodePoint) : (escapePoint point).Printable := by
  have unicode (unit : Nat) : (unicodeEscape unit).Printable := by
    rw [unicodeEscape, printable_append]
    exact ⟨by decide, printable_hex 4 unit⟩
  unfold escapePoint
  -- The escapes of one mark come first.
  iterate 7
    split
    · decide
  split
  next visible => exact (printable_cons _ _).mpr ⟨visible, printable_nil⟩
  split
  · exact unicode _
  · exact (printable_append _ _).mpr ⟨unicode _, unicode _⟩

theorem printable_renderText (text : Text) : (renderText text).Printable := by
  have quote : Printable [.ofChar '"'] := by decide
  rw [renderText, printable_append, printable_append]
  exact ⟨⟨quote, printable_flatMap text escapePoint printable_escapePoint⟩, quote⟩

mutual

theorem printable_render (json : Json) : json.render.Printable := by
  have between : Printable ", " := by decide
  match json with
  | .null => exact (by decide : Printable "null")
  | .bool value => cases value <;> decide
  | .int value => exact Numeral.printable_ofInt value
  | .float value => exact value.printable_toText
  | .text value => exact printable_renderText value
  | .array items =>
    have inside := printable_joinWith _ between _ (printable_renderItems items)
    rw [render, printable_append, printable_append]
    exact ⟨⟨by decide, inside⟩, by decide⟩
  | .object members =>
    have inside := printable_joinWith _ between _ (printable_renderMembers members)
    rw [render, printable_append, printable_append]
    exact ⟨⟨by decide, inside⟩, by decide⟩

theorem printable_renderItems (items : List Json) :
    ∀ piece ∈ renderItems items, piece.Printable := by
  match items with
  | [] => exact nofun
  | item :: items =>
    rw [renderItems]
    exact List.forall_mem_cons.mpr ⟨printable_render item, printable_renderItems items⟩

theorem printable_renderMembers (members : List (Text × Json)) :
    ∀ piece ∈ renderMembers members, piece.Printable := by
  match members with
  | [] => exact nofun
  | (key, value) :: members =>
    have colon : Printable ": " := by decide
    have member : Printable (renderText key ++ ": " ++ render value) := by
      rw [printable_append, printable_append]
      exact ⟨⟨printable_renderText key, colon⟩, printable_render value⟩
    rw [renderMembers]
    exact List.forall_mem_cons.mpr ⟨member, printable_renderMembers members⟩

end

end Json

/-- A printable text is encoded with one octet for each code point. -/
theorem Text.Printable.encode {text : Text} (printable : text.Printable) :
    Utf8.encode text = .ok (text.map fun point => .ofNat point.val) := by
  have ascii (point : CodePoint) (member : point ∈ text) : 0x20 ≤ point.val ∧ point.val ≤ 0x7E :=
    (CodePoint.within_iff _ _ _).mp (printable point member)
  have scalar (point : CodePoint) (member : point ∈ text) : point.isSurrogate = false := by
    have bounds := ascii point member
    rw [Bool.eq_false_iff, ne_eq, Utf8.isSurrogate_iff]
    omega
  have single : text.flatMap Utf8.encodePoint = text.flatMap fun point => [.ofNat point.val] :=
    List.flatMap_congr fun point member => by
      have bounds := ascii point member
      exact Utf8.encodePoint_one point (by omega)
  rw [Utf8.encode_eq_ok_iff, single, List.map_eq_flatMap]
  exact ⟨scalar, rfl⟩

end QueryWire
