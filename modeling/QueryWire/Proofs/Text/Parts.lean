import Mathlib.Data.List.TakeWhile
import QueryWire.Text

/-!
Parts of a text. What is cut out of a text is made of its code points, and what is joined from
pieces is made of theirs and those of the separator. A text that is cut at a character is what
stands before it, the character, and what stands after it.
-/

namespace QueryWire

theorem CodePoint.is_iff (point : CodePoint) (c : Char) : point.is c = true ↔ point = ofChar c := by
  rcases point with ⟨code, bound⟩
  simp only [is, ofChar, beq_iff_eq, CodePoint.mk.injEq]

namespace Text

theorem mem_joinWith {separator : Text} {pieces : List Text} {point : CodePoint}
    (member : point ∈ joinWith separator pieces) :
    point ∈ separator ∨ ∃ piece ∈ pieces, point ∈ piece := by
  induction pieces with
  | nil => nomatch member
  | cons piece others ih =>
    cases others with
    | nil => exact .inr ⟨piece, .head _, member⟩
    | cons second others =>
      change point ∈ piece ++ separator ++ joinWith separator (second :: others) at member
      rw [List.mem_append, List.mem_append] at member
      obtain (here | between) | later := member
      · exact .inr ⟨piece, .head _, here⟩
      · exact .inl between
      · obtain between | ⟨other, among, inside⟩ := ih later
        · exact .inl between
        · exact .inr ⟨other, .tail _ among, inside⟩

theorem subset_of_mem_pieces (c : Char) {text piece : Text} (member : piece ∈ pieces c text) :
    piece ⊆ text := by
  induction text generalizing piece with
  | nil =>
    rw [pieces, List.mem_singleton] at member
    rw [member]
    exact List.Subset.refl []
  | cons point rest ih =>
    rw [pieces] at member
    split at member
    · rcases List.mem_cons.mp member with rfl | later
      · exact List.nil_subset _
      · exact List.subset_cons_of_subset point (ih later)
    · split at member
      next none =>
        rw [List.mem_singleton] at member
        rw [member]
        exact List.cons_subset_cons point (List.nil_subset rest)
      next first others found =>
        rcases List.mem_cons.mp member with rfl | later
        · exact List.cons_subset_cons point (ih (found ▸ .head _))
        · exact List.subset_cons_of_subset point (ih (found ▸ .tail _ later))

theorem subset_of_cut? {c : Char} {text before after : Text}
    (cut : cut? c text = some (before, after)) : before ⊆ text ∧ after ⊆ text := by
  rw [cut?] at cut
  split at cut
  next => nomatch cut
  next mark rest found =>
    cases cut
    have behind : mark :: after ⊆ text := found ▸ List.dropWhile_subset _
    exact ⟨List.takeWhile_subset _, fun point member => behind (.tail mark member)⟩

theorem subset_of_cutLast? {c : Char} {text before after : Text}
    (cut : cutLast? c text = some (before, after)) : before ⊆ text ∧ after ⊆ text := by
  obtain ⟨⟨later, earlier⟩, found, same⟩ := Option.map_eq_some_iff.mp cut
  cases same
  obtain ⟨first, second⟩ := subset_of_cut? found
  exact ⟨fun point member => List.mem_reverse.mp (second (List.mem_reverse.mp member)),
    fun point member => List.mem_reverse.mp (first (List.mem_reverse.mp member))⟩

theorem eq_of_cut? {c : Char} {text before after : Text}
    (cut : cut? c text = some (before, after)) :
    text = before ++ .ofChar c :: after ∧ .ofChar c ∉ before := by
  rw [cut?] at cut
  split at cut
  next => nomatch cut
  next mark rest found =>
    cases cut
    have marked : mark.is c = true := by
      have stopped := List.head?_dropWhile_not (fun point : CodePoint => !point.is c) text
      rw [found] at stopped
      simpa using stopped
    constructor
    · rw [← (mark.is_iff c).mp marked, ← found, List.takeWhile_append_dropWhile]
    · intro member
      have other := List.mem_takeWhile_imp member
      rw [((CodePoint.ofChar c).is_iff c).mpr rfl] at other
      nomatch other

theorem eq_of_cutLast? {c : Char} {text before after : Text}
    (cut : cutLast? c text = some (before, after)) :
    text = before ++ .ofChar c :: after ∧ .ofChar c ∉ after := by
  obtain ⟨⟨later, earlier⟩, found, same⟩ := Option.map_eq_some_iff.mp cut
  cases same
  obtain ⟨turned, absent⟩ := eq_of_cut? found
  constructor
  · rw [← List.reverse_reverse text, turned]
    simp
  · rwa [List.mem_reverse]

theorem exists_cutLast? {c : Char} {text : Text} (member : .ofChar c ∈ text) :
    ∃ before after, cutLast? c text = some (before, after) := by
  rw [cutLast?, cut?]
  split
  next spared =>
    have other := List.dropWhile_eq_nil_iff.mp spared _ (List.mem_reverse.mpr member)
    rw [((CodePoint.ofChar c).is_iff c).mpr rfl] at other
    nomatch other
  next => exact ⟨_, _, rfl⟩

end Text

end QueryWire
