import QueryWire.Logging
import QueryWire.Proofs.Text.Parts

/-!
Which loggers are below the package logger. The parents of a logger are found by cutting its name at
its dots, from the last one on, but a dot right before a cut is passed over. So a name that begins
with that of the package and a single dot is below it, whichever other loggers there are, and one
that does not begin so is not. Where two dots follow the name of the package the dot after it may be
passed over, and then the logger is below the package only by way of another one.
-/

namespace QueryWire

def dot : CodePoint := .ofChar '.'

theorem dot_not_mem_packageName : dot ∉ packageName := by decide

def Below (name : Text) : Prop := ∃ rest, name = packageName ++ dot :: rest ∧ rest.head? ≠ some dot

namespace Logger

/-- The package logger, and loggers that are below it whichever others there are. -/
inductive Governed : Logger → Prop
  | package : Governed .package
  | below (name : Text) (below : Below name) : Governed (.named name)

def Foreign (logger : Logger) : Prop :=
  logger ≠ .package ∧ ∀ rest, logger ≠ .named (packageName ++ dot :: rest)

end Logger

section Above

theorem above_of_mem {fuel : Nat} {name above : Text} (member : above ∈ namesAbove fuel name) :
    ∃ rest, name = above ++ dot :: rest := by
  induction fuel generalizing name with
  | zero => nomatch member
  | succ fuel ih =>
    rw [namesAbove] at member
    split at member
    next => nomatch member
    next => nomatch member
    next before after nonempty cut =>
      obtain ⟨same, -⟩ := Text.eq_of_cutLast? cut
      rcases List.mem_cons.mp member with rfl | further
      · exact ⟨after, same⟩
      · obtain ⟨rest, shorter⟩ := ih further
        rw [← List.dropLast_concat_getLast nonempty, shorter] at same
        exact ⟨rest ++ before.getLast nonempty :: dot :: after, by simpa [dot] using same⟩

theorem Below.cut {name : Text} (below : Below name) :
    ∃ before after, Text.cutLast? '.' name = some (before, after) ∧
      (before = packageName ∨ Below before ∧ Below before.dropLast) := by
  obtain ⟨rest, rfl, single⟩ := below
  have member : dot ∈ packageName ++ dot :: rest :=
    List.mem_append_right _ (List.mem_cons_self ..)
  obtain ⟨before, after, cut⟩ := Text.exists_cutLast? member
  refine ⟨before, after, cut, ?_⟩
  obtain ⟨same, -⟩ := Text.eq_of_cutLast? cut
  -- The cut falls behind the first dot or at it, since the name of the package has none.
  rcases List.append_eq_append_iff.mp same with ⟨between, left, right⟩ | ⟨between, left, right⟩
  · rcases between with _ | ⟨first, _ | ⟨next, others⟩⟩
    · exact .inl (by simpa using left)
    · cases right
      exact (single rfl).elim
    · cases right
      have other : next ≠ dot := fun same => single (congrArg some same)
      rw [left]
      refine .inr ⟨⟨next :: others, rfl, by simpa using other⟩, ⟨(next :: others).dropLast, ?_, ?_⟩⟩
      · rw [List.dropLast_append_of_ne_nil (List.cons_ne_nil _ _), List.dropLast_cons_cons]
      · cases others with
        | nil => exact nofun
        | cons later others => simpa using other
  · rcases between with _ | ⟨first, others⟩
    · exact .inl (by simpa using left.symm)
    · cases right
      have inside : dot ∈ packageName := left ▸ List.mem_append_right _ (List.mem_cons_self ..)
      exact (dot_not_mem_packageName inside).elim

/-- On the way up from a name below the package the package comes after names below it only. -/
theorem Below.above {fuel : Nat} {name : Text} (below : Below name) (enough : name.length ≤ fuel) :
    ∃ nearer further, namesAbove fuel name = nearer ++ packageName :: further ∧
      ∀ above ∈ nearer, Below above := by
  induction fuel generalizing name with
  | zero =>
    obtain ⟨rest, rfl, -⟩ := below
    simp at enough
  | succ fuel ih =>
    obtain ⟨before, after, cut, found⟩ := below.cut
    have length : before.length + 1 ≤ name.length := by
      rw [(Text.eq_of_cutLast? cut).1]
      simp
    have filled : before ≠ [] := by
      rintro rfl
      obtain same | ⟨⟨rest, same, -⟩, -⟩ := found
      · exact absurd same (by decide)
      · simp at same
    have step : namesAbove (fuel + 1) name = before :: namesAbove fuel before.dropLast := by
      rw [namesAbove, cut]
      cases before with
      | nil => exact (filled rfl).elim
      | cons first others => rfl
    rw [step]
    obtain rfl | ⟨here, later⟩ := found
    · exact ⟨[], _, rfl, List.forall_mem_nil _⟩
    · -- The search goes on one code point before the cut, and is still below the package there.
      have shorter : before.dropLast.length ≤ fuel := by
        rw [List.length_dropLast]
        omega
      obtain ⟨nearer, further, same, all⟩ := ih later shorter
      exact ⟨before :: nearer, further, by rw [same]; rfl, List.forall_mem_cons.mpr ⟨here, all⟩⟩

end Above

section Within

variable {known : List Text}

theorem passesPackage_package (fuel : Nat) : passesPackage known fuel packageName = true := by
  cases fuel <;> simp [passesPackage]

theorem passesPackage_of_parent {fuel : Nat} {name parent : Text}
    (found : (namesAbove name.length name).find? known.contains = some parent) :
    passesPackage known (fuel + 1) name =
      (name == packageName || passesPackage known fuel parent) := by
  rw [passesPackage, found]

theorem Below.parent {name : Text} (below : Below name) (present : packageName ∈ known) :
    ∃ parent, (namesAbove name.length name).find? known.contains = some parent ∧
      (parent = packageName ∨ Below parent) := by
  obtain ⟨nearer, further, same, all⟩ := below.above (Nat.le_refl name.length)
  rw [same, List.find?_append]
  cases found : nearer.find? known.contains with
  | some parent => exact ⟨parent, rfl, .inr (all parent (List.mem_of_find?_eq_some found))⟩
  | none =>
    refine ⟨packageName, ?_, .inl rfl⟩
    rw [Option.none_or, List.find?_cons_of_pos (List.contains_iff_mem.mpr present)]

theorem Below.passes {fuel : Nat} {name : Text} (below : Below name)
    (present : packageName ∈ known) (enough : name.length ≤ fuel) :
    passesPackage known fuel name = true := by
  induction fuel generalizing name with
  | zero =>
    obtain ⟨rest, rfl, -⟩ := below
    simp at enough
  | succ fuel ih =>
    obtain ⟨parent, found, rfl | again⟩ := below.parent present
    · rw [passesPackage_of_parent found, passesPackage_package, Bool.or_true]
    · obtain ⟨rest, same⟩ := above_of_mem (List.mem_of_find?_eq_some found)
      have shorter : parent.length ≤ fuel := by
        have length := congrArg List.length same
        simp only [List.length_append, List.length_cons] at length
        omega
      rw [passesPackage_of_parent found, ih again shorter, Bool.or_true]

theorem eq_of_passes {fuel : Nat} {name : Text} (passes : passesPackage known fuel name = true) :
    name = packageName ∨ ∃ rest, name = packageName ++ dot :: rest := by
  induction fuel generalizing name with
  | zero => exact .inl (eq_of_beq passes)
  | succ fuel ih =>
    rw [passesPackage, Bool.or_eq_true] at passes
    obtain same | higher := passes
    · exact .inl (eq_of_beq same)
    · split at higher
      next parent found =>
        obtain ⟨rest, rfl⟩ := above_of_mem (List.mem_of_find?_eq_some found)
        obtain rfl | ⟨others, rfl⟩ := ih higher
        · exact .inr ⟨rest, rfl⟩
        · exact .inr ⟨others ++ dot :: rest, by simp⟩
      next => nomatch higher

end Within

namespace Logging

variable (logging : Logging) {logger : Logger}

theorem isWithinPackage_package : logging.isWithinPackage .package = true :=
  passesPackage_package _

theorem isWithinPackage_of_governed (present : packageName ∈ logging.known)
    (governed : logger.Governed) : logging.isWithinPackage logger = true := by
  cases governed with
  | package => exact logging.isWithinPackage_package
  | below name below => exact below.passes present (Nat.le_refl _)

theorem isWithinPackage_of_foreign (foreign : logger.Foreign) :
    logging.isWithinPackage logger = false := by
  cases logger with
  | root => rfl
  | named name =>
    rw [Bool.eq_false_iff]
    intro passes
    obtain rfl | ⟨rest, rfl⟩ := eq_of_passes passes
    · exact foreign.1 rfl
    · exact foreign.2 rest rfl

end Logging

end QueryWire
