import QueryWire.Proofs.Value.Data
import QueryWire.Response.Errors

/-!
Which bodies report errors. The reading of a body gives the errors in it exactly if it is an errors
body, and refuses it otherwise; the failure made from the errors is never in doubt.
-/

namespace QueryWire

namespace Json

def ErrorEntry : Json → Prop
  | .object fields =>
    (∃ code, member? fields "code" = some code) ∧
      (∃ description, member? fields "description" = some description) ∧
        ∀ position, member? fields "position" = some position → ∃ items, position = .array items
  | _ => False

def ErrorsBody : Json → Prop
  | .object members =>
    ∃ entries, member? members "errors" = some (.array entries) ∧
      ∀ entry ∈ entries, ErrorEntry entry
  | _ => False

theorem fits_of_member? (key : Text) (value : Json) (members : List (Text × Json))
    (fits : FitsMembers members) (found : member? members key = some value) : value.Fits := by
  induction members with
  | nil => nomatch found
  | cons member members ih =>
    obtain ⟨other, first⟩ := member
    rw [member?, List.lookup_cons] at found
    split at found
    · cases found
      exact fits.1
    · exact ih fits.2 found

end Json

structure ErrorReport where
  code : Text
  description : Text
  position : List Json

namespace ErrorReport

def detail (report : ErrorReport) : Value :=
  .errorDetail (.text report.code) (.text report.description)
    (.list (Value.ofJsonItems report.position))

def collected (reports : List ErrorReport) : Value := .errors (.list (reports.map detail))

def line (report : ErrorReport) : Text := report.code ++ ": " ++ report.description

def summary (reports : List ErrorReport) : Text := Text.joinWith "; " (reports.map line)

def firstCode (reports : List ErrorReport) : Value :=
  reports.head?.elim .null fun report => .text report.code

end ErrorReport

namespace Json

/-- An entry tells of an error: it is an object with the code, the description and the position,
which is a list, and empty if it is absent. -/
def Tells (entry : Json) (report : ErrorReport) : Prop :=
  ∃ fields code description, entry = .object fields ∧
    member? fields "code" = some code ∧ code.Shows report.code ∧
    member? fields "description" = some description ∧ description.Shows report.description ∧
    (member? fields "position" = some (.array report.position) ∨
      member? fields "position" = none ∧ report.position = [])

theorem exists_tells (entry : Json) (fits : entry.Fits) (accepted : entry.ErrorEntry) :
    ∃ report, entry.Tells report := by
  cases entry with
  | object fields =>
    obtain ⟨⟨code, hasCode⟩, ⟨description, hasDescription⟩, positions⟩ := accepted
    obtain ⟨shownCode, showsCode⟩ :=
      Value.plain_ofJson code (fits_of_member? _ _ fields fits hasCode)
    obtain ⟨shownDescription, showsDescription⟩ :=
      Value.plain_ofJson description (fits_of_member? _ _ fields fits hasDescription)
    cases found : member? fields "position" with
    | none =>
      exact ⟨⟨shownCode, shownDescription, []⟩, fields, code, description, rfl, hasCode, showsCode,
        hasDescription, showsDescription, .inr ⟨found, rfl⟩⟩
    | some position =>
      obtain ⟨items, rfl⟩ := positions position found
      exact ⟨⟨shownCode, shownDescription, items⟩, fields, code, description, rfl, hasCode,
        showsCode, hasDescription, showsDescription, .inl found⟩
  | _ => exact accepted.elim

theorem exists_forall₂_tells (entries : List Json) (fits : FitsItems entries)
    (accepted : ∀ entry ∈ entries, entry.ErrorEntry) :
    ∃ reports, List.Forall₂ Tells entries reports := by
  induction entries with
  | nil => exact ⟨[], .nil⟩
  | cons entry entries ih =>
    obtain ⟨here, others⟩ := List.forall_mem_cons.mp accepted
    obtain ⟨report, tells⟩ := exists_tells entry fits.1 here
    obtain ⟨reports, rest⟩ := ih fits.2 others
    exact ⟨report :: reports, .cons tells rest⟩

def Lists (body : Json) (reports : List ErrorReport) : Prop :=
  ∃ members entries, body = .object members ∧ member? members "errors" = some (.array entries) ∧
    List.Forall₂ Tells entries reports

theorem exists_lists (body : Json) (fits : body.Fits) (accepted : body.ErrorsBody) :
    ∃ reports, body.Lists reports := by
  cases body with
  | object members =>
    obtain ⟨entries, found, all⟩ := accepted
    have inner : FitsItems entries := fits_of_member? _ _ members fits found
    obtain ⟨reports, tell⟩ := exists_forall₂_tells entries inner all
    exact ⟨reports, members, entries, rfl, found, tell⟩
  | _ => exact accepted.elim

end Json

namespace Value

section Reading

theorem enclosure?_detail (report : ErrorReport) : report.detail.enclosure? = none := by
  simp only [ErrorReport.detail, enclosure?, enclosureOfItems?_ofJsonItems, Option.map_none,
    Option.or_none]

theorem enclosureOfItems?_details (reports : List ErrorReport) :
    enclosureOfItems? (reports.map ErrorReport.detail) = none := by
  induction reports with
  | nil => rfl
  | cons report reports ih =>
    rw [List.map_cons, enclosureOfItems?, enclosure?_detail report, ih, Option.none_or]

theorem readErrorDetail_of_tells (entry : Json) (report : ErrorReport)
    (tells : entry.Tells report) :
    readErrorDetail (ofJson entry) = pure report.detail := by
  obtain ⟨fields, code, description, rfl, hasCode, showsCode, hasDescription, showsDescription,
    position⟩ := tells
  have complete : (do
      let code ← (ofJson code).plain
      let description ← (ofJson description).plain
      let position ← Run.enclose (.list (ofJsonItems report.position))
      Run.enclose (.errorDetail (.text code) (.text description) position)) =
        pure report.detail := by
    have free : (list (ofJsonItems report.position)).enclosure? = none :=
      enclosure?_ofJson (.array report.position)
    rw [showsCode, pure_bind, showsDescription, pure_bind, enclose_of_free _ free, pure_bind]
    exact enclose_of_free _ (enclosure?_detail report)
  rw [ofJson, readErrorDetail]
  simp only [lookup_ofJsonMembers, hasCode, hasDescription]
  obtain present | ⟨absent, empty⟩ := position
  · simp only [present]
    exact complete
  · rw [empty] at complete
    simp only [absent]
    exact complete

theorem refuseEntry_ofJson (problem : Text) (json : Json) (fits : json.Fits) :
    ∃ message, refuseEntry problem (ofJson json) = throw (.refused .valueError message) := by
  obtain ⟨shown, display⟩ := display_ofJson json fits
  refine ⟨problem ++ shown, ?_⟩
  rw [refuseEntry, display, pure_bind]

theorem readErrorDetail_of_other (entry : Json) (fits : entry.Fits) (other : ¬entry.ErrorEntry) :
    ∃ message, readErrorDetail (ofJson entry) = throw (.refused .valueError message) := by
  cases entry with
  | object fields =>
    rw [ofJson, readErrorDetail]
    simp only [lookup_ofJsonMembers]
    cases code : Json.member? fields "code" with
    | none => exact ⟨_, rfl⟩
    | some foundCode =>
      cases description : Json.member? fields "description" with
      | none => exact ⟨_, rfl⟩
      | some foundDescription =>
        cases position : Json.member? fields "position" with
        | none =>
          refine (other ⟨⟨_, code⟩, ⟨_, description⟩, fun found present => ?_⟩).elim
          rw [position] at present
          cases present
        | some found =>
          cases found with
          | array items =>
            refine (other ⟨⟨_, code⟩, ⟨_, description⟩, fun found present => ?_⟩).elim
            exact ⟨items, Option.some.inj (present.symm.trans position)⟩
          | _ => exact refuseEntry_ofJson _ _ (Json.fits_of_member? _ _ fields fits position)
  | _ => exact refuseEntry_ofJson _ _ fits

theorem mapM_readErrorDetail (entries : List Json) (reports : List ErrorReport)
    (tell : List.Forall₂ Json.Tells entries reports) :
    (ofJsonItems entries).mapM readErrorDetail = pure (reports.map ErrorReport.detail) := by
  induction tell with
  | nil => rfl
  | cons tells _ ih =>
    rw [ofJsonItems, List.mapM_cons, readErrorDetail_of_tells _ _ tells, pure_bind, ih, pure_bind]
    rfl

theorem mapM_readErrorDetail_of_other (entries : List Json) (fits : Json.FitsItems entries)
    (other : ¬∀ entry ∈ entries, entry.ErrorEntry) :
    ∃ message, (ofJsonItems entries).mapM readErrorDetail =
      throw (.refused .valueError message) := by
  induction entries with
  | nil => exact (other nofun).elim
  | cons entry entries ih =>
    rw [ofJsonItems, List.mapM_cons]
    by_cases here : entry.ErrorEntry
    · obtain ⟨report, tells⟩ := Json.exists_tells entry fits.1 here
      obtain ⟨message, refused⟩ := ih fits.2 fun all => other (List.forall_mem_cons.mpr ⟨here, all⟩)
      rw [readErrorDetail_of_tells entry report tells, pure_bind, refused]
      exact ⟨message, rfl⟩
    · obtain ⟨message, refused⟩ := readErrorDetail_of_other entry fits.1 here
      rw [refused]
      exact ⟨message, rfl⟩

/-- A body that lists errors is read as those errors. -/
theorem readErrors_of_lists (body : Json) (reports : List ErrorReport)
    (lists : body.Lists reports) :
    readErrors (ofJson body) = pure (ErrorReport.collected reports) := by
  obtain ⟨members, entries, rfl, found, tell⟩ := lists
  have details : (list (reports.map ErrorReport.detail)).enclosure? = none := by
    rw [enclosure?, enclosureOfItems?_details reports, Option.map_none]
  have errors : (Value.errors (.list (reports.map ErrorReport.detail))).enclosure? = none := by
    rw [enclosure?, details, Option.map_none]
  rw [ofJson, readErrors]
  simp only [lookup_ofJsonMembers, found, Option.map_some, ofJson,
    mapM_readErrorDetail entries reports tell, pure_bind]
  rw [enclose_of_free _ details, pure_bind]
  exact enclose_of_free _ errors

theorem readErrors_of_other (body : Json) (fits : body.Fits) (other : ¬body.ErrorsBody) :
    ∃ message, readErrors (ofJson body) = throw (.refused .valueError message) := by
  cases body with
  | object members =>
    rw [ofJson, readErrors]
    simp only [lookup_ofJsonMembers]
    cases errors : Json.member? members "errors" with
    | none => exact refuseEntry_ofJson _ (.object members) fits
    | some found =>
      cases found with
      | array entries =>
        have inner : Json.FitsItems entries := Json.fits_of_member? _ _ members fits errors
        obtain ⟨message, refused⟩ :=
          mapM_readErrorDetail_of_other entries inner fun all => other ⟨entries, errors, all⟩
        simp only [Option.map_some, ofJson, refused]
        exact ⟨message, rfl⟩
      | _ => exact refuseEntry_ofJson _ (.object members) fits
  | _ => exact refuseEntry_ofJson _ _ fits

end Reading

section Telling

variable (reports : List ErrorReport)

theorem itemLines_details (builders : BuilderDisplay) (opened : List Nat) :
    itemLines builders opened (reports.map ErrorReport.detail) =
      (reports.map ErrorReport.line).map pure := by
  induction reports with
  | nil => rfl
  | cons report reports ih =>
    rw [List.map_cons, itemLines, ih]
    rfl

theorem mapM_settled (lines : List Text) :
    (lines.map (pure : Text → Run Text)).mapM id = pure lines := by
  induction lines with
  | nil => rfl
  | cons line lines ih =>
    simp only [List.map_cons, List.mapM_cons, id, pure_bind, ih]

theorem plain_errors :
    (ErrorReport.collected reports).plain = pure (ErrorReport.summary reports) := by
  rw [ErrorReport.collected, plain, plainWith, errorLines, itemLines_details reports]
  simp only [Run.lift_ok, pure_bind, Iteration.forEach, mapM_settled]
  rfl

theorem firstCode_details [Platform] :
    (list (reports.map ErrorReport.detail)).firstCode = .ok (ErrorReport.firstCode reports) := by
  cases reports <;> rfl

end Telling

end Value

namespace Failure

def ofReports (status : Int) (reports : List ErrorReport) : Failure Value :=
  if status = 400 then
    .badRequest ("Bad request: " ++ ErrorReport.summary reports) (ErrorReport.firstCode reports)
      (ErrorReport.collected reports)
  else
    .notFound ("Not found: " ++ ErrorReport.summary reports) (ErrorReport.firstCode reports)
      (ErrorReport.collected reports)

theorem ofErrors_collected [Platform] (opening : Text) (make : Text → Value → Value → Failure Value)
    (reports : List ErrorReport) :
    ofErrors opening make (ErrorReport.collected reports) =
      pure (make (opening ++ ErrorReport.summary reports) (ErrorReport.firstCode reports)
        (ErrorReport.collected reports)) := by
  rw [ofErrors, Value.plain_errors reports, pure_bind]
  simp only [ErrorReport.collected, Value.firstCode_details reports, Run.lift_ok, pure_bind]

end Failure

end QueryWire
