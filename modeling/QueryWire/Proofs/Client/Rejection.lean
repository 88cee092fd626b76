import QueryWire.Proofs.Client.Query
import QueryWire.Proofs.Expr.RoundTrip
import QueryWire.Proofs.Json.Reread

/-!
Errors of rejected queries. A query that is rejected with errors fails with all of them, as they
were written. Where one entry is none, there is nothing but the text that was written.
-/

namespace QueryWire

namespace Json

/-- No key of an object comes twice. What is no object has no keys. -/
def DistinctKeys : Json → Prop
  | .object members => (members.map Prod.fst).Nodup
  | _ => True

instance (entry : Json) : Decidable entry.DistinctKeys :=
  match entry with
  | .object members => inferInstanceAs (Decidable (members.map Prod.fst).Nodup)
  | .null | .bool _ | .int _ | .float _ | .text _ | .array _ => .isTrue trivial

theorem errorEntry_of_reread (entry : Json) (distinct : entry.DistinctKeys)
    (accepted : entry.reread.ErrorEntry) : entry.ErrorEntry := by
  cases entry with
  | object fields =>
    have present (key : Text) (printable : key.Printable) (value : Json)
        (found : member? (rereadMembers [] fields) key = some value) :
        ∃ written, member? fields key = some written ∧ written.reread = value := by
      rw [member?_reread fields key printable distinct] at found
      exact Option.map_eq_some_iff.mp found
    obtain ⟨⟨code, hasCode⟩, ⟨description, hasDescription⟩, positions⟩ := accepted
    obtain ⟨writtenCode, foundCode, -⟩ := present "code" (by decide) code hasCode
    obtain ⟨writtenDescription, foundDescription, -⟩ :=
      present "description" (by decide) description hasDescription
    refine ⟨⟨_, foundCode⟩, ⟨_, foundDescription⟩, fun position foundPosition => ?_⟩
    have again : member? (rereadMembers [] fields) "position" = some position.reread := by
      rw [member?_reread fields "position" (by decide) distinct, foundPosition, Option.map_some]
    obtain ⟨items, same⟩ := positions _ again
    cases position with
    | array written => exact ⟨written, rfl⟩
    | _ => cases same
  | _ => exact accepted.elim

theorem errorEntries_of_reread (entries : List Json)
    (distinct : ∀ entry ∈ entries, entry.DistinctKeys)
    (accepted : ∀ entry ∈ rereadItems entries, entry.ErrorEntry) :
    ∀ entry ∈ entries, entry.ErrorEntry := by
  induction entries with
  | nil => exact accepted
  | cons entry entries ih =>
    obtain ⟨here, others⟩ := List.forall_mem_cons.mp accepted
    obtain ⟨first, rest⟩ := List.forall_mem_cons.mp distinct
    exact List.forall_mem_cons.mpr ⟨errorEntry_of_reread entry first here, ih rest others⟩

def errorsBody (entries : List Json) : Json := .object [("errors", .array entries)]

theorem reread_errorsBody (entries : List Json) :
    (errorsBody entries).reread = errorsBody (rereadItems entries) := by
  have key : Text.joined "errors" = "errors" := Text.Printable.joined (by decide)
  rw [errorsBody, reread, rereadMembers, rereadMembers, key]
  rfl

theorem lists_errorsBody (entries : List Json) (reports : List ErrorReport)
    (tell : List.Forall₂ Tells entries reports) : (errorsBody entries).Lists reports :=
  ⟨_, entries, rfl, rfl, tell⟩

end Json

section

variable [Platform]

theorem parse_errorsBody (entries : List Json)
    (shallow : (Json.errorsBody entries).depth ≤ Platform.nesting) (store : Store) (content : Text)
    (written : (serialize (.literal (.ofJson (.errorsBody entries)))).outcome store =
      .ok content) :
    Json.parse Platform.nesting content = .ok (.errorsBody (Json.rereadItems entries)) := by
  rw [Expression.parse_of_literal _ store content written _ shallow, Json.reread_errorsBody]

theorem rejection_of_entries (status : Int) (entries : List Json) (reports : List ErrorReport)
    (tell : List.Forall₂ Json.Tells entries reports) (lossless : Json.LosslessItems entries)
    (shallow : (Json.errorsBody entries).depth ≤ Platform.nesting) (store : Store) (content : Text)
    (written : (serialize (.literal (.ofJson (.errorsBody entries)))).outcome store =
      .ok content) :
    rejection status content = .failure (Failure.ofReports status reports) := by
  have parsed := parse_errorsBody entries shallow store content written
  rw [Json.rereadItems_of_lossless entries lossless] at parsed
  exact rejection_of_lists status content _ reports parsed
    (Json.lists_errorsBody entries reports tell)

theorem rejection_of_other (status : Int) (entries : List Json)
    (distinct : ∀ entry ∈ entries, entry.DistinctKeys)
    (other : ∃ entry ∈ entries, ¬entry.ErrorEntry)
    (shallow : (Json.errorsBody entries).depth ≤ Platform.nesting) (store : Store) (content : Text)
    (written : (serialize (.literal (.ofJson (.errorsBody entries)))).outcome store =
      .ok content) :
    rejection status content = databaseFault content status := by
  have read := parse_errorsBody entries shallow store content written
  refine rejection_otherwise status content ?_ ?_
  · rintro ⟨json, parsed, body⟩
    rw [read] at parsed
    cases parsed
    obtain ⟨found, same, accepted⟩ := body
    cases same
    obtain ⟨entry, member, none⟩ := other
    exact none (Json.errorEntries_of_reread entries distinct accepted entry member)
  · intro deep
    rw [TooDeep, read] at deep
    nomatch deep

theorem Dispatch.result_of_rejection (dispatch : Dispatch) (decoder : Decoder) (status : Int)
    (rejected : status = 400 ∨ status = 404) (content : Text) (reply : Reply)
    (brings : reply.Brings status content) (cause : Failure Value)
    (failed : rejection status content = .failure cause) :
    (dispatch.report decoder reply).result = .error (.failure cause) := by
  obtain ⟨octets, encoded, result⟩ := dispatch.result_of_brings decoder reply brings
  have read := (Utf8.decode?_eq_some_iff octets content).mpr encoded
  rw [result, ← decodeRecorded_fst,
    decodeRecorded_of_rejection status octets decoder content rejected read, failed]
  exact congrArg Except.error (Fault.Passes.reported ⟨rfl, rfl⟩ _)

end

def Json.complaints : List Json := [
  .object [("position", .array [.text "create", .int 0]), ("code", .text "invalid argument"),
    ("description", .text "Class Ref expected.")],
  .object [("code", .text "unbound variable"), ("description", .text "Variable 'x' is unbound.")]]

/-- An entry that looks like an error, but has no list for its position. -/
def Json.misplaced : Json :=
  .object [("code", .text "invalid argument"), ("description", .text "Number expected."),
    ("position", .null)]

end QueryWire
