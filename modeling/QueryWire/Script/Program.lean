import QueryWire.Picture
import QueryWire.Script.Evaluation

/-!
Programs: scripts that run one after another over one store. A step can bind its value to a name,
and a step that fails does not keep the later ones from running.
-/

namespace QueryWire

variable [Platform]

structure Instruction where
  script : Script
  binding? : Option Text := none

structure Progress where
  store : Store := .empty
  scope : Scope := []

namespace Script

def outcome (script : Script) : Outcome :=
  ((Outcome.ofPicture do (← script.eval []).picture).run .empty).1

def decodeOutcome (body : Script) (status : Int) (decoder : Decoder) : Outcome :=
  let decode (octets : Octets) : Except Fault Value := decodeResponse status octets decoder
  let decoded : Run Value := do
    match ← body.eval [] with
    | .bytes octets => decode octets
    | .text content =>
      match Utf8.encode content with
      | .ok octets => decode octets
      | .error _ => throw (.ambient .unicodeEncodeError [])
    | _ => if status = 401 then decode [] else throw .noAttribute
  ((Outcome.ofPicture do (← decoded).picture).run .empty).1

end Script

namespace Progress

/-- Runs one step. The value is bound before its picture is taken. -/
def step (progress : Progress) (instruction : Instruction) : Outcome × Progress :=
  let (result, store) := (instruction.script.eval progress.scope).run.run progress.store
  let scope :=
    match result, instruction.binding? with
    | .ok value, some name => (name, value) :: progress.scope
    | _, _ => progress.scope
  let (outcome, store) := (Outcome.ofResult result).run store
  (outcome, { store, scope })

def run : Progress → List Instruction → List Outcome
  | _, [] => []
  | progress, instruction :: rest =>
    let (outcome, next) := progress.step instruction
    outcome :: next.run rest

end Progress

def runProgram (instructions : List Instruction) : List Outcome :=
  Progress.run {} instructions

end QueryWire
