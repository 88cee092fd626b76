import QueryWire.Fault

/-!
Signatures of functions, and how the arguments of a call meet them: by position first, then by name,
then by default. A call that leaves a parameter open or says too much is refused.
-/

namespace QueryWire

structure Parameter where
  name : String
  default? : Option Value := none

abbrev Signature := List Parameter

namespace Signature

def required (name : String) : Parameter := { name }

def optional (name : String) (value : Value) : Parameter := { name, default? := some value }

def fill (named : List (String × Value)) (parameter : Parameter) : Except Fault Value :=
  match named.find? fun entry => entry.1 == parameter.name with
  | some (_, value) => .ok value
  | none =>
    match parameter.default? with
    | some value => .ok value
    | none => .error .badCall

def arguments (signature : Signature) (positional : List Value) (named : List (String × Value)) :
    Except Fault (List Value) := do
  let unfilled := signature.drop positional.length
  if positional.length > signature.length then throw .badCall
  if !named.all fun entry => unfilled.any fun parameter => parameter.name == entry.1 then
    throw .badCall
  return positional ++ (← unfilled.mapM (fill named))

end Signature

end QueryWire
