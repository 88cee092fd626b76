import QueryWire.Script.Function
import QueryWire.Script.Member

/-!
Scripts: how values are written down as the steps that make them. A script is plain data, or a
collection of scripts, or the call of a function or a method on the values of others.
-/

namespace QueryWire

inductive Wrapping where
  | list
  | tuple
  | dict

inductive Script where
  | constant (value : Value)
  /-- A binary number, as it is spelled. -/
  | float (spelling : Text)
  | powerOfTen (exponent : Nat)
  | repeated (part : Script) (count : Nat)
  | list (items : List Script)
  | tuple (items : List Script)
  | set (items : List Script)
  | cursor (items : List Script)
  | dict (entries : List (Script × Script))
  | view (entries : List (Script × Script))
  | nested (wrapping : Wrapping) (depth : Nat) (core : Script)
  | unknown
  | foreign (form : Script) (callable : Bool)
  | duration (days seconds microseconds : Int)
  | url (text : Text)
  | variable (name : Text)
  | call (function : Function) (arguments : List Script) (named : List (String × Script))
  | method (receiver : Script) (method : Method) (arguments : List Script)
  | field (receiver : Script) (field : Field)

abbrev Scope := List (Text × Value)

namespace Scope

def lookup? (scope : Scope) (name : Text) : Option Value :=
  (scope.find? fun entry => entry.1 == name).map Prod.snd

end Scope

end QueryWire
