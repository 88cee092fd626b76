import QueryWire.Failure
import QueryWire.Number.Binary64
import QueryWire.Url

/-!
The values that queries are made from. Plain data, expression nodes, responses and failures may be
nested in any way, since constructors take whatever they are given; what does not fit is found out
when a query is put on the wire. Mutable builders are handles into a store.
-/

namespace QueryWire

/-- The function calls a query can be: the general one, and those with a verb of their own. -/
inductive Construct where
  | query
  | createIndex
  | createClass
  | createDatabase
  | get
  | delete
deriving DecidableEq

inductive BuilderKind where
  | indexValue
  | indexParams
  | classParams
  | indexPermission
deriving DecidableEq

inductive Value where
  | null
  | bool (value : Bool)
  | int (value : Int)
  | float (value : Binary64)
  | text (value : Text)
  | bytes (value : Octets)
  | list (items : List Value)
  | tuple (items : List Value)
  | set (items : List Value)
  /-- Entries in order of insertion, with distinct keys. -/
  | dict (entries : List (Value × Value))
  /-- A mapping that can only be read, and is no dict. -/
  | view (entries : List (Value × Value))
  | duration (microseconds : Int)
  | url (value : Url)
  /-- An expression of no particular kind; it has no wire form. -/
  | bare (identity : Nat)
  | literal (value : Value)
  | array (items : Value)
  | object (fields : Value)
  | ref (id parent : Value)
  | query (construct : Construct) (verb argument : Value)
  | level (value : Value)
  | response (resource : Value)
  | errorDetail (code description position : Value)
  | errors (details : Value)
  /-- A path to a field, a tuple of segments, as the source of a term or an index value. -/
  | fieldSource (path : Value)
  /-- The name of a binding, as such a source. -/
  | bindingSource (name : Value)
  | term (identity : Nat) (source : Value)
  /-- A handle into the store. `around` has the identities of the collections and nodes that the
  builder stands in, innermost first, and zero for one that has no identity. -/
  | builder (kind : BuilderKind) (handle : Nat) (around : List Nat)
  /-- A sequence that is read once; the store knows how far. -/
  | cursor (handle : Nat) (items : List Value)
  /-- A foreign thing with its own conversion: a function to `form` if `callable`, else `form`
  itself. -/
  | foreign (identity : Nat) (form : Value) (callable : Bool)
  /-- A foreign thing without any conversion. -/
  | unknown (identity : Nat)
  | failure (identity : Nat) (cause : Failure Value)

namespace Construct

def name : Construct → String
  | .query => "Query"
  | .createIndex => "CreateIndex"
  | .createClass => "CreateClass"
  | .createDatabase => "CreateDatabase"
  | .get => "Get"
  | .delete => "Delete"

def verb : Construct → String
  | .query => ""
  | .createIndex => "create_index"
  | .createClass => "create_class"
  | .createDatabase => "create_database"
  | .get => "get"
  | .delete => "delete"

end Construct

def BuilderKind.name : BuilderKind → String
  | .indexValue => "IndexValue"
  | .indexParams => "IndexParams"
  | .classParams => "ClassParams"
  | .indexPermission => "IndexPermission"

namespace Value

def typeName : Value → String
  | .null => "NoneType"
  | .bool _ => "bool"
  | .int _ => "int"
  | .float _ => "float"
  | .text _ => "str"
  | .bytes _ => "bytes"
  | .list _ => "list"
  | .tuple _ => "tuple"
  | .set _ => "set"
  | .dict _ => "dict"
  | .view _ => "mappingproxy"
  | .duration _ => "timedelta"
  | .url _ => "URL"
  | .bare _ => "Expr"
  | .literal _ => "Literal"
  | .array _ => "Array"
  | .object _ => "Object"
  | .ref _ _ => "Ref"
  | .query construct _ _ => construct.name
  | .level _ => "Level"
  | .response _ => "Response"
  | .errorDetail .. => "FaunaErrorDetail"
  | .errors _ => "FaunaErrors"
  | .fieldSource _ => "_Field"
  | .bindingSource _ => "_Binding"
  | .term _ _ => "Term"
  | .builder kind _ _ => kind.name
  | .cursor _ _ => "list_iterator"
  | .foreign .. => "Duck"
  | .unknown _ => "Opaque"
  | .failure _ cause => cause.name

def typeOrigin : Value → String
  | .duration _ => "datetime."
  | .url _ => "httpx."
  | .bare _ | .literal _ | .array _ | .object _ | .ref _ _ | .query .query _ _ | .level _
  | .builder .indexPermission .. => "faunaquery.expr."
  | .query .. | .fieldSource _ | .bindingSource _ | .term _ _ | .builder .. => "faunaquery.query."
  | .response _ | .errorDetail .. | .errors _ => "faunaquery.types."
  | .failure .. => "faunaquery.exceptions."
  | .foreign .. | .unknown _ => "__main__."
  | _ => ""

def operandName (value : Value) : String :=
  match value with
  | .duration _ => "datetime.timedelta"
  | _ => value.typeName

def isNode : Value → Bool
  | .bare _ | .literal _ | .array _ | .object _ | .ref _ _ | .query .. | .level _ => true
  | _ => false

/-- The text that a key is found by; a url is found by the text it is written as. -/
def keyText? : Value → Option Text
  | .text key => some key
  | .url key => some key.toText
  | _ => none

def lookup (key : Text) : List (Value × Value) → Option Value
  | [] => none
  | (found, value) :: rest => if found.keyText? = some key then some value else lookup key rest

end Value

end QueryWire
