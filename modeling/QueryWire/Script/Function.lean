import QueryWire.Builder
import QueryWire.Expr.Construct
import QueryWire.Json.Encoding
import QueryWire.Response.Decode
import QueryWire.Script.Signature

/-!
The functions that scripts can call: the makers of all kinds of values, the readers of response
data, and a few questions about values.
-/

namespace QueryWire

variable [Platform]

inductive Function where
  -- Nodes.
  | bare
  | literal
  | array
  | object
  | ref
  | query
  | level
  | convert
  | convertMapping
  | objectOfPairs
  | classRef
  | databaseRef
  | indexRef
  | functionRef
  | instanceRef
  | readRef
  | publicLevel
  | refLevel
  -- Builders and what is put into them.
  | indexPermission
  | term
  | termOfField
  | termOfBinding
  | indexValue
  | indexValueOfField
  | indexValueOfBinding
  | indexParams
  | classParams
  -- Constructs.
  | createIndex
  | createClass
  | createDatabase
  | get
  | delete
  -- Responses and their errors.
  | response
  | readResponse
  | parseResponse
  | errors
  | readErrors
  | errorDetail
  | readErrorDetail
  -- Failures.
  | plainFailure (kind : Failure.Kind)
  | unauthorized
  | emptyResponse
  | badRequest
  | notFound
  | databaseFailure
  -- Questions.
  | serialize
  | equal
  | display
  | plain
  | length
deriving DecidableEq

namespace Function

open Signature (required optional)

/-- The parameters of a function. Questions about values take theirs by position only. -/
def signature : Function → Signature
  | .bare | .publicLevel | .indexPermission => []
  | .literal | .level | .convert | .serialize => [required "value"]
  | .array => [optional "items" (.tuple [])]
  | .object => [optional "fields" (.tuple [])]
  | .ref => [required "id", optional "class_ref" .null]
  | .query => [required "verb", required "argument"]
  | .convertMapping => [required "mapping"]
  | .objectOfPairs => [required "pairs"]
  | .classRef | .databaseRef | .indexRef | .functionRef => [required "name"]
  | .instanceRef => [required "id", required "class_name"]
  | .readRef | .readErrorDetail => [required "data"]
  | .refLevel | .get | .delete => [required "ref"]
  | .term | .indexValue => [required "source"]
  | .termOfField | .indexValueOfField => [required "path"]
  | .termOfBinding | .indexValueOfBinding | .classParams => [required "name"]
  | .indexParams => [required "name", required "source"]
  | .createIndex | .createClass => [required "params"]
  | .createDatabase => [required "name", optional "api_version" .null, optional "data" .null]
  | .response => [optional "resource" .null]
  | .readResponse | .readErrors => [required "response"]
  | .parseResponse => [required "text"]
  | .errors => [optional "errors" (.list [])]
  | .errorDetail =>
    [required "code", required "description", optional "position" (.list [])]
  | .plainFailure _ => [required "message", optional "code" .null]
  | .unauthorized => [optional "message" (.text "Unauthorized")]
  | .emptyResponse => [optional "message" (.text "Empty response")]
  | .badRequest | .notFound => [required "errors"]
  | .databaseFailure => [required "body", optional "status" .null]
  | .equal => [required "", required ""]
  | .display | .length => [required ""]
  | .plain => [optional "object" (.text [])]

def newFailure (cause : Failure Value) : Run Value := do return .failure (← Run.identity) cause

def parseResponseOf : Value → Except Fault Value
  | .text content => QueryWire.parseResponse content
  | .bytes octets =>
    match Json.decodeOctets? octets with
    | some content => QueryWire.parseResponse content
    | none => .error (.ambient .unicodeDecodeError [])
  | _ => .error (.ambient .typeError [])

def apply : Function → List Value → Run Value
  | .bare, [] => do return .bare (← Run.identity)
  | .literal, [value] => Run.enclose (.literal value)
  | .array, [items] => Run.enclose (.array items)
  | .object, [fields] => Run.enclose (.object fields)
  | .ref, [id, parent] => Run.enclose (.ref id parent)
  | .query, [verb, argument] => Run.enclose (.query .query verb argument)
  | .level, [value] => Run.enclose (.level value)
  | .convert, [value] => do (← Run.conversion).expr value
  | .convertMapping, [mapping] => do (← Run.conversion).mapping mapping
  | .objectOfPairs, [pairs] => pairs.objectOfPairs
  | .classRef, [name] => Run.enclose name.classRef
  | .databaseRef, [name] => Run.enclose name.databaseRef
  | .indexRef, [name] => Run.enclose name.indexRef
  | .functionRef, [name] => Run.enclose name.functionRef
  | .instanceRef, [id, className] => do Run.enclose (.ref id (← Run.enclose className.classRef))
  | .readRef, [data] => data.readRef
  | .publicLevel, [] => return .level (.literal (.text "public"))
  | .refLevel, [reference] => Run.enclose (.level reference)
  | .indexPermission, [] => Run.newIndexPermission
  | .term, [source] => Run.newTerm source
  | .termOfField, [path] => do Run.newTerm (← fieldSource path)
  | .termOfBinding, [name] => do Run.newTerm (← bindingSource name)
  | .indexValue, [source] => Run.newIndexValue source
  | .indexValueOfField, [path] => do Run.newIndexValue (← fieldSource path)
  | .indexValueOfBinding, [name] => do Run.newIndexValue (← bindingSource name)
  | .indexParams, [name, source] => Run.newIndexParams name source
  | .classParams, [name] => Run.newClassParams name
  | .createIndex, [params] => do Construct.newIndex (← Run.conversion) params
  | .createClass, [params] => do Construct.newClass (← Run.conversion) params
  | .createDatabase, [name, apiVersion, data] => do
    Construct.newDatabase (← Run.conversion) name apiVersion data
  | .get, [reference] => do Construct.newGet (← Run.conversion) reference
  | .delete, [reference] => do Construct.newDelete (← Run.conversion) reference
  | .response, [resource] => Run.enclose (.response resource)
  | .readResponse, [body] => do Run.enclose (← body.readResponse)
  | .parseResponse, [content] => parseResponseOf content
  | .errors, [details] => Run.enclose (.errors details)
  | .readErrors, [body] => body.readErrors
  | .errorDetail, [code, description, position] =>
    Run.enclose (.errorDetail code description position)
  | .readErrorDetail, [entry] => entry.readErrorDetail
  | .plainFailure kind, [message, code] => newFailure (.plain kind message code)
  | .unauthorized, [message] => newFailure (.unauthorized message)
  | .emptyResponse, [message] => newFailure (.emptyResponse message)
  | .badRequest, [reported] => do newFailure (← Failure.ofRejection reported)
  | .notFound, [reported] => do newFailure (← Failure.ofAbsence reported)
  | .databaseFailure, [body, status] => do newFailure (← Failure.ofResponse body status)
  | .serialize, [value] => do return .text (← QueryWire.serialize value)
  | .equal, [a, b] => do return .bool (← a.eq b)
  | .display, [value] => do return .text (← value.display)
  | .plain, [value] => do return .text (← value.plain)
  | .length, [value] => do return .int (← value.length)
  | _, _ => throw .badCall

def call (function : Function) (positional : List Value) (named : List (String × Value)) :
    Run Value := do
  function.apply (← function.signature.arguments positional named)

end Function

end QueryWire
