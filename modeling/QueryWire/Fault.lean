import QueryWire.Number.Numeral
import QueryWire.Value

/-!
Everything that can go wrong. A failure is the library's own; a refusal is an argument that the
library turns down, with a reason; an ambient fault comes from what the library stands on, and its
kind alone is part of the answer.
-/

namespace QueryWire

/-- Kinds of refusals and ambient faults. From `httpError` on they are those of an exchange. -/
inductive FaultKind where
  | valueError
  | typeError
  | notImplementedError
  | attributeError
  | keyError
  | overflowError
  | recursionError
  | runtimeError
  | stopIteration
  | systemExit
  | keyboardInterrupt
  | cancelledError
  | osError
  | deadline
  | jsonDecodeError
  | unicodeDecodeError
  | unicodeEncodeError
  | idnaError
  | httpError
  | httpStatusError
  | requestError
  | transportError
  | decodingError
  | tooManyRedirects
  | timeoutException
  | connectTimeout
  | readTimeout
  | writeTimeout
  | poolTimeout
  | networkError
  | connectError
  | readError
  | writeError
  | closeError
  | protocolError
  | localProtocolError
  | remoteProtocolError
  | proxyError
  | unsupportedProtocol
  | invalidUrl
  | cookieConflict
  | streamError
  | streamConsumed
  | streamClosed
  | responseNotRead
  | requestNotRead
deriving DecidableEq

namespace FaultKind

def parent? : FaultKind → Option FaultKind
  | .notImplementedError | .recursionError | .streamError => some .runtimeError
  | .deadline => some .osError
  | .jsonDecodeError | .unicodeDecodeError | .unicodeEncodeError | .idnaError => some .valueError
  | .httpStatusError | .requestError => some .httpError
  | .transportError | .decodingError | .tooManyRedirects => some .requestError
  | .timeoutException | .networkError | .protocolError | .proxyError | .unsupportedProtocol =>
    some .transportError
  | .connectTimeout | .readTimeout | .writeTimeout | .poolTimeout => some .timeoutException
  | .connectError | .readError | .writeError | .closeError => some .networkError
  | .localProtocolError | .remoteProtocolError => some .protocolError
  | .streamConsumed | .streamClosed | .responseNotRead | .requestNotRead => some .streamError
  | _ => none

/-- Kinds from special to general. No kind has more than four above it. -/
def lineage (kind : FaultKind) : List FaultKind :=
  let rec above : Nat → FaultKind → List FaultKind
    | 0, kind => [kind]
    | depth + 1, kind => kind :: (kind.parent?.elim [] (above depth))
  above 4 kind

def isA (kind general : FaultKind) : Bool := kind.lineage.contains general

def name : FaultKind → String
  | .valueError => "ValueError"
  | .typeError => "TypeError"
  | .notImplementedError => "NotImplementedError"
  | .attributeError => "AttributeError"
  | .keyError => "KeyError"
  | .overflowError => "OverflowError"
  | .recursionError => "RecursionError"
  | .runtimeError => "RuntimeError"
  | .stopIteration => "StopIteration"
  | .systemExit => "SystemExit"
  | .keyboardInterrupt => "KeyboardInterrupt"
  | .cancelledError => "CancelledError"
  | .osError => "OSError"
  | .deadline => "TimeoutError"
  | .jsonDecodeError => "JSONDecodeError"
  | .unicodeDecodeError => "UnicodeDecodeError"
  | .unicodeEncodeError => "UnicodeEncodeError"
  | .idnaError => "IDNAError"
  | .httpError => "HTTPError"
  | .httpStatusError => "HTTPStatusError"
  | .requestError => "RequestError"
  | .transportError => "TransportError"
  | .decodingError => "DecodingError"
  | .tooManyRedirects => "TooManyRedirects"
  | .timeoutException => "TimeoutException"
  | .connectTimeout => "ConnectTimeout"
  | .readTimeout => "ReadTimeout"
  | .writeTimeout => "WriteTimeout"
  | .poolTimeout => "PoolTimeout"
  | .networkError => "NetworkError"
  | .connectError => "ConnectError"
  | .readError => "ReadError"
  | .writeError => "WriteError"
  | .closeError => "CloseError"
  | .protocolError => "ProtocolError"
  | .localProtocolError => "LocalProtocolError"
  | .remoteProtocolError => "RemoteProtocolError"
  | .proxyError => "ProxyError"
  | .unsupportedProtocol => "UnsupportedProtocol"
  | .invalidUrl => "InvalidURL"
  | .cookieConflict => "CookieConflict"
  | .streamError => "StreamError"
  | .streamConsumed => "StreamConsumed"
  | .streamClosed => "StreamClosed"
  | .responseNotRead => "ResponseNotRead"
  | .requestNotRead => "RequestNotRead"

end FaultKind

inductive Fault where
  | failure (cause : Failure Value)
  | refused (kind : FaultKind) (message : Text)
  | ambient (kind : FaultKind) (message : Text)

namespace Fault

def kind? : Fault → Option FaultKind
  | .failure _ => none
  | .refused kind _ | .ambient kind _ => some kind

def isA (fault : Fault) (general : FaultKind) : Bool := fault.kind?.any (·.isA general)

def isInterrupt (fault : Fault) : Bool := fault.isA .systemExit || fault.isA .keyboardInterrupt

/-- What a fault becomes on its way out of a coroutine, where the end of an iteration has no place.
-/
def leave (fault : Fault) : Fault :=
  if fault.isA .stopIteration then .ambient .runtimeError "coroutine raised StopIteration"
  else fault

def serialization (message : Text) : Fault :=
  .failure (.plain .serialization (.text message) .null)

def configuration (message : Text) : Fault :=
  .failure (.plain .configuration (.text message) .null)

def timeout (message : Text) : Fault := .failure (.plain .timeout (.text message) .null)

def connection (message : Text) : Fault := .failure (.plain .connection (.text message) .null)

def other (message : Text) : Fault := .failure (.plain .other (.text message) .null)

def noAttribute : Fault := .ambient .attributeError []

def badCall : Fault := .ambient .typeError []

def quotedType (value : Value) : Text :=
  ("'" : Text) ++ Text.ofString value.operandName ++ ("'" : Text)

def notIterable (value : Value) : Fault :=
  .ambient .typeError (quotedType value ++ " object is not iterable")

def notCallable (value : Value) : Fault :=
  .ambient .typeError (quotedType value ++ " object is not callable")

def noLength (value : Value) : Fault :=
  .ambient .typeError ("object of type " ++ quotedType value ++ " has no len()")

def unhashable (typeName : String) : Fault :=
  .ambient .typeError (("unhashable type: '" : Text) ++ Text.ofString typeName ++ ("'" : Text))

def notUnpackable (value : Value) : Fault :=
  .ambient .typeError
    ("cannot unpack non-iterable " ++ Text.ofString value.operandName ++ " object")

def tooFewToUnpack (count : Nat) : Fault :=
  .ambient .valueError
    ("not enough values to unpack (expected 2, got " ++ Numeral.ofNat count ++ ")")

def tooManyToUnpack : Fault :=
  .ambient .valueError "too many values to unpack (expected 2)"

def tooManyDigits : Fault := .ambient .valueError Numeral.limitMessage

def tooDeep : Fault := .ambient .recursionError []

end Fault

end QueryWire
