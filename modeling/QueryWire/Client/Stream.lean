import QueryWire.Client.Settings

/-!
What a transport gives back for a request. A response may set cookies. Its body is whole or a stream
of chunks; a stream ends, breaks off or stalls after its chunks, and it is open until somebody
closes it.
-/

namespace QueryWire

inductive Interruption where
  | raised (disruption : Disruption)
  /-- Nothing more happens until the deadline has passed. -/
  | stalled

def Interruption.fault : Interruption → Fault
  | .raised disruption => disruption.fault
  | .stalled => .ambient .deadline []

structure Stream where
  chunks : List Octets
  /-- What happens after the chunks; nothing if the stream ends there. -/
  interruption : Option Interruption
  isOpen : Bool := true

inductive Body where
  | whole (octets : Octets)
  | stream (stream : Stream)

inductive Reply where
  | response (status : Int) (cookies : List Text) (body : Body)
  | interrupted (interruption : Interruption)

namespace Stream

def readAll (stream : Stream) : Except Fault Octets :=
  match stream.interruption with
  | none => .ok stream.chunks.flatten
  | some interruption => .error interruption.fault

def close (stream : Stream) : Stream := { stream with isOpen := false }

end Stream

end QueryWire
