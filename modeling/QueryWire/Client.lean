import QueryWire.Client.Exchange

/-!
Clients. A client sends queries to its endpoint until it is closed, and keeps the cookies that the
responses set. A blocking client refuses queries after the closing at once, any other one only when
the request is due to be sent.
-/

namespace QueryWire

variable [Platform]

structure Client where
  endpoint : Endpoint
  blocking : Bool
  isOpen : Bool := true
  cookies : List Text := []

structure Report where
  result : Except Fault Value
  trace : Trace := {}

def Report.isInterrupted (report : Report) : Bool :=
  match report.result with
  | .ok _ => false
  | .error fault => fault.isInterrupt

namespace Client

def closedFault : Fault := .ambient .runtimeError []

def exchange (client : Client) (payload : Text) (decoder : Decoder) (reply : Reply) :
    Exchange Value := do
  Exchange.note (.querying payload)
  let request ← client.endpoint.request client.cookies payload
  if !client.isOpen then throw closedFault
  Exchange.reporting (deadlineFault client.endpoint.timeout) (.perform request decoder reply)

def query (client : Client) (value : Value) (decoder : Decoder) (reply : Reply) :
    StateM Store Report := do
  if client.blocking && !client.isOpen then return { result := .error closedFault }
  match ← (serialize value).run with
  | .error fault => return { result := .error fault }
  | .ok payload =>
    let (result, trace) := (client.exchange payload decoder reply).run.run {}
    return { result, trace }

def receive (client : Client) (report : Report) : Client :=
  { client with cookies := client.cookies ++ report.trace.cookies }

def close (client : Client) : Client := { client with isOpen := false }

end Client

end QueryWire
