import QueryWire.Platform
import QueryWire.Url.Address
import QueryWire.Url.Quoting

/-!
URLs read from texts. A text falls apart at fixed marks, so almost every text is some url; refused
are control characters, hosts that look like addresses and are none, and ports that are no integer.
-/

namespace QueryWire.Url

inductive ParseFault where
  | tooLong
  | control (point : CodePoint) (position : Nat)
  | ipv4 (host : Text)
  | ipv6 (host : Text)
  | foreignHost (host : Text)
  | port (text : Text)
  | relativePath (start : Text)
  /-- A surrogate where quoting is needed. -/
  | unencodable

def ParseFault.message : ParseFault → Text
  | .tooLong => "URL too long"
  | .control point position =>
    "Invalid non-printable ASCII character in URL, " ++ Quoted.text [point] ++ " at position " ++
      Numeral.ofNat position ++ "."
  | .ipv4 host => "Invalid IPv4 address: " ++ Quoted.text host
  | .ipv6 host => "Invalid IPv6 address: " ++ Quoted.text host
  | .foreignHost host => "Invalid IDNA hostname: " ++ Quoted.text host
  | .port text => "Invalid port: " ++ Quoted.text text
  | .relativePath start => "Relative URLs cannot have a path starting with " ++ Quoted.text start
  | .unencodable => []

def lengthLimit : Nat := 65536

def isControl (point : CodePoint) : Bool := point.isAscii && !point.within 0x20 0x7E

def isSchemePart (point : CodePoint) : Bool :=
  point.isLetter || point.isDigit || point.is '+' || point.is '.' || point.is '-'

def splitScheme (text : Text) : Text × Text :=
  let scheme := if text.head?.any (·.isLetter) then text.takeWhile isSchemePart else []
  match text.drop scheme.length with
  | point :: rest => if point.is ':' then (scheme, rest) else ([], text)
  | [] => ([], text)

def splitBefore (marks : String) (text : Text) : Text × Text :=
  (text.takeWhile (!oneOf marks ·), text.dropWhile (!oneOf marks ·))

def splitAuthority (text : Text) : Text × Text :=
  match text with
  | a :: b :: rest => if a.is '/' && b.is '/' then splitBefore "/?#" rest else ([], text)
  | _ => ([], text)

def splitBehind (mark : Char) (stops : String) (text : Text) : Option Text × Text :=
  match text with
  | point :: rest =>
    if point.is mark then
      let (part, rest) := splitBefore stops rest
      (some part, rest)
    else (none, text)
  | [] => (none, [])

/-- Host and port: a host in brackets reaches to the last bracket, another one to the first colon.
-/
def splitHost (text : Text) : Text × Text :=
  let (host, rest) : Text × Text :=
    match text.head?.any (·.is '['), Text.cutLast? ']' text with
    | true, some (before, after) => (before ++ [.ofChar ']'], after)
    | _, _ => (text.takeWhile (!·.is ':'), text.dropWhile (!·.is ':'))
  match rest with
  | point :: port => (host, if point.is ':' then port else rest)
  | [] => (host, [])

def isBracketed (host : Text) : Bool :=
  host.length ≥ 2 && host.head?.any (·.is '[') && host.getLast?.any (·.is ']')

/-- Addresses are checked and kept; a name in ASCII is put in lower case and quoted, and any other
one gets its ASCII form. -/
def normalHost [Platform] (host : Text) : Except ParseFault Text :=
  if host.isEmpty then .ok []
  else if looksLikeIpv4 host then if isIpv4 host then .ok host else .error (.ipv4 host)
  else if isBracketed host then
    let address := (host.drop 1).dropLast
    if isIpv6 address then .ok address else .error (.ipv6 host)
  else if host.all (·.isAscii) then
    match quote? safeInHost (host.map (·.toLowerAscii)) with
    | some quoted => .ok quoted
    | none => .error .unencodable
  else match Platform.encodeHost host with
    | some encoded => .ok encoded
    | none => .error (.foreignHost host)

def defaultPort? (scheme : Text) : Option Int :=
  if scheme = "http" ∨ scheme = "ws" then some 80
  else if scheme = "https" ∨ scheme = "wss" then some 443
  else if scheme = "ftp" then some 21
  else none

/-- The port as a number, left out where the scheme, in the case it is written in, implies it. -/
def normalPort (port scheme : Text) : Except ParseFault (Option Int) :=
  if port.isEmpty then .ok none
  else match Numeral.readInt? port with
    | none => .error (.port port)
    | some number => .ok (if defaultPort? scheme = some number then none else some number)

def pushSegment (kept : List Text) (segment : Text) : List Text :=
  if segment = "." then kept
  else if segment = ".." then if kept = [[]] then kept else kept.dropLast
  else kept ++ [segment]

def normalPath (path : Text) : Text :=
  Text.joinWith "/" ((Text.pieces '/' path).foldl pushSegment [])

/-- A path on its own must not read as an authority or a scheme. -/
def checkRelative (path : Text) : Except ParseFault Unit :=
  if (Text.ofString "//").isPrefixOf path then .error (.relativePath "//")
  else if (Text.ofString ":").isPrefixOf path then .error (.relativePath ":")
  else .ok ()

def quotePart (safe : CodePoint → Bool) (part : Text) : Except ParseFault Text :=
  match quote? safe part with
  | some quoted => .ok quoted
  | none => .error .unencodable

def quoteOptional (safe : CodePoint → Bool) : Option Text → Except ParseFault (Option Text)
  | none => .ok none
  | some part => some <$> quotePart safe part

structure Parts where
  scheme : Text
  userinfo : Text
  host : Text
  port : Text
  path : Text
  query : Option Text
  fragment : Option Text

namespace Parts

def ofText (text : Text) : Parts :=
  let (scheme, rest) := splitScheme text
  let (authority, rest) := splitAuthority rest
  let (path, rest) := splitBefore "?#" rest
  let (query, rest) := splitBehind '?' "#" rest
  let (fragment, _) := splitBehind '#' "" rest
  let (userinfo, location) := (Text.cutLast? '@' authority).getD ([], authority)
  let (host, port) := splitHost location
  ⟨scheme, userinfo, host, port, path, query, fragment⟩

def isAbsolute (parts : Parts) (host : Text) (port : Option Int) : Bool :=
  !parts.scheme.isEmpty || !parts.userinfo.isEmpty || !host.isEmpty || port.isSome

def location (parts : Parts) (host : Text) (port : Option Int) : Text :=
  if parts.isAbsolute host port then normalPath parts.path else parts.path

def completed (parts : Parts) (userinfo host : Text) (port : Option Int) :
    Except ParseFault Url := do
  let path ← quotePart safeInPath (parts.location host port)
  let query ← quoteOptional safeInQuery parts.query
  let fragment ← quoteOptional safeInFragment parts.fragment
  return ⟨parts.scheme.map (·.toLowerAscii), userinfo, host, port, path, query, fragment⟩

def url [Platform] (parts : Parts) : Except ParseFault Url := do
  let userinfo ← quotePart safeInUserinfo parts.userinfo
  let host ← normalHost parts.host
  let port ← normalPort parts.port parts.scheme
  if !parts.isAbsolute host port then checkRelative parts.path
  parts.completed userinfo host port

end Parts

def parse [Platform] (text : Text) : Except ParseFault Url :=
  if text.length > lengthLimit then .error .tooLong
  else match text.find? isControl with
    | some point => .error (.control point (text.takeWhile (!isControl ·)).length)
    | none => (Parts.ofText text).url

end QueryWire.Url
