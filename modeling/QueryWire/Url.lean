import QueryWire.Number.Numeral
import QueryWire.Text.Quoted

/-!
URLs in their parts, and the texts they are written as. Every part is kept as it is written: quoted,
with a lower-case scheme and host, and with no port where the scheme implies it.
-/

namespace QueryWire

structure Url where
  scheme : Text
  userinfo : Text
  host : Text
  port : Option Int
  path : Text
  query : Option Text
  fragment : Option Text
deriving DecidableEq

namespace Url

/-- A host with a colon is an IPv6 address and stands in brackets. -/
def writtenHost (url : Url) : Text :=
  if url.host.hasChar ':' then [.ofChar '['] ++ url.host ++ [.ofChar ']'] else url.host

def textWith (url : Url) (userinfo : Text) : Text :=
  let authority :=
    (if userinfo.isEmpty then [] else userinfo ++ [.ofChar '@']) ++ url.writtenHost ++
      url.port.elim [] fun port => .ofChar ':' :: Numeral.ofInt port
  (if url.scheme.isEmpty then [] else url.scheme ++ [.ofChar ':']) ++
    (if authority.isEmpty then [] else ("//" : Text) ++ authority) ++ url.path ++
    url.query.elim [] (.ofChar '?' :: ·) ++ url.fragment.elim [] (.ofChar '#' :: ·)

def toText (url : Url) : Text := url.textWith url.userinfo

def credentials (url : Url) : Text × Text := (Text.cut? ':' url.userinfo).getD (url.userinfo, [])

/-- The form for messages, which hides a password. -/
def display (url : Url) : Text :=
  let userinfo :=
    match Text.cut? ':' url.userinfo with
    | some (user, _) => user ++ ":[secure]"
    | none => url.userinfo
  "URL(" ++ Quoted.text (url.textWith userinfo) ++ ")"

end Url

end QueryWire
