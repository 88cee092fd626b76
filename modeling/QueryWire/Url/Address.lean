import QueryWire.Number.Numeral

/-!
Internet addresses as hosts: when a text is a valid IPv4 or IPv6 address.
-/

namespace QueryWire.Url

def isDecimalOctet (text : Text) : Bool :=
  !text.isEmpty && text.all (·.isDigit) && text.length ≤ 3 &&
    (text.length == 1 || !text.head?.any (·.is '0')) && Numeral.value text ≤ 255

def isIpv4 (text : Text) : Bool :=
  let octets := Text.pieces '.' text
  octets.length == 4 && octets.all isDecimalOctet

def isHextet (text : Text) : Bool :=
  !text.isEmpty && text.length ≤ 4 && text.all (·.hexValue?.isSome)

/-- The groups of an IPv6 address, where an IPv4 address at the end stands for two. -/
def hextets? (text : Text) : Option (List Text) :=
  let groups := Text.pieces ':' text
  match groups.getLast? with
  | some last =>
    if last.hasChar '.' then
      if isIpv4 last then some (groups.dropLast ++ [Text.ofString "0", Text.ofString "0"]) else none
    else some groups
  | none => none

/-- The groups that must be hextets. An empty group strictly inside stands for a run of zeros; a
group at either end may be empty only next to it. -/
def requiredHextets? (groups : List Text) : Option (List Text) :=
  let inner := (groups.drop 1).dropLast
  match inner.zipIdx.filter fun (group, _) => group.isEmpty with
  | [] => if groups.length == 8 then some groups else none
  | [(_, skipped)] =>
    let openStart := groups.head?.any List.isEmpty
    let openEnd := groups.getLast?.any List.isEmpty
    let before := (groups.take (skipped + 1)).drop openStart.toNat
    let after := groups.drop (skipped + 2)
    let after := if openEnd then after.dropLast else after
    if (openStart && !before.isEmpty) || (openEnd && !after.isEmpty) then none
    else if before.length + after.length ≥ 8 then none
    else some (before ++ after)
  | _ => none

def isIpv6 (text : Text) : Bool :=
  let (address, zoneOk) :=
    match Text.cut? '%' text with
    | some (address, zone) => (address, !zone.isEmpty && !zone.hasChar '%')
    | none => (text, true)
  zoneOk && !text.hasChar '/' && (Text.pieces ':' address).length ≥ 3 &&
    match hextets? address with
    | some groups =>
      groups.length ≤ 9 && (requiredHextets? groups).any (·.all isHextet)
    | none => false

def looksLikeIpv4 (text : Text) : Bool :=
  let parts := Text.pieces '.' text
  parts.length == 4 && parts.all fun part => !part.isEmpty && part.all (·.isDigit)

end QueryWire.Url
