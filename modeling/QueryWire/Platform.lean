import QueryWire.Url

/-!
What the library stands on and does not decide: how deep JSON may be nested where it is read, what
host names beyond ASCII stand for, and which cookies a request brings back. Everything above is said
of any platform. The writing of JSON takes as much room as its reading, but has no bound here: what
is written and read again is said to be shallow enough where it matters.
-/

namespace QueryWire

class Platform where
  /-- How many arrays and objects may be open at a time while JSON is read. -/
  nesting : Nat
  /-- The ASCII form of a host name with other letters, unless it is not a name. -/
  encodeHost : Text → Option Text
  /-- The name that an ASCII form stands for, unless it stands for none. -/
  decodeHost : Text → Option Text
  /-- What a request to a url presents after replies that have set some cookies. -/
  cookie? : Url → List Text → Option Text
  cookie_nil : ∀ url, cookie? url [] = none

/-- Whether a label is spelled like the ASCII form of another one, or is none. -/
def Url.isSpelled (label : Text) : Bool :=
  !(Text.ofString "xn--").isPrefixOf label ||
    (label.drop 4).getLast?.any fun last => !last.is '-'

/-- A platform that has no ASCII form for other letters, takes ASCII forms for names by their
spelling, and keeps no cookies. -/
instance (priority := low) Platform.plain : Platform where
  nesting := 990
  encodeHost _ := none
  decodeHost host := if (Text.pieces '.' host).all Url.isSpelled then some host else none
  cookie? _ _ := none
  cookie_nil _ := rfl

end QueryWire
