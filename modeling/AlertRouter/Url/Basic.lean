import AlertRouter.Doc.Codec

/-! # Absolute URLs

A URL in parts, as the URL standard keeps them: everything is normalised and percent-encoded
already.  `Url.text` writes the parts one after the other. -/

namespace AlertRouter

namespace Url

/-- A path: segments after slashes, or the opaque rest of a URL such as `mailto:`. -/
inductive Path where
  | segments (parts : List String)
  | raw (text : String)
deriving DecidableEq, Repr, Inhabited

namespace Path

def text : Path → String
  | segments parts => String.join (parts.map ("/" ++ ·))
  | raw text => text

def endsInSlash (p : Path) : Bool := p.text.toList.getLast? == some '/'

/-- The path with one more slash.  In front of an opaque path a slash would begin a path of
segments, so there it is written by its code. -/
def withSlash : Path → Path
  | segments parts => segments (parts ++ [""])
  | raw text => raw (if text = "" then "%2F" else text ++ "/")

end Path

/-- Why a text is no absolute URL. -/
inductive Fault where
  | relativeWithoutBase
  | emptyHost
  | invalidPort
  | invalidIpv4
  | invalidIpv6
  | invalidHostCharacter
  | invalidDomain
deriving DecidableEq, Repr

def Fault.message : Fault → String
  | relativeWithoutBase => "relative URL without a base"
  | emptyHost => "empty host"
  | invalidPort => "invalid port number"
  | invalidIpv4 => "invalid IPv4 address"
  | invalidIpv6 => "invalid IPv6 address"
  | invalidHostCharacter => "invalid domain character"
  | invalidDomain => "invalid international domain name"

end Url

/-- An absolute URL. -/
structure Url where
  scheme : String
  username : String
  password : String
  host : Option String
  port : Option Nat
  path : Url.Path
  query : Option String
  fragment : Option String
deriving DecidableEq, Repr, Inhabited

namespace Url

/-- Schemes with a fixed syntax after the colon, each with its default port. -/
def specialPorts : List (String × Option Nat) := [
  ("http", some 80), ("https", some 443), ("ws", some 80), ("wss", some 443), ("ftp", some 21),
  ("file", none)]

def isSpecial (scheme : String) : Bool := (specialPorts.lookup scheme).isSome

def defaultPort? (scheme : String) : Option Nat := (specialPorts.lookup scheme).join

/-- The user name and password with the sign that ends them. -/
def userText (u : Url) : String :=
  if u.username = "" ∧ u.password = "" then ""
  else u.username ++ (if u.password = "" then "" else ":" ++ u.password) ++ "@"

/-- What stands between the scheme and the path. -/
def authorityText (u : Url) : String :=
  match u.host with
  | some host =>
    "//" ++ u.userText ++ host ++ (match u.port with | some p => ":" ++ toString p | none => "")
  | none => match u.path with
    | .segments ("" :: _ :: _) => "/."
    | _ => ""

/-- The text of a URL. -/
def text (u : Url) : String :=
  u.scheme ++ ":" ++ u.authorityText ++ u.path.text ++
    (match u.query with | some q => "?" ++ q | none => "") ++
    (match u.fragment with | some f => "#" ++ f | none => "")

/-- The same URL with a path that ends in a slash. -/
def withTrailingSlash (u : Url) : Url :=
  if u.path.endsInSlash then u else { u with path := u.path.withSlash }

end Url

end AlertRouter
