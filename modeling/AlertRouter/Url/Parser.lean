import AlertRouter.Url.Domain

/-! # Reading absolute URLs

The parser of the URL standard for a text without a base.  Control characters and spaces at both
ends are dropped, tabs and line ends everywhere.  A special scheme fixes the syntax after the colon:
any number of slashes of either kind, a host, a path.  Other schemes have an authority only after
`//`, and an opaque path without a slash. -/

namespace AlertRouter.Url

/-- The text between the control characters and spaces at both ends, without tabs and line ends. -/
def cleaned (cs : List Char) : List Char :=
  let isEdge := fun (c : Char) => decide (c.toNat ≤ 0x20)
  let cs := ((cs.dropWhile isEdge).reverse.dropWhile isEdge).reverse
  cs.filter fun c => c != '\t' && c != '\n' && c != '\r'

/-- The scheme in lower case and what follows the colon. -/
def splitScheme? (cs : List Char) : Option (String × List Char) :=
  let name := cs.takeWhile fun c => c.isAlphanum || c == '+' || c == '-' || c == '.'
  match name.head?, cs.drop name.length with
  | some c, ':' :: rest =>
    if c.isAlpha then some (String.ofList (name.map Char.toLower), rest) else none
  | _, _ => none

/-! ### Path, query and fragment -/

def isSingleDot (segment : List Char) : Bool :=
  ["." , "%2e"].contains (String.ofList (segment.map Char.toLower))

def isDoubleDot (segment : List Char) : Bool :=
  ["..", ".%2e", "%2e.", "%2e%2e"].contains (String.ofList (segment.map Char.toLower))

def isDriveLetter (segment : List Char) : Bool :=
  match segment with
  | [a, b] => a.isAlpha && (b == ':' || b == '|')
  | _ => false

/-- The segments without the last one; the drive letter of a file stays. -/
def shorten (isFile : Bool) (parts : List (List Char)) : List (List Char) :=
  match parts with
  | [part] => if isFile && isDriveLetter part then parts else []
  | _ => parts.dropLast

/-- Adds one more segment to a path; `isLast` says that no slash follows it. -/
def addSegment (isFile isLast : Bool) (parts : List (List Char)) (segment : List Char) :
    List (List Char) :=
  if isDoubleDot segment then
    let parts := shorten isFile parts
    if isLast then parts ++ [[]] else parts
  else if isSingleDot segment then
    if isLast then parts ++ [[]] else parts
  else if isFile && parts.isEmpty && isDriveLetter segment then
    parts ++ [segment.take 1 ++ [':']]
  else parts ++ [segment]

/-- Adds several segments to a path. -/
def addSegments (isFile : Bool) (parts : List (List Char)) : List (List Char) → List (List Char)
  | [] => parts
  | [segment] => addSegment isFile true parts segment
  | segment :: rest => addSegments isFile (addSegment isFile false parts segment) rest

/-- The segments of a path whose first slash has been read. -/
def pathOf (scheme : String) (cs : List Char) : Path :=
  let cs := if isSpecial scheme then cs.map fun c => if c == '\\' then '/' else c else cs
  let isFile := scheme == "file"
  let parts := addSegments isFile [] (Host.splitOn '/' (Percent.encode Percent.inPath cs))
  let parts := if isFile then
      let kept := parts.dropWhile List.isEmpty
      if kept.isEmpty then [[]] else kept
    else parts
  .segments (parts.map String.ofList)

/-- The path, the query and the fragment in what follows the authority, each still raw. -/
def splitTail (cs : List Char) : List Char × Option (List Char) × Option (List Char) :=
  let path := cs.takeWhile fun c => c != '?' && c != '#'
  match cs.drop path.length with
  | '?' :: rest =>
    let query := rest.takeWhile (· != '#')
    match rest.drop query.length with
    | '#' :: fragment => (path, some query, some fragment)
    | _ => (path, some query, none)
  | '#' :: fragment => (path, none, some fragment)
  | _ => (path, none, none)

/-- A URL without authority whose tail has been split. -/
def withTail (scheme : String) (path : Path) (query fragment : Option (List Char)) : Url where
  scheme := scheme
  username := ""
  password := ""
  host := none
  port := none
  path := path
  query := query.map fun q =>
    let escaped := if isSpecial scheme then Percent.inSpecialQuery else Percent.inQuery
    String.ofList (Percent.encode escaped q)
  fragment := fragment.map fun f => String.ofList (Percent.encode Percent.inFragment f)

/-! ### Authority -/

/-- Where the authority of a URL ends. -/
def isAuthorityEnd (special : Bool) (c : Char) : Bool :=
  c == '/' || c == '?' || c == '#' || (special && c == '\\')

/-- The text before the last `@`, if there is one, and the text after it. -/
def splitUserInfo (authority : List Char) : Option (List Char) × List Char :=
  let host := (authority.reverse.takeWhile (· != '@')).reverse
  if host.length = authority.length then (none, authority)
  else (some (authority.take (authority.length - host.length - 1)), host)

/-- The user name and the password. -/
def userInfo (cs : List Char) : String × String :=
  let encoded := fun cs => String.ofList (Percent.encode Percent.inUserInfo cs)
  let user := cs.takeWhile (· != ':')
  (encoded user, encoded (cs.drop (user.length + 1)))

/-- The host and what follows the colon after it; a colon in brackets is part of the host. -/
def splitPort (inBrackets : Bool) : List Char → List Char × Option (List Char)
  | [] => ([], none)
  | c :: cs =>
    if c = ':' ∧ ¬ inBrackets then ([], some cs)
    else
      let inBrackets := c = '[' ∨ (inBrackets ∧ c ≠ ']')
      let (host, port) := splitPort inBrackets cs
      (c :: host, port)

def parseHost (special : Bool) (cs : List Char) : Except Fault String :=
  match cs with
  | '[' :: rest => Host.ipv6 rest
  | _ =>
    if special then
      match Domain.toAscii? (Utf8.decodeLossy (Percent.decode cs)) with
      | none => .error .invalidDomain
      | some [] => .error .emptyHost
      | some domain =>
        if Host.endsInNumber domain then
          match Host.ipv4? domain with
          | some address => .ok address
          | none => .error .invalidIpv4
        else .ok (String.ofList domain)
    else if cs.any Host.isForbiddenOpaque then .error .invalidHostCharacter
    else .ok (String.ofList (Percent.encode Percent.isControl cs))

/-- A port number; the default port of the scheme is left out. -/
def parsePort (scheme : String) (cs : List Char) : Except Fault (Option Nat) :=
  if cs.isEmpty then .ok none
  else match Codec.unsigned? 10 cs with
    | some n =>
      if 65535 < n then .error .invalidPort
      else .ok (if defaultPort? scheme = some n then none else some n)
    | none => .error .invalidPort

/-- A URL from what follows the slashes in front of the authority. -/
def parseAuthority (scheme : String) (cs : List Char) : Except Fault Url := do
  let special := isSpecial scheme
  let authority := cs.takeWhile (! isAuthorityEnd special ·)
  let rest := cs.drop authority.length
  let (user, hostPort) := splitUserInfo authority
  let (hostText, portText) := splitPort false hostPort
  if user.isSome ∧ hostPort.isEmpty then throw .emptyHost
  if hostText.isEmpty ∧ (special ∨ portText.isSome) then throw .emptyHost
  let host ← parseHost special hostText
  let port ← parsePort scheme (portText.getD [])
  let (username, password) := userInfo (user.getD [])
  let (path, query, fragment) := splitTail rest
  let path : Path := match path with
    | [] => .segments (if special then [""] else [])
    | c :: cs => pathOf scheme (if c = '/' ∨ c = '\\' then cs else c :: cs)
  return { withTail scheme path query fragment with
    username := username, password := password, host := some host, port := port }

/-- A `file` URL from what follows the colon. -/
def parseFile (cs : List Char) : Except Fault Url := do
  let scheme := "file"
  let isSlash := fun c => c == '/' || c == '\\'
  match cs with
  | a :: b :: rest =>
    if isSlash a && isSlash b then
      let hostText := rest.takeWhile (! isAuthorityEnd true ·)
      let isDrive := isDriveLetter hostText
      let host ← if hostText.isEmpty || isDrive then pure "" else parseHost true hostText
      let (path, query, fragment) := splitTail (if isDrive then rest else rest.drop hostText.length)
      let path := match path with
        | c :: cs => if isSlash c then cs else c :: cs
        | [] => []
      let host := if host == "localhost" then "" else host
      return { withTail scheme (pathOf scheme path) query fragment with host := some host }
    else
      let (path, query, fragment) := splitTail cs
      return { withTail scheme (pathOf scheme (if isSlash a then path.drop 1 else path)) query
        fragment with host := some "" }
  | _ =>
    let (path, query, fragment) := splitTail cs
    let path := match path with
      | c :: cs => if isSlash c then cs else c :: cs
      | [] => []
    return { withTail scheme (pathOf scheme path) query fragment with host := some "" }

/-- Reads an absolute URL. -/
def parse (s : String) : Except Fault Url :=
  match splitScheme? (cleaned s.toList) with
  | none => .error .relativeWithoutBase
  | some (scheme, rest) =>
    if scheme = "file" then parseFile rest
    else if isSpecial scheme then
      parseAuthority scheme (rest.dropWhile fun c => c == '/' || c == '\\')
    else match rest with
      | '/' :: '/' :: rest => parseAuthority scheme rest
      | '/' :: rest =>
        let (path, query, fragment) := splitTail rest
        .ok (withTail scheme (pathOf scheme path) query fragment)
      | _ =>
        let (path, query, fragment) := splitTail rest
        let path := String.ofList (Percent.encode Percent.isControl path)
        .ok (withTail scheme (.raw path) query fragment)

/-- URLs in documents: texts. -/
def codec : Codec Url :=
  .parsed "a string representing an URL"
    (fun s => (parse s).mapError fun e => e.message ++ ": " ++ Text.quoted s) text

end AlertRouter.Url
