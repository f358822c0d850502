/-! # Requests and responses

What the API sees of an HTTP request, and what it says in a response.  Every response carries the
same headers for browsers and caches (`Response.fixedHeaders`). -/

namespace AlertRouter.Http

inductive Method where
  | get
  | head
  | post
  | put
  | delete
  | options
  | other (name : String)
deriving DecidableEq, Repr

namespace Method

def name : Method → String
  | get => "GET"
  | head => "HEAD"
  | post => "POST"
  | put => "PUT"
  | delete => "DELETE"
  | options => "OPTIONS"
  | other name => name

def ofName (name : String) : Method :=
  ([get, head, post, put, delete, options].find? (·.name == name)).getD (other name)

end Method

/-- A request: `path` and `query` are parts of its target as they were sent. -/
structure Request where
  method : Method
  path : String
  query : String
  body : String
deriving DecidableEq, Repr

/-- The request for a target: the path ends at a question mark, all ends at a number sign. -/
def Request.ofTarget (method : Method) (target body : String) : Request :=
  let cs := target.toList.takeWhile (· != '#')
  { method
    path := String.ofList (cs.takeWhile (· != '?'))
    query := String.ofList ((cs.dropWhile (· != '?')).drop 1)
    body }

/-- A response: `allow` are the methods that the resource knows, where they are told. -/
structure Response where
  status : Nat
  contentType : Option String
  allow : Option (List Method)
  body : String
deriving DecidableEq, Repr

namespace Response

/-- A response that consists of its status. -/
def bare (status : Nat) : Response := ⟨status, none, none, ""⟩

/-- Unformatted text. -/
def text (status : Nat) (body : String) : Response :=
  ⟨status, some "text/plain; charset=utf-8", none, body⟩

/-- The response to a request that only asks for the headers. -/
def withoutBody (r : Response) : Response := { r with body := "" }

/-- Headers that all responses have. -/
def fixedHeaders : List (String × String) :=
  [("access-control-allow-headers", "Accept, Authorization, Content-Type, Origin"),
    ("access-control-allow-methods", "GET, POST, DELETE, OPTIONS"),
    ("access-control-allow-origin", "*"),
    ("access-control-expose-headers", "Date"),
    ("cache-control", "no-cache, no-store, must-revalidate")]

def headers (r : Response) : List (String × String) :=
  fixedHeaders ++
    (r.allow.toList.map fun ms => ("allow", String.intercalate "," (ms.map Method.name))) ++
    r.contentType.toList.map fun t => ("content-type", t)

end Response

end AlertRouter.Http
