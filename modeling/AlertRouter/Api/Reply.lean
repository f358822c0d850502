import AlertRouter.Error
import AlertRouter.Http.Message
import AlertRouter.Json.Printer

/-! # Replies

What an operation answers, and the responses that say so: data and errors come as JSON in an
envelope. -/

namespace AlertRouter.Api

/-- The answer to a request. -/
inductive Reply where
  | data (content : Doc)
  | done
  | failed (error : AlertError)
  | counters (text : String)
  | repeatedParameter (name : String)
  | illegibleId
  | bodyTooLong

namespace Reply

/-- The envelope of an answer. -/
def envelope (status : String) (fields : List (String × Doc)) : String :=
  Json.render (.record (("status", .text status) :: fields))

def json (status : Nat) (body : String) : Http.Response :=
  ⟨status, some "application/json", none, body⟩

/-- The envelope of an error. -/
def errorBody (e : AlertError) : String :=
  envelope "error" [("errorType", .text e.kind.name), ("error", .text e.message)]

/-- The response with this answer; `mediaType` is that of the counters. -/
def response (mediaType : String) : Reply → Http.Response
  | data content => json 200 (envelope "success" [("data", content)])
  | done => json 200 (envelope "success" [])
  | failed e => json e.kind.status (errorBody e)
  | counters text => ⟨200, some mediaType, none, text⟩
  | repeatedParameter name =>
    .text 400 ("Failed to deserialize query string: duplicate field " ++ DecodeError.ticked name)
  | illegibleId => .text 400 ("Invalid URL: Invalid UTF-8 in " ++ DecodeError.ticked "sid")
  | bodyTooLong => .text 413 "Failed to buffer the request body: length limit exceeded"

/-- Does the answer say that the request was carried out? -/
def isOk : Reply → Bool
  | data _ | done | counters _ => true
  | _ => false

/-- The reply with the outcome of an operation. -/
def ofResult : Except AlertError Doc → Reply
  | .ok d => data d
  | .error e => failed e

/-- The reply with the outcome of an operation that has nothing to tell. -/
def ofOutcome {α : Type} : Except AlertError α → Reply
  | .ok _ => done
  | .error e => failed e

end Reply

end AlertRouter.Api
