import AlertRouter.Config.Kind
import AlertRouter.Json.Reader
import AlertRouter.Label.Fingerprint
import AlertRouter.Url.Basic

/-! # Errors

Every failure is a cause; the wording is made in one place (`AlertError.message`), and so is the
class under which the API reports it (`AlertError.kind`).  Each group of causes has a member `other`
for reasons that come from outside. -/

namespace AlertRouter

/-- What can be wrong with the settings of one integration. -/
inductive EndpointFault where
  | unsupportedScheme (scheme : String)
  | missingRecipient
  | missingKey
  | bothKeyAndFile
  | bothUrlAndFile
  | missingRoutingKey
  | missingUserKey
  | missingToken
  | oneTarget
deriving DecidableEq, Repr

def EndpointFault.message : EndpointFault → String
  | unsupportedScheme scheme => "unsupported scheme " ++ Text.quoted scheme
  | missingRecipient => "missing to address"
  | missingKey => "missing service or routing key"
  | bothKeyAndFile => "at most one of api_key and api_key_file must be configured"
  | bothUrlAndFile => "at most one of api_url and api_url_file must be configured"
  | missingRoutingKey => "missing routing key"
  | missingUserKey => "missing user key"
  | missingToken => "missing token"
  | oneTarget => "exactly one of topic_arn, phone_number and target_arn must be set"

/-- What can be wrong with input that is well-formed as such. -/
inductive BadInput where
  | labelName (name : String)
  | fingerprint (text : String) (fault : Fingerprint.Fault)
  | alertEndsFirst
  | noLabels
  | receiverPattern
  | noMatchers
  | unnamedMatcher
  | silenceEndsFirst
  | silenceEmpty
  | silencePast
  | silenceExpired (id : String)
  | unnamedReceiver
  | endpoint (kind : Kind) (fault : EndpointFault)
  | slackUrl (fault : Url.Fault)
  | flag (name value : String)
  | body (fault : Json.TextError)
  | other (reason : String)
deriving DecidableEq, Repr

def BadInput.message : BadInput → String
  | labelName name => "invalid label name " ++ Text.quoted name
  | fingerprint text fault => Fingerprint.parseMessage text fault
  | alertEndsFirst => "start time must be before end time"
  | noLabels => "at least one label pair required"
  | receiverPattern => "failed to parse receiver param: regex parse error"
  | noMatchers => "at least one matcher required"
  | unnamedMatcher => "matcher name must not be empty"
  | silenceEndsFirst => "end time must not be before start time"
  | silenceEmpty => "start time must not be equal to end time"
  | silencePast => "end time can't be in the past"
  | silenceExpired id => "silence " ++ id ++ " already expired"
  | unnamedReceiver => "receiver name must not be empty"
  | endpoint kind fault => "invalid " ++ kind.name ++ " config: " ++ fault.message
  | slackUrl fault => "invalid Slack API URL: " ++ fault.message
  | flag name value =>
    "parameter \"" ++ name ++ "\" can either be 'true' or 'false', not \"" ++ value ++ "\""
  | body fault => fault.message
  | other reason => reason

/-- What can be wrong with a matcher or with the text of one. -/
inductive MatcherFault where
  | pattern (matcher : String)
  | unbalancedBraces (text : String)
  | unterminatedQuotes (text : String)
  | unterminatedQuote (expr : String)
  | strayQuote (expr : String)
  | format (expr : String)
  | other (reason : String)
deriving DecidableEq, Repr

def MatcherFault.message : MatcherFault → String
  | pattern matcher => matcher ++ ": regex parse error"
  | unbalancedBraces text => "unbalanced braces in " ++ Text.quoted text
  | unterminatedQuotes text => "unterminated quote in " ++ Text.quoted text
  | unterminatedQuote expr => "unterminated quote in " ++ expr
  | strayQuote expr => "stray quote in " ++ expr
  | format expr => "bad matcher format: " ++ expr
  | other reason => reason

/-- What can be wrong with a configuration as a whole. -/
inductive ConfigFault where
  | unreadable (path reason : String)
  | badYaml
  | unnamedReceiver
  | duplicateReceiver (name : String)
  | noDefaultReceiver
  | undefinedReceiver (name : String)
  | other (reason : String)
deriving DecidableEq, Repr

def ConfigFault.message : ConfigFault → String
  | unreadable path reason => "failed to read config file '" ++ path ++ "': " ++ reason
  | badYaml => "invalid YAML"
  | unnamedReceiver => "receiver name cannot be empty"
  | duplicateReceiver name => "notification config name " ++ Text.quoted name ++ " is not unique"
  | noDefaultReceiver => "root route must specify a default receiver"
  | undefinedReceiver name => "undefined receiver " ++ Text.quoted name ++ " used in route"
  | other reason => reason

/-- Failures that no caller can mend. -/
inductive InternalFault where
  | noBuilder (kind : Kind)
  | coordinatorStopped
  | other (reason : String)
deriving DecidableEq, Repr

def InternalFault.message : InternalFault → String
  | noBuilder kind => "no notifier registered for " ++ kind.name ++ " integration"
  | coordinatorStopped => "reconfiguration actor has stopped"
  | other reason => reason

/-- Why something failed. -/
inductive AlertError where
  | badInput (fault : BadInput)
  | duplicateName (name : String)
  | unknownReceiver (name : String)
  | unknownSilence (id : String)
  | missingSetting (kind : Kind) (setting : String)
  | badMatcher (fault : MatcherFault)
  | invalidAlerts (errors : List AlertError)
  | unbuildable (receiver : String) (errors : List AlertError)
  | storage (reason : String)
  | cancelled
  | internal (fault : InternalFault)
  | badConfig (fault : ConfigFault)
  | serialization (reason : String)

/-- How the API classifies a failure. -/
inductive ErrorKind where
  | badData
  | notFound
  | serverError
deriving DecidableEq, Repr

namespace ErrorKind

def name : ErrorKind → String
  | badData => "bad_data"
  | notFound => "not_found"
  | serverError => "server_error"

/-- The status of an HTTP response with such an error. -/
def status : ErrorKind → Nat
  | badData => 400
  | notFound => 404
  | serverError => 500

end ErrorKind

namespace AlertError

instance : Inhabited AlertError := ⟨cancelled⟩

mutual

def message : AlertError → String
  | badInput fault => fault.message
  | duplicateName name => "notification config name " ++ name ++ " is not unique"
  | unknownReceiver name => "no receiver found with name " ++ name
  | unknownSilence id => "no silence found with id " ++ id
  | missingSetting kind setting =>
    "no global " ++ setting ++ " set for " ++ kind.name ++ " integration"
  | badMatcher fault => "invalid matcher: " ++ fault.message
  | invalidAlerts errors => String.intercalate "; " (messages errors)
  | unbuildable receiver errors =>
    "error in building receiver integration for receiver " ++ receiver ++ ": " ++
      String.intercalate "; " (messages errors)
  | storage reason => "storage error: " ++ reason
  | cancelled => "request cancelled"
  | internal fault => "internal error: " ++ fault.message
  | badConfig fault => "configuration error: " ++ fault.message
  | serialization reason => "serialization error: " ++ reason

/-- The messages of several errors. -/
def messages : List AlertError → List String
  | [] => []
  | e :: es => e.message :: messages es

end

def kind : AlertError → ErrorKind
  | unknownReceiver _ | unknownSilence _ => .notFound
  | unbuildable _ _ | storage _ | cancelled | internal _ => .serverError
  | _ => .badData

end AlertError

end AlertRouter
