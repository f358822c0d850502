import AlertRouter.Config.Global

/-! # SNS

A message goes to a topic, to a telephone or to an application: to exactly one of them. -/

namespace AlertRouter

structure Sns where
  sendsResolved : Bool
  httpClient : Option HttpClient
  apiUrl : Option Url
  topicArn : String
  phoneNumber : String
  targetArn : String
  subject : String
deriving DecidableEq, Repr

namespace Sns

def schema : Schema Sns where
  name := "SnsConfig"
  blank := ⟨true, none, none, "", "", "", ""⟩
  fields := [
    .may "send_resolved" .flag (·.sendsResolved) fun v c => { c with sendsResolved := v },
    .maybe "http_config" HttpClient.schema.codec (·.httpClient)
      fun v c => { c with httpClient := v },
    .maybe "api_url" Url.codec (·.apiUrl) fun v c => { c with apiUrl := v },
    .may "topic_arn" .text (·.topicArn) fun v c => { c with topicArn := v },
    .may "phone_number" .text (·.phoneNumber) fun v c => { c with phoneNumber := v },
    .may "target_arn" .text (·.targetArn) fun v c => { c with targetArn := v },
    .may "subject" .text (·.subject) fun v c => { c with subject := v }]

/-- The settings with the global ones where there are none. -/
def filled (g : GlobalConfig) (c : Sns) : Sns :=
  { c with httpClient := some (c.httpClient.getD g.httpClient) }

/-- Where the messages go. -/
def targets (c : Sns) : List String :=
  [c.topicArn, c.phoneNumber, c.targetArn].filter (· != "")

def fault? (c : Sns) : Option EndpointFault :=
  if c.targets.length = 1 then none else some .oneTarget

end Sns

end AlertRouter
