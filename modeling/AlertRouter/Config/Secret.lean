import AlertRouter.Url.Parser

/-! # Secrets

Credentials can be read but are never written back: what is written in their place is the same for
all of them.  An empty secret is one that is not set. -/

namespace AlertRouter

/-- What is written in place of a secret. -/
def secretPlaceholder : String := "<secret>"

/-- A credential. -/
structure Secret where
  value : String
deriving DecidableEq, Repr, Inhabited

namespace Secret

/-- The secret that is not set. -/
def unset : Secret := ⟨""⟩

def isUnset (s : Secret) : Bool := s.value == ""

/-- The secret, or another one if it is not set. -/
def orElse (s default : Secret) : Secret := if s.isUnset then default else s

def codec : Codec Secret where
  read d := (Codec.text.read d).map .mk
  write _ := .text secretPlaceholder

end Secret

/-- A URL that is a credential as well. -/
structure SecretUrl where
  url : Url
deriving DecidableEq, Repr

namespace SecretUrl

def codec : Codec SecretUrl where
  read d := (Url.codec.read d).map .mk
  write _ := .text secretPlaceholder

end SecretUrl

end AlertRouter
