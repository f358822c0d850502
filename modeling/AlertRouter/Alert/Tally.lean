/-! # Counts of posted alerts

Three counters: alerts that were firing when they came in, alerts that had already ended, and those
of them that were refused.  A counter is shown once it has been used. -/

namespace AlertRouter

/-- The counters, each absent until its first use. -/
structure Tally where
  firing : Option Nat
  resolved : Option Nat
  invalid : Option Nat
deriving DecidableEq, Repr

namespace Tally

def empty : Tally := ⟨none, none, none⟩

instance : Inhabited Tally := ⟨empty⟩

/-- One more in a counter. -/
def bump (n : Option Nat) : Option Nat := some (n.getD 0 + 1)

def countFiring (t : Tally) : Tally := { t with firing := bump t.firing }

def countResolved (t : Tally) : Tally := { t with resolved := bump t.resolved }

def countInvalid (t : Tally) : Tally := { t with invalid := bump t.invalid }

/-- Looking at the counters shows all of them. -/
def shown (t : Tally) : Tally :=
  ⟨some (t.firing.getD 0), some (t.resolved.getD 0), some (t.invalid.getD 0)⟩

/-- The media type of the text form. -/
def contentType : String := "text/plain; version=0.0.4; charset=utf-8"

/-- A counter with its labels; nothing for one that has not been used. -/
def line (name labels : String) (n : Option Nat) : List String :=
  n.toList.map fun n => name ++ "_total\x7b" ++ labels ++ "\x7d " ++ toString n

/-- The lines that introduce a counter. -/
def header (name help : String) : List String :=
  ["# HELP " ++ name ++ " " ++ help, "# TYPE " ++ name ++ " counter"]

def receivedName : String := "alertmanager_alerts_received"

def invalidName : String := "alertmanager_alerts_invalid"

/-- The lines of the text form. -/
def lines (t : Tally) : List String :=
  header receivedName "The total number of received alerts." ++
    line receivedName "version=\"v1\",status=\"firing\"" t.firing ++
    line receivedName "version=\"v1\",status=\"resolved\"" t.resolved ++
    header invalidName "The total number of received alerts that were invalid." ++
    line invalidName "version=\"v1\"" t.invalid ++
    ["# EOF"]

end Tally

end AlertRouter
