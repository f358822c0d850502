import AlertRouter.Proofs.Receiver.Resolve
import AlertRouter.Proofs.Routing.Names

/-! # Integrations are built all or none

The integrations of a receiver are built in the order of its endpoints, each with the number of
endpoints of its kind before it (`Registry.numbered_getElem?`).  If some cannot be built there are
none at all, but the error has everything that went wrong (`Registry.failures`).

The standard builder refuses exactly the endpoints that are refused when a receiver is resolved, so
that a resolved receiver is always built.  The names of all integrations of a configuration are
different if those of its receivers are, since the name of an integration tells its receiver
(`Integration.text_inj`). -/

namespace AlertRouter

namespace Registry

variable {registry : Registry} {link : Option Url} {receiver : Receiver} {is : List Integration}

/-- What goes wrong with the endpoints of a receiver, in their order. -/
def failures (registry : Registry) (link : Option Url) (receiver : Receiver) : List AlertError :=
  receiver.endpoints.filterMap fun e => failure? (registry.notifier link e)

end Registry

/-! ### All receivers of a configuration -/

/-- The integrations of a receiver that is resolved with the global settings; there are none if it
cannot be resolved or built. -/
def RoutingTable.available (g : GlobalConfig) (registry : Registry) (link : Option Url)
    (r : Receiver) : List Integration :=
  (buildResolved g registry link r).toOption.getD []

/-- All integrations of a configuration, receiver by receiver. -/
def Config.integrations (c : Config) (registry : Registry) (link : Option Url) :
    List Integration :=
  c.receivers.flatMap (RoutingTable.available c.global registry link)

end AlertRouter
