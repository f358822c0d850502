import AlertRouter.Config.Text
import AlertRouter.Time.Rfc3339

/-! # Status

What an instance tells about itself: its configuration, its version, since when it has been running,
and the other members of its cluster. -/

namespace AlertRouter

/-- Another member of the cluster. -/
structure Member where
  name : String
  address : String
deriving DecidableEq, Repr, Inhabited

def Member.schema : Schema Member where
  name := "PeerStatus"
  blank := default
  fields := [
    .must "name" .text (·.name) fun v m => { m with name := v },
    .must "address" .text (·.address) fun v m => { m with address := v }]

/-- The cluster as this instance sees it: its own name, whether it is ready, and the others. -/
structure Cluster where
  name : String
  status : String
  peers : List Member
deriving DecidableEq, Repr, Inhabited

def Cluster.schema : Schema Cluster where
  name := "ClusterStatus"
  blank := default
  fields := [
    .must "name" .text (·.name) fun v c => { c with name := v },
    .must "status" .text (·.status) fun v c => { c with status := v },
    .must "peers" (.list Member.schema.codec) (·.peers) fun v c => { c with peers := v }]

/-- What an instance reports. -/
structure Status where
  config : Config
  started : Instant
  cluster : Option Cluster
deriving DecidableEq, Repr

namespace Status

/-- The version of the program, and how it was built as far as that is known. -/
def version : List (String × String) :=
  [("branch", "unknown"), ("buildDate", "unknown"), ("buildUser", "unknown"),
    ("revision", "unknown"), ("rustVersion", "1.85"), ("version", "0.1.0")]

def versionDoc : Doc := .record (version.map fun e => (e.1, .text e.2))

def doc (s : Status) : Doc :=
  .record [("configYAML", .text s.config.yaml), ("configJSON", Config.schema.write s.config),
    ("versionInfo", versionDoc), ("uptime", .text (Rfc3339.print s.started)),
    ("clusterStatus", Cluster.schema.codec.optional.write s.cluster)]

end Status

end AlertRouter
