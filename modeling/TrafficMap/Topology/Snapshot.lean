import TrafficMap.Topology.Basic

/-!
# Snapshots

One capture of the topology: the services, the traffic between them, when it was captured and where
it came from. Ids name services; look-up takes the first service with the id.

`distinctOn` keeps of all elements with the same key the first one, in order.
-/

namespace TrafficMap

/-! ## First occurrences -/

/-- The elements whose key does not occur before them. -/
def distinctOn {α β : Type} [BEq β] (key : α → β) : List α → List α
  | [] => []
  | x :: xs => x :: (distinctOn key xs).filter (key · != key x)

/-! ## Data -/

structure Service (κ : Type) where
  id : String
  /-- The name shown on the map. -/
  name : String
  health : Health
  layer : Layer
  position : Position κ
deriving Repr, BEq, DecidableEq

/-- Directed traffic between two services. -/
structure Link (ν : Type) where
  /-- Id of the calling service. -/
  source : String
  /-- Id of the called service. -/
  target : String
  /-- Rate of the traffic. -/
  volume : ν
  kind : TrafficKind
deriving Repr, BEq, DecidableEq

/-- One capture of the topology. It is complete: nothing in it has to be looked up elsewhere. -/
structure Snapshot (κ ν : Type) where
  services : List (Service κ)
  links : List (Link ν)
  /-- When it was captured, in milliseconds since 1970. -/
  capturedAt : Int64
  /-- Where it came from. -/
  origin : String
deriving Repr, BEq, DecidableEq

/-! ## Links of a service -/

namespace Link

variable {ν : Type}

def isLoop (e : Link ν) : Bool := e.source == e.target

/-- The link starts or ends at the service. -/
def touches (e : Link ν) (id : String) : Bool := e.source == id || e.target == id

end Link

namespace Snapshot

variable {κ ν : Type}

/-- The first service with the id. -/
def service? (s : Snapshot κ ν) (id : String) : Option (Service κ) :=
  s.services.find? (·.id == id)

def contains (s : Snapshot κ ν) (id : String) : Bool :=
  (s.service? id).isSome

def inbound (s : Snapshot κ ν) (id : String) : List (Link ν) :=
  s.links.filter (·.target == id)

def outbound (s : Snapshot κ ν) (id : String) : List (Link ν) :=
  s.links.filter (·.source == id)

def linksOf (s : Snapshot κ ν) (id : String) : List (Link ν) :=
  s.links.filter (·.touches id)

/-- Services that share a link with `id`, in snapshot order, without `id` itself. Links in both
directions count. -/
def connected (s : Snapshot κ ν) (id : String) : List (Service κ) :=
  (s.services.filter (·.id != id)).filter fun peer => (s.linksOf id).any (·.touches peer.id)

/-! ## Volumes -/

variable [Scalar ν]

/-- Sum of the volumes of links. -/
def volumeOf (links : List (Link ν)) : ν :=
  Scalar.sum (links.map (·.volume))

/-- Traffic that reaches the service. -/
def volumeInto (s : Snapshot κ ν) (id : String) : ν :=
  volumeOf (s.inbound id)

/-- Traffic that the service sends. -/
def volumeOutOf (s : Snapshot κ ν) (id : String) : ν :=
  volumeOf (s.outbound id)

def totalVolume (s : Snapshot κ ν) : ν :=
  volumeOf s.links

end Snapshot

end TrafficMap
