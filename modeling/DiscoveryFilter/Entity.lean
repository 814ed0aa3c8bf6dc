import DiscoveryFilter.Address

/-!
# Discovered entities

A `Node` is an address seen on one side of a connection, with its role if that is known. An
`Endpoint` is a port that a node listens on. An `Entity` is either, and is what acceptors judge.
-/

namespace DiscoveryFilter

/-- A TCP port. -/
abbrev Port := UInt16

/-- The side of a connection. -/
inductive Role where
  | client
  | server
deriving DecidableEq

/-- An address whose role may be unknown. -/
structure Node where
  address : IpAddress
  role : Option Role
deriving DecidableEq

namespace Node

def isClient (n : Node) : Bool :=
  n.role == some .client

def isServer (n : Node) : Bool :=
  n.role == some .server

/-- The address, followed by the role in parentheses if it is known. -/
instance : ToString Node where
  toString n :=
    match n.role with
    | some .client => toString n.address ++ " (client)"
    | some .server => toString n.address ++ " (server)"
    | none => toString n.address

end Node

/-- A port of a node. -/
structure Endpoint where
  node : Node
  port : Port
deriving DecidableEq

instance : ToString Endpoint where
  toString e := toString e.node ++ ":" ++ toString e.port.toNat

/-- What an acceptor is asked about. -/
inductive Entity where
  | node (node : Node)
  | endpoint (endpoint : Endpoint)
deriving DecidableEq

namespace Entity

/-- The address of the node, or of the node that an endpoint belongs to. -/
def address : Entity → IpAddress
  | .node n => n.address
  | .endpoint e => e.node.address

def node? : Entity → Option Node
  | .node n => some n
  | .endpoint _ => none

def endpoint? : Entity → Option Endpoint
  | .node _ => none
  | .endpoint e => some e

/-- The node itself, or the node that an endpoint belongs to. -/
def owner : Entity → Node
  | .node n => n
  | .endpoint e => e.node

instance : ToString Entity where
  toString
    | .node n => toString n
    | .endpoint e => toString e

end Entity

end DiscoveryFilter
