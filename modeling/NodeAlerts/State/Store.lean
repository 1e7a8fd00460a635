import NodeAlerts.State.Node

/-!
# What is remembered about all nodes

The store holds the state of every node by its chain.  States are created when a node is first
classified; a changed configuration forgets the nodes of its chain, and a removed one the chain.
-/

namespace NodeAlerts

universe u

/-- The states of all nodes, by chain and node. -/
structure Store (M : Type u) where
  /-- The nodes of each chain. -/
  chains : Table (Table (NodeState M))
  deriving Inhabited

namespace Store

variable {M : Type u}

/-- Nothing is remembered. -/
def empty : Store M := ⟨∅⟩

/-- The nodes of a chain. -/
def nodes (s : Store M) (parentId : String) : Table (NodeState M) := (s.chains.get? parentId).getD ∅

/-- The state of a node. -/
def node? (s : Store M) (parentId originId : String) : Option (NodeState M) :=
  (s.nodes parentId).get? originId

/-- Remembers the state of a node. -/
def setNode (s : Store M) (parentId originId : String) (n : NodeState M) : Store M :=
  ⟨s.chains.insert parentId ((s.nodes parentId).insert originId n)⟩

/-- Whether the chain is known. -/
def hasChain (s : Store M) (parentId : String) : Bool := s.chains.contains parentId

/-- The number of nodes of a chain. -/
def nodeCount (s : Store M) (parentId : String) : Nat := (s.nodes parentId).size

/-- Forgets the nodes of a chain; a known chain stays known. -/
def resetChain (s : Store M) (parentId : String) : Store M :=
  if s.hasChain parentId then ⟨s.chains.insert parentId ∅⟩ else s

/-- Forgets a chain. -/
def removeChain (s : Store M) (parentId : String) : Store M := ⟨s.chains.erase parentId⟩

end Store

end NodeAlerts
