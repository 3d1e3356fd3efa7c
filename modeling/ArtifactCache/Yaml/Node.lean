import ArtifactCache.Bytes
import ArtifactCache.Table
import ArtifactCache.Yaml.Token

/-!
The nodes of a document, and what its aliases refer to. An alias names an
anchor by its number, which later anchors may take over, so it is only known
at the end of the document where it leads.
-/
namespace ArtifactCache.Yaml

inductive Node
  | scalar (style : Style) (tag? : Option Bytes) (text : String)
  | sequence (items : List Node)
  | mapping (entries : List (Node × Node))
  /-- An alias of the node at the anchor of this number. -/
  | reference (number : Nat)

namespace Node

/-- What stands where nothing was written. -/
def absent : Node := .scalar .plain none ""

/-- How many marks a node takes: one for each scalar and alias, and two around
each sequence and mapping. -/
def size : Node → Nat
  | .scalar .. | .reference _ => 1
  | .sequence items => items.attach.foldl (fun n item => n + item.1.size) 2
  | .mapping entries =>
    entries.attach.foldl (fun n pair => n + pair.1.1.size + pair.1.2.size) 2
decreasing_by
  · have := List.sizeOf_lt_of_mem item.2
    simp only [Node.sequence.sizeOf_spec]
    omega
  · have := List.sizeOf_lt_of_mem pair.2
    have : sizeOf pair.1.1 < sizeOf pair.1 := by cases pair.1; simp only [Prod.mk.sizeOf_spec]; omega
    simp only [Node.mapping.sizeOf_spec]
    omega
  · have := List.sizeOf_lt_of_mem pair.2
    have : sizeOf pair.1.2 < sizeOf pair.1 := by cases pair.1; simp only [Prod.mk.sizeOf_spec]; omega
    simp only [Node.mapping.sizeOf_spec]
    omega

end Node

/-- The anchors of a document. -/
structure Anchors where
  /-- The number of the latest anchor of each name. -/
  numbers : Table String Nat := ∅
  /-- The place of the latest anchor with each number among all anchors. -/
  places : Table Nat Nat := ∅
  /-- What is at the anchors, by their places. -/
  nodes : Table Nat Node := ∅
  /-- How many anchors there are. -/
  count : Nat := 0

namespace Anchors

/-- Adds an anchor. It takes the number of names that there are in front of it. -/
def add (name : String) (a : Anchors) : Anchors :=
  let number := a.numbers.size
  { a with
    numbers := a.numbers.insert name number
    places := a.places.insert number a.count
    count := a.count + 1 }

def setNode (place : Nat) (node : Node) (a : Anchors) : Anchors :=
  { a with nodes := a.nodes.insert place node }

/-- Where an alias leads. -/
def node? (a : Anchors) (number : Nat) : Option Node := (a.places.get? number).bind a.nodes.get?

end Anchors
end ArtifactCache.Yaml
