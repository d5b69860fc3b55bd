import Mathlib.Data.List.Basic

/-!
# Document trees

What a namespace-aware XML reader hands out: elements with their local names, runs of characters,
and comments, which also stand for processing instructions. A document is the list of its top-level
nodes.
-/

namespace JunosMcp.Lib

structure XmlAttribute where
  space : Option (List Char)
  name : List Char
  value : List Char
deriving DecidableEq

inductive XmlNode where
  | element (name : List Char) (attributes : List XmlAttribute) (children : List XmlNode)
  | text (content : List Char)
  | comment

abbrev XmlDocument := List XmlNode

namespace XmlNode

def isElement : XmlNode → Bool
  | .element .. => true
  | _ => false

/-- An element of this local name. -/
def named (name : List Char) : XmlNode → Bool
  | .element other _ _ => other == name
  | _ => false

def tagName : XmlNode → List Char
  | .element name _ _ => name
  | _ => []

def children : XmlNode → List XmlNode
  | .element _ _ children => children
  | _ => []

def attributes : XmlNode → List XmlAttribute
  | .element _ attributes _ => attributes
  | _ => []

/-- The characters an element starts with, up to its first child node. -/
def leadingText : XmlNode → Option (List Char)
  | .element _ _ (.text content :: _) => some content
  | _ => none

/-- The value of the attribute of this name and no namespace. -/
def attributeValue (name : List Char) (node : XmlNode) : Option (List Char) :=
  (node.attributes.find? fun a => a.space.isNone && a.name == name).map XmlAttribute.value

def child (name : List Char) (node : XmlNode) : Option XmlNode := node.children.find? (named name)

mutual

/-- The node and what is below it, in document order. -/
def descendants : XmlNode → List XmlNode
  | .element name attributes children =>
      .element name attributes children :: descendantsOf children
  | .text content => [.text content]
  | .comment => [.comment]

def descendantsOf : List XmlNode → List XmlNode
  | [] => []
  | node :: rest => node.descendants ++ descendantsOf rest

end

mutual

/-- What is below a parent, each with its own parent, in document order. -/
def withParent (parent : Option XmlNode) : XmlNode → List (Option XmlNode × XmlNode)
  | .element name attributes children =>
      (parent, .element name attributes children) ::
        withParents (some (.element name attributes children)) children
  | .text content => [(parent, .text content)]
  | .comment => [(parent, .comment)]

def withParents (parent : Option XmlNode) : List XmlNode → List (Option XmlNode × XmlNode)
  | [] => []
  | node :: rest => withParent parent node ++ withParents parent rest

end

mutual

theorem withParent_nodes (parent : Option XmlNode) :
    ∀ node : XmlNode, (withParent parent node).map Prod.snd = node.descendants
  | .element name attributes children => by
      rw [withParent, List.map_cons, withParents_nodes _ children, descendants]
  | .text content => rfl
  | .comment => rfl

theorem withParents_nodes (parent : Option XmlNode) :
    ∀ nodes : List XmlNode, (withParents parent nodes).map Prod.snd = descendantsOf nodes
  | [] => rfl
  | node :: rest => by
      rw [withParents, List.map_append, withParent_nodes parent node, withParents_nodes parent rest,
        descendantsOf]

end

theorem mem_descendants_self (node : XmlNode) : node ∈ node.descendants := by
  cases node <;> simp [descendants]

theorem mem_descendantsOf {node : XmlNode} {nodes : List XmlNode} :
    node ∈ descendantsOf nodes ↔ ∃ top ∈ nodes, node ∈ top.descendants := by
  induction nodes with
  | nil => simp [descendantsOf]
  | cons top rest ih => simp [descendantsOf, ih]

end XmlNode

namespace XmlDocument

def descendants (document : XmlDocument) : List XmlNode := XmlNode.descendantsOf document

def root (document : XmlDocument) : Option XmlNode := document.find? XmlNode.isElement

/-- The first element of this local name. -/
def first (name : List Char) (document : XmlDocument) : Option XmlNode :=
  document.descendants.find? (XmlNode.named name)

/-- The elements of this local name, each with the element it is a child of. -/
def allWithParent (name : List Char) (document : XmlDocument) :
    List (Option XmlNode × XmlNode) :=
  (XmlNode.withParents none document).filter fun pair => pair.2.named name

theorem allWithParent_nodes (name : List Char) (document : XmlDocument) :
    (document.allWithParent name).map Prod.snd =
      document.descendants.filter (XmlNode.named name) := by
  rw [descendants, ← XmlNode.withParents_nodes none document, List.filter_map]
  rfl

def all (name : List Char) (document : XmlDocument) : List XmlNode :=
  document.descendants.filter (XmlNode.named name)

end XmlDocument

end JunosMcp.Lib
