/-
This file holds elements: a tag, attributes, the text before the first child,
and the children. A tag or an attribute in a namespace is written with the
namespace in braces before it, so it differs from every plain name.
-/

namespace ColdStart

/-- An element of a document. -/
inductive XmlNode where
  | element (tag : String) (attributes : List (String × String)) (text : Option String)
      (children : List XmlNode)
  deriving Repr

namespace XmlNode

/-- The tag of an element. -/
def tag : XmlNode → String
  | element tag _ _ _ => tag

/-- The attributes of an element. -/
def attributes : XmlNode → List (String × String)
  | element _ attributes _ _ => attributes

/-- The text of an element before its first child, if there is any. -/
def text : XmlNode → Option String
  | element _ _ text _ => text

/-- The children of an element. -/
def children : XmlNode → List XmlNode
  | element _ _ _ children => children

/-- The value of an attribute. -/
def attribute? (node : XmlNode) (name : String) : Option String := node.attributes.lookup name

/-- The first child with a tag. -/
def child? (node : XmlNode) (tag : String) : Option XmlNode :=
  node.children.find? fun child => child.tag = tag

mutual

/-- An element and all elements inside it, each before those inside it. -/
def preorder : XmlNode → List XmlNode
  | node@(element _ _ _ children) => node :: preorderAll children

/-- All elements of a list and inside them. -/
def preorderAll : List XmlNode → List XmlNode
  | [] => []
  | node :: rest => preorder node ++ preorderAll rest

end

end XmlNode

end ColdStart
