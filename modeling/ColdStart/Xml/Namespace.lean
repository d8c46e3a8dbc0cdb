/-
This file resolves names against the namespaces that tags declare. A prefix
must be declared on the element or around it; an element without a prefix is in
the default namespace, an attribute without one in none. Two prefixes are
reserved, and two namespaces with them.
-/

import ColdStart.Xml.Token

namespace ColdStart

/-- The namespaces in scope by prefix, the innermost first. No prefix is the default namespace,
and an empty namespace is none. -/
abbrev XmlScope := List (Option (List Char) × List Char)

/-- The namespace of the prefix that needs no declaration. -/
def xmlNamespace : List Char := "http://www.w3.org/XML/1998/namespace".toList

/-- The namespace of declarations, which nothing may be bound to. -/
def xmlnsNamespace : List Char := "http://www.w3.org/2000/xmlns/".toList

/-- The scope outside the document. -/
def XmlScope.outermost : XmlScope := [(some "xml".toList, xmlNamespace)]

/-- The prefix that an attribute declares, when it declares one. -/
def declaredPrefix? (name : List Char) : Option (Option (List Char)) :=
  match splitColon name with
  | (none, localName) => if localName = "xmlns".toList then some none else none
  | (some space, localName) => if space = "xmlns".toList then some (some localName) else none

/-- Whether a prefix may be bound to a namespace. -/
def canBind (declared : Option (List Char)) (uri : List Char) : Bool :=
  (declared.isNone || !uri.isEmpty) && declared != some "xmlns".toList &&
    (declared == some "xml".toList) == (uri == xmlNamespace) && uri != xmlnsNamespace &&
    !uri.contains '\x7d'

/-- The scope with the declarations of a tag. -/
def XmlScope.declare? (scope : XmlScope) : List XmlAttribute → Option XmlScope
  | [] => some scope
  | entry :: rest =>
    match declaredPrefix? entry.name with
    | none => scope.declare? rest
    | some declared =>
      if canBind declared entry.value then
        XmlScope.declare? ((declared, entry.value) :: scope) rest
      else none

/-- A name in a namespace, the namespace in braces before it. -/
def expandedName (uri localName : List Char) : String :=
  if uri.isEmpty then String.ofList localName
  else String.ofList (['\x7b'] ++ uri ++ ['\x7d'] ++ localName)

/-- The full name of an element. -/
def XmlScope.tag? (scope : XmlScope) (name : List Char) : Option String :=
  match splitColon name with
  | (none, localName) => some (expandedName ((scope.lookup none).getD []) localName)
  | (some space, localName) =>
    (scope.lookup (some space)).map fun uri => expandedName uri localName

/-- The full name of an attribute. -/
def XmlScope.attribute? (scope : XmlScope) (entry : XmlAttribute) : Option (String × String) :=
  match splitColon entry.name with
  | (none, localName) => some (String.ofList localName, String.ofList entry.value)
  | (some space, localName) =>
    (scope.lookup (some space)).map fun uri =>
      (expandedName uri localName, String.ofList entry.value)

/-- Whether no value occurs twice. -/
def allDistinct {α : Type} [BEq α] : List α → Bool
  | [] => true
  | first :: rest => !rest.contains first && allDistinct rest

/-- The attributes of a tag under their full names, declarations left out. No name may occur
twice, neither as it is written nor in full. -/
def XmlScope.attributes? (scope : XmlScope) (attributes : List XmlAttribute) :
    Option (List (String × String)) :=
  if !allDistinct (attributes.map (·.name)) then none
  else
    let written := attributes.filter fun entry => (declaredPrefix? entry.name).isNone
    match written.mapM scope.attribute? with
    | none => none
    | some named => if allDistinct (named.map (·.1)) then some named else none

end ColdStart
