/-
This file says which characters spell which elements. Spelled content is content
wherever an element is open: it adds its text, as long as no child came before,
and its children. Contents can be put one behind the other and be wrapped into an
element, so the content of a whole document is known from that of its lines.
-/

import ColdStart.Proofs.Xml.Escaping
import ColdStart.Xml.Reader

namespace ColdStart

/-! ### Tokens that nest -/

namespace XmlNesting

theorem pushAll?_append (nesting : XmlNesting) (front back : List XmlToken) :
    nesting.pushAll? (front ++ back) = (nesting.pushAll? front).bind (·.pushAll? back) := by
  induction front generalizing nesting with
  | nil => rfl
  | cons token rest inductionHypothesis =>
    rw [List.cons_append, pushAll?, pushAll?]
    cases nesting.push? token with
    | none => rfl
    | some next => exact inductionHypothesis next

theorem pushAll?_singleton (nesting : XmlNesting) (token : XmlToken) :
    nesting.pushAll? [token] = nesting.push? token := by
  rw [pushAll?]
  cases nesting.push? token <;> rfl

end XmlNesting

/-- The text of content behind other content: it only counts while there is no child. -/
def textBehind (nodes : List XmlNode) (text : List Char) : List Char :=
  if nodes.isEmpty then text else []

/-- The element with more content. -/
def OpenElement.addContent (element : OpenElement) (text : List Char) (nodes : List XmlNode) :
    OpenElement :=
  { element with
    text := (textBehind element.children text).reverse ++ element.text
    children := nodes.reverse ++ element.children }

theorem OpenElement.addContent_addContent (element : OpenElement) (text others : List Char)
    (nodes more : List XmlNode) :
    (element.addContent text nodes).addContent others more =
      element.addContent (text ++ textBehind nodes others) (nodes ++ more) := by
  obtain ⟨name, tag, attributes, scope, written, children⟩ := element
  -- Text counts in front of the first child only, so it matters where that one is.
  cases children with
  | cons first rest => simp [addContent, textBehind]
  | nil =>
    cases nodes with
    | nil => simp [addContent, textBehind]
    | cons first rest => simp [addContent, textBehind]

/-- Tokens that are the content of an element, in the scope outside all namespaces. -/
def NestsInto (tokens : List XmlToken) (text : List Char) (nodes : List XmlNode) : Prop :=
  ∀ (element : OpenElement) (outer : List OpenElement) (root : Option XmlNode),
    element.scope = .outermost →
      XmlNesting.pushAll? ⟨element :: outer, root⟩ tokens =
        some ⟨element.addContent text nodes :: outer, root⟩

/-! ### Characters that spell content -/

/-- Characters that spell the content of an element: text and, behind its first child, children. -/
structure Spells (characters text : List Char) (nodes : List XmlNode) : Prop where
  lasting : ∀ character ∈ characters, Lasts character
  nests : ∃ tokens, CutsInto characters tokens ∧ NestsInto tokens text nodes

theorem spells_nil : Spells [] [] [] where
  lasting character member := by cases member
  nests := by
    refine ⟨[], cutsInto_nil, fun element outer root _ => ?_⟩
    simp [XmlNesting.pushAll?, OpenElement.addContent, textBehind]

theorem Spells.append {front back text others : List Char} {nodes more : List XmlNode}
    (first : Spells front text nodes) (second : Spells back others more) :
    Spells (front ++ back) (text ++ textBehind nodes others) (nodes ++ more) where
  lasting character member := by
    rcases List.mem_append.mp member with inFront | inBack
    · exact first.lasting character inFront
    · exact second.lasting character inBack
  nests := by
    obtain ⟨tokens, cuts, nests⟩ := first.nests
    obtain ⟨later, cutsLater, nestsLater⟩ := second.nests
    refine ⟨tokens ++ later, cuts.append cutsLater, fun element outer root outermost => ?_⟩
    have behind := nestsLater (element.addContent text nodes) outer root outermost
    rw [XmlNesting.pushAll?_append, nests element outer root outermost, Option.bind_some, behind,
      OpenElement.addContent_addContent]

/-! ### Text -/

/-- A token of text adds its characters. -/
theorem nestsInto_text {token : XmlToken} {character : Char}
    (isText : token = .plain character ∨ token = .resolved [character]) :
    NestsInto [token] [character] [] := by
  intro element outer root _
  have added : element.addText [character] = element.addContent [character] [] := by
    obtain ⟨name, tag, attributes, scope, written, children⟩ := element
    cases children <;> rfl
  rw [XmlNesting.pushAll?_singleton, ← added]
  rcases isText with rfl | rfl <;> rfl

theorem spells_plain {character : Char} (lasts : Lasts character)
    (plain : character ≠ '<' ∧ character ≠ '&' ∧ character ≠ '>') :
    Spells [character] [character] [] where
  lasting written member := by
    rw [List.mem_singleton.mp member]
    exact lasts
  nests := ⟨_, cutsInto_plain plain, nestsInto_text (.inl rfl)⟩

/-- Text is spelled character by character. -/
theorem spells_flatMap (written : Char → List Char) {text : List Char}
    (each : ∀ character ∈ text, Spells (written character) [character] []) :
    Spells (text.flatMap written) text [] := by
  induction text with
  | nil => exact spells_nil
  | cons character rest inductionHypothesis =>
    exact (each character List.mem_cons_self).append
      (inductionHypothesis fun other member => each other (List.mem_cons_of_mem _ member))

theorem spells_plainText {text : List Char}
    (plain : ∀ character ∈ text,
      Lasts character ∧ character ≠ '<' ∧ character ≠ '&' ∧ character ≠ '>') :
    Spells text text [] := by
  have spelled := spells_flatMap (fun character => [character])
    fun character member => spells_plain (plain character member).1 (plain character member).2
  rwa [List.flatMap_singleton'] at spelled

/-- Escaped text spells the text. -/
theorem spells_escapeContent {text : String}
    (lasting : ∀ character ∈ text.toList, Lasts character) :
    Spells (escapeContent text).toList text.toList [] := by
  rw [escapeContent, toList_escapeWith]
  refine spells_flatMap _ fun character member => ?_
  rw [writtenAs]
  cases escaped : contentEscape? character with
  | none => exact spells_plain (lasting character member) (ne_of_contentEscape escaped)
  | some replacement =>
    have isReference := isReference_of_contentEscape escaped
    exact ⟨isReference.lasting, _, cutsInto_reference isReference, nestsInto_text (.inr rfl)⟩

/-! ### Elements -/

/-- An attribute under its full name, when it is in no namespace. -/
def XmlAttribute.plain (entry : XmlAttribute) : String × String :=
  (String.ofList entry.name, String.ofList entry.value)

/-- An opening tag: its characters, its name and its attributes, none of which declares a
namespace. -/
structure Opens (characters name : List Char) (attributes : List XmlAttribute) : Prop where
  isName : isXmlLocalName name = true
  lasting : ∀ character ∈ characters, Lasts character
  cuts : CutsInto characters [.opening name attributes]
  undeclared : XmlScope.outermost.declare? attributes = some .outermost
  resolved : XmlScope.outermost.attributes? attributes = some (attributes.map XmlAttribute.plain)

theorem lasting_tag {name characters : List Char} (isName : isXmlLocalName name)
    (inside : ∀ character ∈ characters, character ∈ name ∨ Lasts character) :
    ∀ character ∈ characters, Lasts character := by
  intro character member
  rcases inside character member with inName | lasts
  · exact lasts_of_mem_localName isName inName
  · exact lasts

/-- An opening tag without attributes. -/
def openingTag (name : List Char) : List Char := '<' :: name ++ ['>']

theorem opens_plain (name : List Char) (isName : isXmlLocalName name) :
    Opens (openingTag name) name [] where
  isName := isName
  lasting := by
    refine lasting_tag isName fun character member => ?_
    simp only [openingTag, List.cons_append, List.mem_cons, List.mem_append, List.not_mem_nil,
      or_false] at member
    rcases member with rfl | inName | rfl
    · exact .inr (by decide)
    · exact .inl inName
    · exact .inr (by decide)
  cuts := XmlState.cutsInto_opening isName
  undeclared := rfl
  resolved := rfl

theorem declaredPrefix?_localName {key : List Char} (isKey : isXmlLocalName key)
    (notDeclaring : key ≠ "xmlns".toList) : declaredPrefix? key = none := by
  rw [declaredPrefix?, splitColon_localName isKey]
  exact if_neg notDeclaring

theorem opens_with (name key : List Char) {characters value : List Char}
    (isName : isXmlLocalName name) (isKey : isXmlLocalName key)
    (notDeclaring : key ≠ "xmlns".toList)
    (lasting : ∀ character ∈ characters, Lasts character)
    (reads : XmlState.ReadsValue characters value) :
    Opens ('<' :: name ++ (' ' :: (key ++ ('=' :: (characters ++ ['>']))))) name
      [⟨key, value⟩] where
  isName := isName
  lasting := by
    refine lasting_tag isName fun character member => ?_
    simp only [List.cons_append, List.mem_cons, List.mem_append, List.not_mem_nil,
      or_false] at member
    rcases member with rfl | inName | rfl | inKey | rfl | inValue | rfl
    · exact .inr (by decide)
    · exact .inl inName
    · exact .inr (by decide)
    · exact .inr (lasts_of_mem_localName isKey inKey)
    · exact .inr (by decide)
    · exact .inr (lasting character inValue)
    · exact .inr (by decide)
  cuts := XmlState.cutsInto_openingWith isName isKey reads
  undeclared := by
    rw [XmlScope.declare?, declaredPrefix?_localName isKey notDeclaring]
    rfl
  resolved := by
    simp [XmlScope.attributes?, allDistinct, declaredPrefix?_localName isKey notDeclaring,
      XmlScope.attribute?, splitColon_localName isKey, XmlAttribute.plain]

/-- An opening tag with a quoted attribute. -/
theorem opens_quoted (name key : List Char) {value : String}
    (isName : isXmlLocalName name) (isKey : isXmlLocalName key)
    (notDeclaring : key ≠ "xmlns".toList)
    (allowed : ∀ character ∈ value.toList, isXmlChar character = true) :
    Opens ('<' :: name ++ (' ' :: (key ++ ('=' :: ((quoteAttribute value).toList ++ ['>'])))))
      name [⟨key, value.toList⟩] :=
  opens_with name key isName isKey notDeclaring (lasting_quoteAttribute allowed)
    (readsValue_quoteAttribute value)

/-- The element behind an opening tag. -/
def OpenElement.behind (name : List Char) (attributes : List XmlAttribute) : OpenElement := {
  name
  tag := String.ofList name
  attributes := attributes.map XmlAttribute.plain
  scope := .outermost }

/-- An opening tag opens its element, inside another or as the first one. -/
theorem push?_opening {characters name : List Char} {attributes : List XmlAttribute}
    (opens : Opens characters name attributes) (nesting : XmlNesting)
    (outermost : (nesting.opened.head?.map (·.scope)).getD .outermost = .outermost)
    (free : (nesting.opened.isEmpty && nesting.root.isSome) = false) :
    nesting.push? (.opening name attributes) =
      some { nesting with opened := .behind name attributes :: nesting.opened } := by
  have plainName : XmlScope.outermost.tag? name = some (String.ofList name) := by
    rw [XmlScope.tag?, splitColon_localName opens.isName]
    rfl
  simp [XmlNesting.push?, XmlNesting.opening?, outermost, free, opens.undeclared, plainName,
    opens.resolved, OpenElement.behind]

/-- An element that is what its tags and its content make it. -/
structure IsElement (node : XmlNode) (name : List Char) (attributes : List XmlAttribute)
    (text : List Char) (nodes : List XmlNode) : Prop where
  tag : node.tag = String.ofList name
  attributes : node.attributes = attributes.map XmlAttribute.plain
  text : node.text.getD "" = String.ofList text
  children : node.children = nodes

theorem isElement_close (name : List Char) (attributes : List XmlAttribute) (text : List Char)
    (nodes : List XmlNode) :
    IsElement ((OpenElement.behind name attributes).addContent text nodes).close name attributes
      text nodes where
  tag := rfl
  attributes := rfl
  text := by
    cases text <;>
      simp [OpenElement.close, OpenElement.addContent, textBehind, OpenElement.behind, XmlNode.text]
  children := by
    simp [OpenElement.close, OpenElement.addContent, OpenElement.behind, XmlNode.children]

/-- A closing tag. -/
def closingTag (name : List Char) : List Char := '<' :: '/' :: name ++ ['>']

theorem lasting_closingTag {name : List Char} (isName : isXmlLocalName name) :
    ∀ character ∈ closingTag name, Lasts character := by
  refine lasting_tag isName fun character member => ?_
  simp only [closingTag, List.cons_append, List.mem_cons, List.mem_append, List.not_mem_nil,
    or_false] at member
  rcases member with rfl | rfl | inName | rfl
  · exact .inr (by decide)
  · exact .inr (by decide)
  · exact .inl inName
  · exact .inr (by decide)

/-- Tags around content spell an element. -/
theorem spells_element {opening name content text : List Char} {attributes : List XmlAttribute}
    {nodes : List XmlNode} (opens : Opens opening name attributes)
    (spells : Spells content text nodes) :
    ∃ node, IsElement node name attributes text nodes ∧
      Spells (opening ++ (content ++ closingTag name)) [] [node] := by
  obtain ⟨tokens, cuts, nests⟩ := spells.nests
  let opened := OpenElement.behind name attributes
  refine ⟨(opened.addContent text nodes).close, isElement_close name attributes text nodes,
    ?_, ?_⟩
  · intro character member
    rcases List.mem_append.mp member with inOpening | later
    · exact opens.lasting character inOpening
    · rcases List.mem_append.mp later with inContent | inClosing
      · exact spells.lasting character inContent
      · exact lasting_closingTag opens.isName character inClosing
  · refine ⟨_, opens.cuts.append (cuts.append (XmlState.cutsInto_closing opens.isName)), ?_⟩
    intro element outer root outermost
    have begins := push?_opening opens ⟨element :: outer, root⟩ outermost rfl
    have ends : XmlNesting.push? ⟨opened.addContent text nodes :: element :: outer, root⟩
        (.closing name) =
          some ⟨element.addContent [] [(opened.addContent text nodes).close] :: outer, root⟩ := by
      simp [XmlNesting.push?, XmlNesting.closing?, OpenElement.addContent, OpenElement.addChild,
        OpenElement.behind, textBehind, opened]
    rw [List.singleton_append, XmlNesting.pushAll?, begins]
    simp only
    rw [XmlNesting.pushAll?_append, nests opened (element :: outer) root rfl, Option.bind_some,
      XmlNesting.pushAll?_singleton, ends]

/-! ### Children -/

/-- Characters that spell children, whatever text stands before the first of them. -/
def SpellsNodes (characters : List Char) (nodes : List XmlNode) : Prop :=
  ∃ text, Spells characters text nodes

theorem SpellsNodes.append {front back : List Char} {nodes more : List XmlNode}
    (first : SpellsNodes front nodes) (second : SpellsNodes back more) :
    SpellsNodes (front ++ back) (nodes ++ more) := by
  obtain ⟨text, spells⟩ := first
  obtain ⟨others, spellsOthers⟩ := second
  exact ⟨_, spells.append spellsOthers⟩

/-- Tags around children spell an element that has them. -/
theorem SpellsNodes.element {opening name content : List Char} {attributes : List XmlAttribute}
    {nodes : List XmlNode} (opens : Opens opening name attributes)
    (spells : SpellsNodes content nodes) :
    ∃ node text, IsElement node name attributes text nodes ∧
      SpellsNodes (opening ++ (content ++ closingTag name)) [node] := by
  obtain ⟨text, spells⟩ := spells
  obtain ⟨node, isElement, spelled⟩ := spells_element opens spells
  exact ⟨node, text, isElement, [], spelled⟩

/-- Children that are spelled item by item. -/
theorem spellsNodes_flatMap {Item : Type} {written : Item → List Char}
    {meant : Item → XmlNode → Prop} {items : List Item}
    (each : ∀ item ∈ items, ∃ node, meant item node ∧ SpellsNodes (written item) [node]) :
    ∃ nodes, List.Forall₂ meant items nodes ∧ SpellsNodes (items.flatMap written) nodes := by
  induction items with
  | nil => exact ⟨[], .nil, [], spells_nil⟩
  | cons item rest inductionHypothesis =>
    obtain ⟨node, means, spells⟩ := each item List.mem_cons_self
    obtain ⟨nodes, meanRest, spellsRest⟩ :=
      inductionHypothesis fun other member => each other (List.mem_cons_of_mem _ member)
    exact ⟨node :: nodes, .cons means meanRest, spells.append spellsRest⟩

/-! ### Documents -/

theorem normalizeLineEnds_eq_self {characters : List Char}
    (lasting : ∀ character ∈ characters, Lasts character) :
    normalizeLineEnds characters = characters := by
  induction characters with
  | nil => rfl
  | cons character rest inductionHypothesis =>
    have notReturn := (lasting character List.mem_cons_self).2
    have later := inductionHypothesis fun other member =>
      lasting other (List.mem_cons_of_mem _ member)
    rw [normalizeLineEnds.eq_4 _ _ (fun _ same _ => notReturn same) notReturn, later]

/-- The characters of a document of one element: its tags around its content, and a newline at the
end. -/
def documentOf (name content : List Char) : List Char :=
  openingTag name ++ (content ++ (closingTag name ++ ['\n']))

theorem lasting_documentOf {name content text : List Char} {nodes : List XmlNode}
    (isName : isXmlLocalName name) (spells : Spells content text nodes) :
    ∀ character ∈ documentOf name content, Lasts character := by
  intro character member
  simp only [documentOf, List.mem_append] at member
  rcases member with inOpening | inContent | inClosing | newline
  · exact (opens_plain name isName).lasting character inOpening
  · exact spells.lasting character inContent
  · exact lasting_closingTag isName character inClosing
  · rw [List.mem_singleton.mp newline]
    decide

/-- A document has no byte order mark and no declaration to skip. -/
theorem skipDeclaration?_documentOf {name : List Char} (isName : isXmlLocalName name)
    (content : List Char) :
    skipDeclaration? (skipByteOrderMark (documentOf name content)) =
      some (documentOf name content) := by
  obtain ⟨first, rest, rfl, start, -⟩ := localName_cases isName
  have question : first ≠ '?' := by rintro rfl; exact absurd start (by decide)
  simp [documentOf, openingTag, skipByteOrderMark, skipDeclaration?, stripFront?, question]

theorem ofText?_documentOf {name content : List Char} {tokens : List XmlToken}
    (isName : isXmlLocalName name) (cuts : CutsInto content tokens) :
    XmlToken.ofText? (documentOf name content) =
      some ([.opening name []] ++ (tokens ++ ([.closing name] ++ [.plain '\n']))) := by
  have newline : CutsInto ['\n'] [.plain '\n'] := cutsInto_plain (by decide)
  obtain ⟨after, reached⟩ := (XmlState.cutsInto_opening isName).append
    (cuts.append ((XmlState.cutsInto_closing isName).append newline)) 0 []
  rw [XmlToken.ofText?, documentOf, openingTag, closingTag, reached]
  simp

/-- The newline behind the root belongs to no element. -/
theorem ofTokens?_document {name text : List Char} {tokens : List XmlToken}
    {nodes : List XmlNode} (isName : isXmlLocalName name) (nests : NestsInto tokens text nodes) :
    XmlNode.ofTokens? ([.opening name []] ++ (tokens ++ ([.closing name] ++ [.plain '\n']))) =
      some ((OpenElement.behind name []).addContent text nodes).close := by
  have begins := push?_opening (opens_plain name isName) {} rfl rfl
  rw [XmlNode.ofTokens?, List.singleton_append, XmlNesting.pushAll?, begins]
  simp only
  rw [XmlNesting.pushAll?_append, nests _ [] none rfl, Option.bind_some]
  simp [XmlNesting.pushAll?, XmlNesting.push?, XmlNesting.closing?, OpenElement.addContent,
    OpenElement.behind, isXmlSpace]

/-- A document of one element with spelled content is read as that element. -/
theorem read?_documentOf (name : List Char) {content text : List Char} {nodes : List XmlNode}
    (isName : isXmlLocalName name) (spells : Spells content text nodes) :
    ∃ root, IsElement root name [] text nodes ∧
      XmlNode.read? (String.ofList (documentOf name content)) = some root := by
  obtain ⟨tokens, cuts, nests⟩ := spells.nests
  refine ⟨((OpenElement.behind name []).addContent text nodes).close,
    isElement_close name [] text nodes, ?_⟩
  have lasting := lasting_documentOf isName spells
  have allowed : (documentOf name content).all isXmlChar = true :=
    List.all_eq_true.mpr fun character member => (lasting character member).1
  rw [XmlNode.read?, String.toList_ofList, allowed, normalizeLineEnds_eq_self lasting,
    skipDeclaration?_documentOf isName content]
  simp only [Bool.not_true, Bool.false_eq_true, if_false, bind, Option.bind_some,
    ofText?_documentOf isName cuts, ofTokens?_document isName nests]

/-- What is read is parsed. -/
theorem plain_eq_ok_of_read? {text : String} {root : XmlNode}
    (found : XmlNode.read? text = some root) : XmlParser.plain text = .ok root := by
  rw [XmlParser.plain, found]

end ColdStart
