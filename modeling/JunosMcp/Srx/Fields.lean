import JunosMcp.Lib.Results
import JunosMcp.Srx.ClusterStatus

/-!
# Fields of an element
-/

namespace JunosMcp.Lib.XmlNode

/-- The trimmed text of the first child of this name, where it is not empty. -/
def childText (name : String) (node : XmlNode) : Option Text :=
  (((node.child name.toList).bind leadingText).map Text.trim).filter (!·.isEmpty)

def elements (node : XmlNode) : List XmlNode := node.children.filter isElement

def childrenNamed (name : String) (node : XmlNode) : List XmlNode :=
  node.children.filter (named name.toList)

def firstChild (name : String) (node : XmlNode) : Option XmlNode := node.child name.toList

def hasChild (name : String) (node : XmlNode) : Bool := node.children.any (named name.toList)

/-- An element with a text. -/
def field (name value : String) : XmlNode := .element name.toList [] [.text value.toList]

def group (name : String) (children : List XmlNode) : XmlNode := .element name.toList [] children

/-- The trimmed text of an element, where it is not empty. -/
def ownText (node : XmlNode) : Option Text := (node.leadingText.map Text.trim).filter (!·.isEmpty)

theorem firstChild_eq_head? (name : String) (node : XmlNode) :
    node.firstChild name = (node.childrenNamed name).head? :=
  (List.head?_filter ..).symm

end JunosMcp.Lib.XmlNode

namespace JunosMcp.Srx

open Lib

/-- `is_inactive`. -/
def isInactive (node : XmlNode) : Bool :=
  node.attributeValue "inactive".toList == some "inactive".toList

def readDocument (crates : XmlCrates) (xml : Text) : Except SrxError XmlDocument :=
  (crates.parse xml).mapError fun error => .parse ("roxmltree: ".toList ++ error)

/-- The document of a node's reply; none where the node reports that nothing is configured. -/
def configuredDocument (crates : XmlCrates) (xml : Text) : Except SrxError (Option XmlDocument) := do
  let document ← readDocument crates xml
  match rpcErrorParts document with
  | none => return some document
  | some (tag, message) =>
      if tag = "not-configured".toList then return none
      else throw (.rpc tag "error".toList message)

/-- The first node whose reply is no error. -/
def firstUsable (crates : XmlCrates) : List ReNode → Except SrxError (Option ReNode)
  | [] => .ok none
  | node :: rest => do
      match ← configuredDocument crates (sanitizeRustezXml node.innerXml) with
      | none => firstUsable crates rest
      | some _ => return some node

/-- A child that an element of this reply cannot do without. -/
def required {α : Type} (rpc element : String) : Option α → Except SrxError α
  | some value => .ok value
  | none => .error (.schemaMismatch rpc element)

/-- The configuration of the first node without an error. -/
def usableDocument (crates : XmlCrates) (replyXml : Text) : Option XmlDocument :=
  ((multiReSplit crates replyXml).toOption.bind fun nodes =>
    (firstUsable crates nodes).toOption.join).bind fun node =>
      (crates.parse (sanitizeRustezXml node.innerXml)).toOption

theorem usableDocument_eq {crates : XmlCrates} {replyXml : Text} {nodes : List ReNode}
    {found : Option ReNode} (split : multiReSplit crates replyXml = .ok nodes)
    (usable : firstUsable crates nodes = .ok found) :
    usableDocument crates replyXml =
      found.bind fun node => (crates.parse (sanitizeRustezXml node.innerXml)).toOption := by
  rw [usableDocument, split]
  dsimp only [Except.toOption, Option.bind_some]
  rw [usable]
  rfl

theorem required_ok {α : Type} {rpc element : String} {found : Option α} {value : α}
    (ok : required rpc element found = .ok value) : found = some value := by
  cases found with
  | none => cases ok
  | some v =>
      cases ok
      rfl

theorem readDocument_ok {crates : XmlCrates} {xml : Text} {document : XmlDocument}
    (read : readDocument crates xml = .ok document) : crates.parse xml = .ok document := by
  rw [readDocument] at read
  cases result : crates.parse xml with
  | error error =>
      rw [result] at read
      cases read
  | ok d =>
      rw [result] at read
      cases read
      rfl

theorem configuredDocument_eq {crates : XmlCrates} {xml : Text} {document : XmlDocument} :
    configuredDocument crates xml = .ok (some document) ↔
      crates.parse xml = .ok document ∧ rpcErrorParts document = none := by
  rw [configuredDocument, bind_eq_ok]
  constructor
  · rintro ⟨found, read, reported⟩
    have parsed := readDocument_ok read
    cases parts : rpcErrorParts found with
    | none =>
        rw [parts] at reported
        cases reported
        exact ⟨parsed, parts⟩
    | some error =>
        rw [parts] at reported
        dsimp only at reported
        split at reported
        · cases reported
        · cases reported
  · rintro ⟨parsed, clean⟩
    refine ⟨document, ?_, ?_⟩
    · rw [readDocument, parsed]
      rfl
    · rw [clean]
      rfl

/-- The only node of a standalone device. -/
theorem firstUsable_standalone {crates : XmlCrates} {xml : Text} {document : XmlDocument}
    (clean : sanitizeRustezXml xml = xml) (read : crates.parse xml = .ok document)
    (quiet : rpcErrorParts document = none) :
    firstUsable crates [⟨[], xml⟩] = .ok (some ⟨[], xml⟩) := by
  rw [firstUsable, clean, configuredDocument_eq.mpr ⟨read, quiet⟩]
  rfl

/-! ### A reader of some documents -/

/-- A document as text, for one with nothing to escape. -/
def printed (document : XmlDocument) : Text := writeNodes (readerOf [] []) document

/-- No character of it closes a tag. -/
def staysInTag (token : Text) : Bool := token.all (· != '>')

def tidyTag (name : Text) (attributes : List XmlAttribute) : Bool :=
  opensTag name && staysInTag name &&
    attributes.all fun a => staysInTag a.name && staysInTag a.value

mutual

/-- The element names are names, and no other part has an angle bracket. -/
def tidyNode : XmlNode → Bool
  | .element name attributes children => tidyTag name attributes && tidyNodes children
  | .text content => content.all fun c => c != '<' && c != '>'
  | .comment => true

def tidyNodes : List XmlNode → Bool
  | [] => true
  | node :: rest => tidyNode node && tidyNodes rest

end

theorem bare_inTag {token : Text} (rest : Text) (inside : staysInTag token = true) :
    hasBareAngleBracketsFrom true (token ++ rest) = hasBareAngleBracketsFrom true rest := by
  induction token with
  | nil => rfl
  | cons c token ih =>
      rw [staysInTag, List.all_cons, Bool.and_eq_true] at inside
      obtain ⟨here, later⟩ := inside
      rw [List.cons_append, hasBareAngleBracketsFrom, if_pos rfl, here, ih later]

theorem bare_inText {token : Text} (rest : Text)
    (plain : (token.all fun c => c != '<' && c != '>') = true) :
    hasBareAngleBracketsFrom false (token ++ rest) = hasBareAngleBracketsFrom false rest := by
  induction token with
  | nil => rfl
  | cons c token ih =>
      simp only [List.all_cons, Bool.and_eq_true, bne_iff_ne] at plain
      obtain ⟨⟨noOpen, noClose⟩, later⟩ := plain
      rw [List.cons_append, hasBareAngleBracketsFrom, if_neg (by decide),
        if_neg (by simpa using noOpen), if_neg (by simpa using noClose),
        ih (by simpa only [Bool.and_eq_true, bne_iff_ne] using later)]

theorem bare_tag {token : Text} (rest : Text) (opens : opensTag token = true)
    (inside : staysInTag token = true) :
    hasBareAngleBracketsFrom false ('<' :: (token ++ rest)) =
      hasBareAngleBracketsFrom true rest := by
  rw [hasBareAngleBracketsFrom, if_neg (by decide), if_pos (by decide),
    if_pos (opensTag_append opens), bare_inTag rest inside]

theorem writeAttribute_staysInTag {a : XmlAttribute} (name : staysInTag a.name = true)
    (value : staysInTag a.value = true) :
    staysInTag (writeAttribute (readerOf [] []) a) = true := by
  rw [staysInTag] at name value ⊢
  rw [writeAttribute]
  simp only [List.all_append, readerOf, name, value, Bool.and_true]
  rfl

theorem bare_startTag {name : Text} {attributes : List XmlAttribute} (rest : Text)
    (tidy : tidyTag name attributes = true) :
    hasBareAngleBracketsFrom false (startTag (readerOf [] []) name attributes ++ rest) =
      hasBareAngleBracketsFrom true rest := by
  simp only [tidyTag, Bool.and_eq_true, List.all_eq_true] at tidy
  obtain ⟨⟨opens, inside⟩, values⟩ := tidy
  have written : staysInTag (attributes.flatMap (writeAttribute (readerOf [] []))) = true := by
    rw [staysInTag, List.all_flatMap, List.all_eq_true]
    exact fun a mem => writeAttribute_staysInTag (values a mem).1 (values a mem).2
  have shape : startTag (readerOf [] []) name attributes ++ rest =
      '<' :: (name ++ (attributes.flatMap (writeAttribute (readerOf [] [])) ++ rest)) := by
    simp [startTag]
  rw [shape, bare_tag _ opens inside, bare_inTag _ written]

mutual

/-- Behind a node the scan is outside every tag again. -/
theorem bare_writeNode (rest : Text) : ∀ node : XmlNode, tidyNode node = true →
    hasBareAngleBracketsFrom false (writeNode (readerOf [] []) node ++ rest) =
      hasBareAngleBracketsFrom false rest
  | .element name attributes children, tidy => by
      obtain ⟨tag, below⟩ := (Bool.and_eq_true _ _).mp tidy
      have closes : staysInTag ('/' :: name) = true := by
        simp only [tidyTag, Bool.and_eq_true] at tag
        exact tag.1.2
      have empty : hasBareAngleBracketsFrom true ('/' :: '>' :: rest) =
          hasBareAngleBracketsFrom false rest := rfl
      have ended : hasBareAngleBracketsFrom false ('<' :: (('/' :: name) ++ '>' :: rest)) =
          hasBareAngleBracketsFrom false rest := bare_tag _ rfl closes
      rw [writeNode]
      split
      · rw [List.append_assoc, bare_startTag _ tag]
        exact empty
      · simp only [List.append_assoc]
        rw [bare_startTag _ tag]
        exact (bare_writeNodes _ children below).trans ended
  | .text content, tidy => bare_inText rest tidy
  | .comment, _ => rfl

theorem bare_writeNodes (rest : Text) : ∀ nodes : List XmlNode, tidyNodes nodes = true →
    hasBareAngleBracketsFrom false (writeNodes (readerOf [] []) nodes ++ rest) =
      hasBareAngleBracketsFrom false rest
  | [], _ => rfl
  | node :: nodes, tidy => by
      obtain ⟨first, others⟩ := (Bool.and_eq_true _ _).mp tidy
      rw [writeNodes, List.append_assoc, bare_writeNode _ node first, bare_writeNodes _ nodes others]

end

theorem sanitizeRustezXml_printed {document : XmlDocument} (tidy : tidyNodes document = true)
    (plain : Text.contains (printed document) junosPrefix = false) :
    sanitizeRustezXml (printed document) = printed document := by
  have scanned := bare_writeNodes [] document tidy
  rw [List.append_nil] at scanned
  exact sanitizeRustezXml_clean plain scanned

/-- A printed element starts and ends with a bracket. -/
theorem printed_element (name : Text) (attributes : List XmlAttribute) (children : List XmlNode) :
    ∃ body, printed [.element name attributes children] = '<' :: (body ++ ['>']) := by
  rw [printed, writeNodes, writeNodes, writeNode, List.append_nil]
  split
  · exact ⟨name ++ attributes.flatMap (writeAttribute (readerOf [] [])) ++ ['/'],
      by simp [startTag]⟩
  · exact ⟨name ++ attributes.flatMap (writeAttribute (readerOf [] [])) ++ '>' ::
      (writeNodes (readerOf [] []) children ++ '<' :: '/' :: name), by simp [startTag]⟩

theorem printed_trim (name : Text) (attributes : List XmlAttribute) (children : List XmlNode) :
    Text.trim (printed [.element name attributes children]) =
      printed [.element name attributes children] := by
  obtain ⟨body, shape⟩ := printed_element name attributes children
  have opening : Text.isWhitespace '<' = false := by decide
  have closing : Text.isWhitespace '>' = false := by decide
  rw [shape, Text.trim]
  simp [List.dropWhile, opening, closing]

/-- The reply of a cluster, each node with its own part. -/
def clusterReplyOf (parts : List (String × XmlNode)) : XmlDocument :=
  [.group "multi-routing-engine-results" (parts.map fun (name, inner) =>
    .group "multi-routing-engine-item" [.field "re-name" name, inner])]

def parsePrinted : List XmlDocument → Text → Except Text XmlDocument
  | [], _ => .error "unknown token".toList
  | document :: others, xml =>
      if printed document = xml then .ok document else parsePrinted others xml

def readerOfPrinted (documents : List XmlDocument) : XmlCrates := ⟨parsePrinted documents, id⟩

theorem parsePrinted_here (document : XmlDocument) (others : List XmlDocument) :
    parsePrinted (document :: others) (printed document) = .ok document :=
  if_pos rfl

theorem parsePrinted_later {first : XmlDocument} {others : List XmlDocument} {xml : Text}
    (other : printed first ≠ xml) : parsePrinted (first :: others) xml = parsePrinted others xml :=
  if_neg other

theorem multiReSplit_envelope {crates : XmlCrates} {xml : Text} {document : XmlDocument}
    {envelope : XmlNode} (clean : sanitizeRustezXml xml = xml)
    (read : crates.parse xml = .ok document)
    (first : document.first "multi-routing-engine-results".toList = some envelope) :
    multiReSplit crates xml = .ok ((envelopeItems envelope).map (itemNode crates)) := by
  dsimp only [multiReSplit]
  rw [clean, read]
  simp only [first]

end JunosMcp.Srx
