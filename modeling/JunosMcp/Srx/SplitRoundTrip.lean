import JunosMcp.Lib.XmlWriter
import JunosMcp.Srx.Xml
import Mathlib.Data.List.Forall2

/-!
# What a split reply still says

The part of a routing engine is written as text again, and read again by the parsers of the tools. What
is read is what the reply said, but for comments, the namespaces of attributes, and the characters that
a reader normalises.
-/

namespace JunosMcp.Srx

open Lib Markup

/-! ## The text -/

section Text

variable {crates : XmlCrates}

theorem renderAttributes_written (escapes : ∀ s, crates.escape s = escapeXml s)
    (attributes : List XmlAttribute) :
    renderAttributes (attributes.map writtenAttribute) = attributes.flatMap (writeAttribute crates) := by
  rw [renderAttributes, List.flatMap_map]
  refine List.flatMap_congr fun a _ => ?_
  simp [WrittenAttribute.render, writtenAttribute, writeAttribute, escapes, escapeXml]

mutual

theorem renderAll_writtenBefore (escapes : ∀ s, crates.escape s = escapeXml s) :
    ∀ (node : XmlNode) (rest : List Markup),
      renderAll (writtenBefore node rest) = writeNode crates node ++ renderAll rest
  | .element name attributes children, rest => by
      have inside := renderAll_writtenAll escapes children
      have tags := renderAttributes_written escapes attributes
      rw [writtenBefore, renderAll, writeNode, startTag]
      cases children with
      | nil =>
          simp only [List.isEmpty_nil, if_true, render, tags]
          simp
      | cons child children =>
          simp only [List.isEmpty_cons, Bool.false_eq_true, if_false, render, tags, inside]
          simp
  | .text content, rest => by
      rw [writtenBefore, renderAll_joinChars, writeNode, escapes, escapeXml]
  | .comment, rest => by
      rw [writtenBefore, writeNode, List.nil_append]

theorem renderAll_writtenAll (escapes : ∀ s, crates.escape s = escapeXml s) :
    ∀ nodes : List XmlNode, renderAll (writtenAll nodes) = writeNodes crates nodes
  | [] => by rw [writtenAll, renderAll, writeNodes]
  | node :: rest => by
      rw [writtenAll, renderAll_writtenBefore escapes node, renderAll_writtenAll escapes rest,
        writeNodes]

end

end Text

/-! ## The parts of a reply -/

/-- The crates read well-formed markup as the tree it stands for, and escape with the predefined
entities. -/
structure Reads (crates : XmlCrates) : Prop where
  document : ∀ m : Markup, m.isElement = true → m.WellFormed → Unprefixed m →
    crates.parse m.render = .ok [m.tree]
  escapes : ∀ s, crates.escape s = escapeXml s

def wrapper : Text := "_".toList

/-- One element around the text of nodes. -/
def wrapped (nodes : List XmlNode) : Markup := .element wrapper [] [] (writtenAll nodes) (some [])

theorem wrapped_render {crates : XmlCrates} (reads : Reads crates) (nodes : List XmlNode) :
    (wrapped nodes).render = "<_>".toList ++ writeNodes crates nodes ++ "</_>".toList := by
  rw [wrapped, render, renderAll_writtenAll reads.escapes]
  simp [wrapper, renderAttributes]

theorem parse_wrapped {crates : XmlCrates} (reads : Reads crates) {nodes : List XmlNode}
    (readable : ReadableAll nodes) :
    crates.parse ("<_>".toList ++ writeNodes crates nodes ++ "</_>".toList) =
      .ok [.element wrapper [] (trees (writtenAll nodes))] := by
  have tags : WellFormedTags wrapper [] [] (some []) := ⟨by decide, nofun, List.nodup_nil, nofun⟩
  have formed : (wrapped nodes).WellFormed := ⟨tags, (sound_writtenAll nodes readable).formed, nofun⟩
  have names : Unprefixed (wrapped nodes) :=
    ⟨by decide, nofun, unprefixed_writtenAll nodes readable⟩
  rw [← wrapped_render reads, reads.document _ rfl formed names]
  rfl

theorem parse_element {crates : XmlCrates} (reads : Reads crates) {node : XmlNode}
    (element : node.isElement = true) (readable : Readable node) :
    crates.parse (writeNodes crates [node]) = .ok (trees (writtenAll [node])) := by
  have formed := (sound_writtenAll [node] ⟨readable, trivial⟩).formed
  have prefixes := unprefixed_writtenAll [node] ⟨readable, trivial⟩
  cases node with
  | element name attributes children =>
      have text := renderAll_writtenAll reads.escapes [.element name attributes children]
      have read := reads.document _ rfl formed.1 prefixes.1
      rw [← text, writtenAll, writtenAll, writtenBefore, renderAll, renderAll, List.append_nil]
      exact read
  | text content => cases element
  | comment => cases element

/-- What the part of a routing engine is made of. -/
def partsOf (item : XmlNode) : List XmlNode := item.children.filter fun node => !isReName node

/-- The part is named as its item, and its text is read as what is in the item, unless a character in
there is normalised. -/
structure Carries (crates : XmlCrates) (item : XmlNode) (part : ReNode) : Prop where
  name : part.reName = Text.trim (((item.child "re-name".toList).bind XmlNode.leadingText).getD [])
  content : ∃ children,
    crates.parse ("<_>".toList ++ part.innerXml ++ "</_>".toList) =
      .ok [.element wrapper [] children] ∧
    (∀ node, partsOf item = [node] → node.isElement = true →
      crates.parse part.innerXml = .ok children) ∧
    (children = seenAll (partsOf item) ↔ StableAll (partsOf item))

theorem itemNode_carries {crates : XmlCrates} (reads : Reads crates) {item : XmlNode}
    (readable : ReadableAll (partsOf item)) : Carries crates item (itemNode crates item) where
  name := rfl
  content := by
    refine ⟨_, parse_wrapped reads readable, fun node alone element => ?_, trees_writtenAll _⟩
    have here : crates.parse (writeNodes crates (partsOf item)) =
        .ok (trees (writtenAll (partsOf item))) := by
      rw [alone] at readable ⊢
      exact parse_element reads element readable.1
    exact here

/-- Each routing engine that answered has its part, in the order of the reply, and the part says what it
answered. -/
theorem multiReSplit_carries {crates : XmlCrates} (reads : Reads crates) {xml : Text}
    {document : XmlDocument} {envelope : XmlNode}
    (parsed : crates.parse (sanitizeRustezXml xml) = .ok document)
    (clustered : document.first "multi-routing-engine-results".toList = some envelope)
    (readable : ∀ item ∈ envelopeItems envelope, ReadableAll (partsOf item)) :
    ∃ nodes, multiReSplit crates xml = .ok nodes ∧
      List.Forall₂ (Carries crates) (envelopeItems envelope) nodes := by
  refine ⟨(envelopeItems envelope).map (itemNode crates), ?_, ?_⟩
  · dsimp only [multiReSplit]
    rw [parsed]
    simp only [clustered]
  · rw [List.forall₂_map_right_iff, List.forall₂_same]
    exact fun item mem => itemNode_carries reads (readable item mem)

/-! ### A reply of two nodes -/

/-- The crates, as far as a reply is read here. -/
def plainCrates : XmlCrates where
  parse xml := match readMarkup xml with
    | some document => .ok document
    | none => .error "unknown token".toList
  escape := escapeXml

theorem plainCrates_reads : Reads plainCrates where
  document m element formed _ := by
    dsimp only [plainCrates]
    rw [readMarkup_render formed element]
  escapes _ := rfl

/-- A part with an attribute that is written escaped, and the name with a blank around it. -/
def partNode : XmlNode := .element ['a'] [⟨none, ['k'], ['<']⟩] [.text ['x']]

def itemOf (name : Text) (parts : List XmlNode) : XmlNode :=
  .element "multi-routing-engine-item".toList [] (.element "re-name".toList [] [.text name] :: parts)

def twoNodes : XmlNode :=
  .element "multi-routing-engine-results".toList []
    [itemOf [' ', 'n'] [partNode], itemOf ['m'] []]

theorem readable_item {name : Text} {parts : List XmlNode} (some : name ≠ [])
    (xml : ∀ c ∈ name, isXmlChar c = true) (readable : ReadableAll parts) : Readable (itemOf name parts) :=
  ⟨by decide, nofun, List.nodup_nil, ⟨by decide, nofun, List.nodup_nil, ⟨some, xml⟩, trivial⟩, readable⟩

theorem partNode_readable : ReadableAll [partNode] := by
  have value : ∀ c ∈ ['<'], isXmlChar c = true := List.forall_mem_singleton.mpr rfl
  have text : ∀ c ∈ ['x'], isXmlChar c = true := List.forall_mem_singleton.mpr rfl
  refine ⟨⟨by decide, fun a mem => ?_, by decide, ⟨List.cons_ne_nil _ _, text⟩, trivial⟩, trivial⟩
  obtain rfl := List.mem_singleton.mp mem
  exact ⟨by decide, by decide, value⟩

theorem twoNodes_readable : ReadableAll [twoNodes] := by
  have xml : ∀ c ∈ [' ', 'n'], isXmlChar c = true := by simp [isXmlChar]
  have first := readable_item (List.cons_ne_nil ' ' ['n']) xml partNode_readable
  have nothing : ReadableAll [] := trivial
  have second := readable_item (List.cons_ne_nil 'm' []) (List.forall_mem_singleton.mpr rfl) nothing
  exact ⟨⟨by decide, nofun, List.nodup_nil, first, second, trivial⟩, trivial⟩

theorem twoNodes_stable : StableAll [twoNodes] := by
  simp [StableAll, Stable, twoNodes, itemOf, partNode, lineEnds]

def twoNodesText : Text := writeNodes plainCrates [twoNodes]

theorem parse_twoNodes : plainCrates.parse (sanitizeRustezXml twoNodesText) = .ok [twoNodes] := by
  have seen : trees (writtenAll [twoNodes]) = seenAll [twoNodes] :=
    (trees_writtenAll _).mpr twoNodes_stable
  rw [sanitizeRustezXml_clean (by decide) (by decide), twoNodesText,
    parse_element plainCrates_reads rfl twoNodes_readable.1, seen]
  rfl

/-- The parts of a reply of two nodes, the second with nothing but its name. -/
theorem multiReSplit_carries_two : ∃ nodes, multiReSplit plainCrates twoNodesText = .ok nodes ∧
    List.Forall₂ (Carries plainCrates) [itemOf [' ', 'n'] [partNode], itemOf ['m'] []] nodes := by
  refine multiReSplit_carries plainCrates_reads parse_twoNodes rfl fun item mem => ?_
  rcases List.mem_pair.mp mem with rfl | rfl
  · exact partNode_readable
  · trivial

end JunosMcp.Srx
