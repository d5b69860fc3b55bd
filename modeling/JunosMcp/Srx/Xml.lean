import JunosMcp.Lib.XmlTree
import JunosMcp.Srx.Errors

/-!
# Replies as documents

A reply of the device is text. It is sanitised, read, and, where several routing engines answer,
split into the parts of each, which are written as text again for the parsers of the tools.
-/

namespace JunosMcp.Srx

open Lib

/-- What reading and writing XML takes from other crates. -/
structure XmlCrates where
  /-- `roxmltree::Document::parse`; an error is its `Display`. -/
  parse : Text → Except Text XmlDocument
  /-- The escaping `quick_xml` does for text content and for attribute values. -/
  escape : Text → Text

/-! ## Sanitising -/

/-- The character a legitimate tag goes on with after its `<`. -/
def opensTag : Text → Bool
  | [] => false
  | c :: _ => c == '/' || c == '?' || c == '!' || (c.isAlphanum) || c == '_'

theorem opensTag_append {name rest : Text} (opens : opensTag name = true) :
    opensTag (name ++ rest) = true := by
  cases name with
  | nil => cases opens
  | cons c name => exact opens

/-- `has_bare_angle_brackets_in_text`. -/
def hasBareAngleBracketsFrom (inTag : Bool) : Text → Bool
  | [] => false
  | c :: rest =>
      if inTag then hasBareAngleBracketsFrom (c != '>') rest
      else if c == '<' then
        if opensTag rest then hasBareAngleBracketsFrom true rest else true
      else if c == '>' then true
      else hasBareAngleBracketsFrom false rest

def hasBareAngleBracketsInText (xml : Text) : Bool := hasBareAngleBracketsFrom false xml

def escapeAngleBracket : Char → Text
  | '<' => "&lt;".toList
  | '>' => "&gt;".toList
  | c => [c]

/-- The loop of `escape_text_angle_brackets`. A `<` that opens a tag ends a text segment, and the
next `>` ends the tag. -/
def escapeTextFrom (inText : Bool) : Text → Text
  | [] => []
  | c :: rest =>
      if inText then
        if c == '<' && opensTag rest then c :: escapeTextFrom false rest
        else escapeAngleBracket c ++ escapeTextFrom true rest
      else c :: escapeTextFrom (c == '>') rest

def escapeTextAngleBrackets (xml : Text) : Text :=
  escapeTextFrom (!Text.startsWith xml ['<']) xml

def isAsciiWhitespace (c : Char) : Bool :=
  c == ' ' || c == '\t' || c == '\n' || c == '\x0c' || c == '\r'

/-- What follows the closing quote. -/
def afterQuote (quote : Char) : Text → Text
  | [] => []
  | c :: rest => if c == quote then rest else afterQuote quote rest

/-- The rest of the text behind `find_attr_end`. -/
def afterAttribute (s : Text) : Text :=
  match s.dropWhile (· != '=') with
  | [] => []
  | _ :: [] => []
  | _ :: quote :: rest =>
      if quote == '"' || quote == Char.ofNat 39 then afterQuote quote rest
      else (quote :: rest).dropWhile fun c => !isAsciiWhitespace c && c != '>'

def junosPrefix : Text := "junos:".toList

/-- The loop of `simple_strip_junos`, with a bound on its rounds: each takes a prefix away. -/
def stripJunosFrom : Nat → Text → Text
  | 0, xml => xml
  | rounds + 1, xml =>
      match xml with
      | [] => []
      | c :: rest =>
          if Text.startsWith (c :: rest) junosPrefix then
            stripJunosFrom rounds ((afterAttribute (c :: rest)).dropWhile (· == ' '))
          else c :: stripJunosFrom rounds rest

def simpleStripJunos (xml : Text) : Text := stripJunosFrom xml.length xml

def sanitizeRustezXml (xml : Text) : Text :=
  let needsNsStrip := Text.contains xml junosPrefix
  let needsTextEscape := hasBareAngleBracketsInText xml
  let afterNs := if needsNsStrip then simpleStripJunos xml else xml
  if needsTextEscape then escapeTextAngleBrackets afterNs else afterNs

theorem sanitizeRustezXml_clean {xml : Text} (plain : Text.contains xml junosPrefix = false)
    (tidy : hasBareAngleBracketsInText xml = false) : sanitizeRustezXml xml = xml := by
  simp [sanitizeRustezXml, plain, tidy]

/-! ## Splitting -/

structure ReNode where
  reName : Text
  innerXml : Text
deriving DecidableEq

section Read

variable (crates : XmlCrates)

def writeAttribute (a : XmlAttribute) : Text :=
  " ".toList ++ a.name ++ "=\"".toList ++ crates.escape a.value ++ "\"".toList

def startTag (name : Text) (attributes : List XmlAttribute) : Text :=
  "<".toList ++ name ++ attributes.flatMap (writeAttribute crates)

mutual

/-- `write_node`: comments are left out. -/
def writeNode : XmlNode → Text
  | .element name attributes children =>
      if children.isEmpty then startTag crates name attributes ++ "/>".toList
      else startTag crates name attributes ++ ">".toList ++ writeNodes children ++
        "</".toList ++ name ++ ">".toList
  | .text content => crates.escape content
  | .comment => []

def writeNodes : List XmlNode → Text
  | [] => []
  | node :: rest => writeNode node ++ writeNodes rest

end

def isReName (node : XmlNode) : Bool := node.named "re-name".toList

def itemNode (item : XmlNode) : ReNode where
  reName := Text.trim (((item.child "re-name".toList).bind XmlNode.leadingText).getD [])
  innerXml := writeNodes crates (item.children.filter fun node => !isReName node)

def envelopeItems (envelope : XmlNode) : List XmlNode :=
  envelope.children.filter (XmlNode.named "multi-routing-engine-item".toList)

def multiReSplit (replyXml : Text) : Except SrxError (List ReNode) :=
  let replyXml := sanitizeRustezXml replyXml
  match crates.parse replyXml with
  | .error error => .error (.parse error)
  | .ok document => .ok <|
      match document.first "multi-routing-engine-results".toList with
      | none => [⟨[], replyXml⟩]
      | some envelope => (envelopeItems envelope).map (itemNode crates)

/-- A text that is no document is read as the content of an element. -/
def readFragment (xml : Text) : Except Text XmlDocument :=
  match crates.parse xml with
  | .ok document => .ok document
  | .error _ => crates.parse ("<_>".toList ++ xml ++ "</_>".toList)

def textOf (xml name : Text) : Option Text :=
  match readFragment crates xml with
  | .error _ => none
  | .ok document => ((document.first name).bind XmlNode.leadingText).map Text.trim

variable {crates}

theorem readFragment_document {xml : Text} {document : XmlDocument}
    (read : crates.parse xml = .ok document) : readFragment crates xml = .ok document := by
  rw [readFragment, read]

/-- The reply of a standalone device is its own only part. -/
theorem multiReSplit_standalone {xml : Text} {document : XmlDocument}
    (clean : sanitizeRustezXml xml = xml) (read : crates.parse xml = .ok document)
    (alone : document.first "multi-routing-engine-results".toList = none) :
    multiReSplit crates xml = .ok [⟨[], xml⟩] := by
  dsimp only [multiReSplit]
  rw [clean, read]
  simp only [alone]

end Read

/-! ## Errors of the device -/

def isRpcError (node : XmlNode) : Bool := node.named "rpc-error".toList

/-- The trimmed text of the first element of this name in or below the node. -/
def textBelow (name : Text) (node : XmlNode) : Option Text :=
  ((node.descendants.find? (XmlNode.named name)).bind XmlNode.leadingText).map Text.trim

/-- The tag and the reason of an error that is the root or one of its children. -/
def rpcErrorParts (document : XmlDocument) : Option (Text × Text) :=
  document.root.bind fun root =>
    (if isRpcError root then some root else root.children.find? isRpcError).map fun error =>
      let reason := match textBelow "error-message".toList error,
          textBelow "bad-element".toList error with
        | some m, some b => "rpc-error: ".toList ++ m ++ " (bad-element: ".toList ++ b ++ ")".toList
        | some m, none => "rpc-error: ".toList ++ m
        | none, some b => "rpc-error: bad-element=".toList ++ b
        | none, none => "rpc-error (unknown)".toList
      ((textBelow "error-tag".toList error).getD [], reason)

/-! ### A reader of one text -/

def readerOf (text : Text) (document : XmlDocument) : XmlCrates where
  parse xml := if xml = text then .ok document else .error "unknown token".toList
  escape xml := xml

theorem readerOf_parse (text : Text) (document : XmlDocument) :
    (readerOf text document).parse text = .ok document := by
  dsimp only [readerOf]
  rw [if_pos rfl]

end JunosMcp.Srx
