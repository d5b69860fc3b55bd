import JunosMcp.Lib.Layers
import JunosMcp.Srx.Configuration
import JunosMcp.Srx.Resolve

/-!
# `srx_resolve_address`

The name of an address or an address set is resolved in the book of a zone, or in the global one. A
table of the source is the list of what is inserted; the last insertion under a name counts.
-/

namespace JunosMcp.Srx.ResolveAddress

open Lib

/-- `DEFAULT_ADDRESS_MEMBER_CAP`. -/
def defaultAddressMemberCap : Nat := 1000

structure AddressResolveArgs where
  router : Text
  name : Text
  zone : Option Text
  includeRaw : Bool

inductive AddressScope where
  | global
  | zone (zone book : Text)
deriving DecidableEq

inductive AddressKind where
  | address
  | addressSet
deriving DecidableEq

inductive AddressValue where
  | pfx (network : IpNet)
  | range (start stop : IpAddr)
  | wildcard (address : Text)
  | dns (name : Text)
deriving DecidableEq

structure ResolvedAddress where
  name : Text
  value : AddressValue
  active : Bool
deriving DecidableEq

structure AddressResolution where
  requested : Text
  scope : AddressScope
  kind : AddressKind
  members : List ResolvedAddress
  truncated : Bool

abbrev AddressNode := ConfigNode ResolvedAddress

abbrev AddressEntries := List (Text × AddressNode)

/-! ## Addresses -/

section Read

variable (ipNet : Text → Option IpNet)

def parseIp (what : String) (text : Text) : Except SrxError IpAddr :=
  match IpAddr.parse text with
  | some address => .ok address
  | none => .error (.parse (what.toList ++ text))

def parseRange (rangeNode : XmlNode) : Except SrxError AddressValue := do
  let start ← required configurationRpc "range-address/name" (rangeNode.childText "name")
  let upperNode ← required configurationRpc "range-address-upper"
    (rangeNode.firstChild "range-address-upper")
  let stop ← required configurationRpc "range-address-upper/name" (upperNode.childText "name")
  let startIp ← parseIp "invalid range start: " start
  let stopIp ← parseIp "invalid range end: " stop
  return .range startIp stopIp

def parseAddressValue (addrNode : XmlNode) : Except SrxError AddressValue :=
  match addrNode.childText "ip-prefix" with
  | some text => match ipNet text with
      | some network => .ok (.pfx network)
      | none => .error (.parse ("invalid ip-prefix: ".toList ++ text))
  | none => match addrNode.firstChild "range-address" with
      | some rangeNode => parseRange rangeNode
      | none => match addrNode.firstChild "wildcard-address" with
          | some wcNode => do
              let address ← required configurationRpc "wildcard-address/name"
                (wcNode.childText "name")
              return .wildcard address
          | none => match addrNode.firstChild "dns-name" with
              | some dnsNode => do
                  let name ← required configurationRpc "dns-name/name" (dnsNode.childText "name")
                  return .dns name
              | none => .error (.schemaMismatch configurationRpc
                  "address value (ip-prefix|range-address|wildcard-address|dns-name)")

def isMember (node : XmlNode) : Bool :=
  node.named "address".toList || node.named "address-set".toList

def setMembers (set : XmlNode) : List Text :=
  (set.elements.filter isMember).filterMap (XmlNode.childText "name")

/-- What a child of a book defines. -/
def entryOf (child : XmlNode) : Except SrxError (Option (Text × AddressNode)) :=
  if child.named "address".toList then do
    let name ← required configurationRpc "address/name" (child.childText "name")
    let value ← parseAddressValue ipNet child
    return some (name, .leaf ⟨name, value, !isInactive child⟩)
  else if child.named "address-set".toList then do
    let name ← required configurationRpc "address-set/name" (child.childText "name")
    return some (name, .set (setMembers child))
  else return none

def parseAddressBook (bookNode : XmlNode) : Except SrxError AddressEntries := do
  let entries ← bookNode.elements.mapM (entryOf ipNet)
  return entries.reduceOption

/-! ## Books -/

structure AddressBooks where
  global : AddressEntries
  zoneInline : List (Text × AddressEntries)
  namedBooks : List (Text × AddressEntries)
  /-- The zones a top-level book is attached to, each with the name of the book. -/
  attach : List (Text × Text)

def AddressBooks.empty : AddressBooks := ⟨[], [], [], []⟩

/-- The book to search for a zone, with its label. -/
def AddressBooks.resolveZone (books : AddressBooks) (zone : Text) :
    Option (Text × AddressEntries) :=
  match lastUnder zone books.zoneInline with
  | some entries => some (zone ++ " (zone-inline)".toList, entries)
  | none =>
      match (lastUnder zone books.attach).bind fun bookName =>
          (lastUnder bookName books.namedBooks).map fun entries => (bookName, entries) with
      | some attached => some attached
      | none => if books.global.isEmpty then none else some ("global".toList, books.global)

/-- The texts of the zones a book is attached to. -/
def attachedZones (book : XmlNode) : List Text :=
  (((book.childrenNamed "attach").flatMap (XmlNode.childrenNamed "zone")).filterMap
    XmlNode.leadingText).map Text.trim

/-- A book directly under `security`: the global one, or one with a name. -/
def addBook (books : AddressBooks) (book : XmlNode) : Except SrxError AddressBooks := do
  let bookName := (book.childText "name").getD []
  let entries ← parseAddressBook ipNet book
  if bookName = "global".toList ∨ bookName = [] then
    return { books with global := books.global ++ entries }
  else return { books with
    attach := books.attach ++ (attachedZones book).map fun zone => (zone, bookName)
    namedBooks := books.namedBooks ++ [(bookName, entries)] }

def addZone (books : AddressBooks) (zoneNode : XmlNode) : Except SrxError AddressBooks := do
  let zoneName ← required configurationRpc "security-zone/name" (zoneNode.childText "name")
  match zoneNode.firstChild "address-book" with
  | some book =>
      let entries ← parseAddressBook ipNet book
      return { books with zoneInline := books.zoneInline ++ [(zoneName, entries)] }
  | none => return books

/-- The books directly under `security`. -/
def securityBooks (document : XmlDocument) : List XmlNode :=
  (document.all "security".toList).flatMap (XmlNode.childrenNamed "address-book")

def securityZones (document : XmlDocument) : List XmlNode := document.all "security-zone".toList

/-- `parse_address_books`, from the document on. -/
def parseAddressBooks (document : XmlDocument) : Except SrxError AddressBooks := do
  let books ← (securityBooks document).foldlM (addBook ipNet) .empty
  (securityZones document).foldlM (addZone ipNet) books

end Read

/-! ## Resolving -/

/-- What is searched, as what, and under which label. -/
structure ChosenBook where
  entries : AddressEntries
  scope : AddressScope
  label : Text

/-- The book for a name; an error is the reason why none is configured. -/
def chosenBook (books : AddressBooks) (name : Text) : Option Text → Except Text ChosenBook
  | some z => match books.resolveZone z with
      | none => .error ("zone '".toList ++ z ++ "' has no address-book configured ".toList ++
          "(no inline book, no book ".toList ++ "attached to it, and no global book)".toList)
      | some (bookName, entries) =>
          if (lastUnder name entries).isNone && (lastUnder name books.global).isSome then
            .ok ⟨books.global, .zone z "global".toList,
              "global address-book (zone '".toList ++ z ++ "')".toList⟩
          else .ok ⟨entries, .zone z bookName,
            "address-book '".toList ++ bookName ++ "' (zone '".toList ++ z ++ "')".toList⟩
  | none =>
      if books.global.isEmpty then .error "no global address-book configured".toList
      else .ok ⟨books.global, .global, "global address-book".toList⟩

def kindOf : AddressNode → AddressKind
  | .leaf _ => .address
  | .set _ => .addressSet

def resolveIn (router name : Text) (chosen : ChosenBook) : Except SrxError AddressResolution :=
  match lastUnder name chosen.entries with
  | none => .error (.resolutionNameNotFound router name chosen.label)
  | some node => do
      let (leaves, truncated) ← resolve router (fun key => lastUnder key chosen.entries)
        chosen.label name defaultAddressMemberCap
      return ⟨name, chosen.scope, kindOf node, leaves.map Prod.snd, truncated⟩

def parse (crates : ConfigCrates) (router name : Text) (zone : Option Text) (replyXml : Text) :
    Except SrxError (SrxToolResponse AddressResolution) := do
  let reNodes ← multiReSplit crates.toXmlCrates replyXml
  match ← firstUsable crates.toXmlCrates reNodes with
  | none =>
      return .notConfigured "no node returned address-book configuration without an error".toList
  | some node =>
      let document ← readDocument crates.toXmlCrates (sanitizeRustezXml node.innerXml)
      let books ← parseAddressBooks crates.ipNet document
      match chosenBook books name zone with
      | .error reason => return .notConfigured reason
      | .ok chosen =>
          let resolution ← resolveIn router name chosen
          return .active resolution

/-! ## The workflow -/

def filter : String :=
  "<security><address-book/><zones><security-zone><address-book/></security-zone></zones></security>"

def run (crates : ConfigCrates) (args : AddressResolveArgs) :
    DeviceProg (SrxToolResponse AddressResolution) :=
  if (Text.trim args.router).isEmpty then
    .pure (.error (.invalidInput "router must not be empty".toList))
  else if (Text.trim args.name).isEmpty then
    .pure (.error (.invalidInput "name must not be empty".toList))
  else openExecutor.andThen fun _ =>
    (getConfigurationSubtree filter).andThen fun reply =>
    .pure ((parse crates args.router args.name args.zone reply).map fun parsed =>
      if args.includeRaw then parsed.withRaw reply else parsed)

end JunosMcp.Srx.ResolveAddress
