import JunosMcp.Lib.XmlWriter
import JunosMcp.Srx.PolicyMatch

/-!
# What the queries send

The arguments of the flow-session and the policy-match query come from the caller. Whatever the
caller gives, the values that reach the device are made of letters, digits and separators of
addresses and names, which stand for themselves in XML.
-/

namespace JunosMcp.Srx

open Lib

def isPlain (c : Char) : Bool :=
  c.isAlphanum || c == '.' || c == '-' || c == '_' || c == ':' || c == '/' || c == '+'

def Plain (text : Text) : Prop := ∀ c ∈ text, isPlain c = true

/-- The text is taken from the front of another, of plain characters only. -/
def PlainUpTo (text rest : Text) : Prop := ∃ front, text = front ++ rest ∧ Plain front

/-- Values of arguments are plain, and no payload is sent. -/
def SendsPlain : DeviceOp → Prop
  | .rpc => True
  | .call _ args => ∀ arg ∈ args, Plain arg.2
  | .callXml _ => False

/-! ## Plain texts -/

theorem isPlain_alphanum {c : Char} (alphanum : c.isAlphanum = true) : isPlain c = true := by
  simp [isPlain, alphanum]

theorem isPlain_digit {c : Char} (digit : c.isDigit = true) : isPlain c = true :=
  isPlain_alphanum (by simp [Char.isAlphanum, digit])

theorem plain_nil : Plain [] := List.forall_mem_nil _

theorem plain_of_all {text : Text} (all : text.all isPlain = true) : Plain text :=
  List.all_eq_true.mp all

theorem Plain.cons {c : Char} {text : Text} (here : isPlain c = true) (rest : Plain text) :
    Plain (c :: text) := List.forall_mem_cons.mpr ⟨here, rest⟩

theorem Plain.append {first second : Text} (here : Plain first) (there : Plain second) :
    Plain (first ++ second) := by
  intro c member
  rcases List.mem_append.mp member with early | late
  · exact here c early
  · exact there c late

theorem Plain.of_append {first second : Text} (plain : Plain (first ++ second)) : Plain first :=
  fun c member => plain c (List.mem_append_left _ member)

theorem Plain.intercalate {separator : Text} (between : Plain separator) {parts : List Text}
    (each : ∀ part ∈ parts, Plain part) : Plain (List.intercalate separator parts) := by
  induction parts with
  | nil => exact plain_nil
  | cons part rest ih =>
      obtain ⟨here, later⟩ := List.forall_mem_cons.mp each
      cases rest with
      | nil =>
          rw [List.intercalate_singleton]
          exact here
      | cons next rest =>
          rw [List.intercalate_cons_cons]
          exact (here.append between).append (ih later)

theorem PlainUpTo.refl (text : Text) : PlainUpTo text text := ⟨[], rfl, plain_nil⟩

theorem PlainUpTo.trans {text middle rest : Text} (first : PlainUpTo text middle)
    (second : PlainUpTo middle rest) : PlainUpTo text rest := by
  obtain ⟨front, rfl, here⟩ := first
  obtain ⟨back, rfl, there⟩ := second
  exact ⟨front ++ back, (List.append_assoc ..).symm, here.append there⟩

theorem PlainUpTo.cons {c : Char} {text rest : Text} (here : isPlain c = true)
    (later : PlainUpTo text rest) : PlainUpTo (c :: text) rest := by
  obtain ⟨front, rfl, plain⟩ := later
  exact ⟨c :: front, rfl, plain.cons here⟩

theorem PlainUpTo.plain {text : Text} (all : PlainUpTo text []) : Plain text := by
  obtain ⟨front, rfl, plain⟩ := all
  rwa [List.append_nil]

/-! ## Addresses -/

section Addresses
open IpAddr

theorem toDigit_plain {radix : Nat} {c : Char} (read : (toDigit radix c).isSome = true) :
    isPlain c = true := by
  apply isPlain_alphanum
  have alphanum : c.isAlphanum = ((c.isUpper || c.isLower) || c.isDigit) := rfl
  rw [toDigit] at read
  rw [alphanum]
  by_cases digit : c.isDigit = true
  · rw [digit, Bool.or_true]
  · by_cases lower : 'a' ≤ c ∧ c ≤ 'f'
    · have upTo : c ≤ 'z' := Char.le_trans lower.2 (by decide)
      have isLower : c.isLower = true :=
        Bool.and_eq_true_iff.mpr ⟨decide_eq_true lower.1, decide_eq_true upTo⟩
      rw [isLower, Bool.or_true, Bool.true_or]
    · by_cases upper : 'A' ≤ c ∧ c ≤ 'F'
      · have upTo : c ≤ 'Z' := Char.le_trans upper.2 (by decide)
        have isUpper : c.isUpper = true := decide_eq_true ⟨upper.1, upTo⟩
        rw [isUpper, Bool.true_or, Bool.true_or]
      · simp [digit, lower, upper] at read

theorem readNumber_plain {radix maxDigits bits value : Nat} {allowZeroPrefix : Bool}
    {text rest : Text}
    (read : readNumber radix maxDigits bits allowZeroPrefix text = some (value, rest)) :
    PlainUpTo text rest := by
  have front : text = (text.takeWhile fun c => (toDigit radix c).isSome) ++
      text.drop (text.takeWhile fun c => (toDigit radix c).isSome).length :=
    (List.prefix_iff_eq_append.mp (List.takeWhile_prefix _)).symm
  simp only [readNumber] at read
  split at read
  · cases read
  · split at read
    · cases read
    · split at read
      · cases read
        exact ⟨_, front, fun c member => toDigit_plain (List.all_eq_true.mp List.all_takeWhile c member)⟩
      · cases read

theorem readSeparator_plain {α : Type} {separator : Char} {index : Nat}
    {inner : Text → Option (α × Text)} {text rest : Text} {value : α}
    (between : isPlain separator = true)
    (reads : ∀ text value rest, inner text = some (value, rest) → PlainUpTo text rest)
    (read : readSeparator separator index inner text = some (value, rest)) :
    PlainUpTo text rest := by
  rw [readSeparator.eq_def] at read
  split at read
  · exact reads _ _ _ read
  · cases text with
    | nil => cases read
    | cons c text =>
        dsimp only at read
        split at read
        · rename_i same
          rw [eq_of_beq same]
          exact (reads _ _ _ read).cons between
        · cases read

theorem readOctets_plain {left index : Nat} {text rest : Text} {octets : List Nat}
    (read : readOctets left index text = some (octets, rest)) : PlainUpTo text rest := by
  induction left generalizing index text octets with
  | zero =>
      cases read
      exact .refl _
  | succ left ih =>
      rw [readOctets] at read
      obtain ⟨⟨octet, middle⟩, first, read⟩ := Option.bind_eq_some_iff.mp read
      obtain ⟨⟨others, last⟩, second, read⟩ := Option.bind_eq_some_iff.mp read
      cases read
      have here := readSeparator_plain (by decide) (fun _ _ _ => readNumber_plain) first
      exact here.trans (ih second)

theorem readIpv4Addr_plain {text rest : Text} {octets : List Nat}
    (read : readIpv4Addr text = some (octets, rest)) : PlainUpTo text rest :=
  readOctets_plain read

/-- The groups are read as far as they go, so there is always a front. -/
theorem readGroups_plain (left index : Nat) (text : Text) :
    PlainUpTo text (readGroups left index text).2.2 := by
  induction left generalizing index text with
  | zero => exact .refl _
  | succ left ih =>
      rw [readGroups]
      split
      · rename_i octets rest embedded
        by_cases more : 0 < left
        · rw [if_pos more] at embedded
          exact readSeparator_plain (by decide) (fun _ _ _ => readIpv4Addr_plain) embedded
        · rw [if_neg more] at embedded
          cases embedded
      · split
        · exact .refl _
        · rename_i group rest read
          have here := readSeparator_plain (by decide) (fun _ _ _ => readNumber_plain) read
          exact here.trans (ih (index + 1) rest)

theorem readIpv6Addr_plain {text rest : Text} {segments : List Nat}
    (read : readIpv6Addr text = some (segments, rest)) : PlainUpTo text rest := by
  have front := readGroups_plain 8 0 text
  rw [readIpv6Addr] at read
  generalize readGroups 8 0 text = groups at front read
  obtain ⟨segmentsRead, embedded, middle⟩ := groups
  dsimp only at front read
  split at read
  · cases read
    exact front
  · split at read
    · cases read
    · split at read
      · rename_i behind
        cases read
        have back := readGroups_plain (7 - segmentsRead.length) 0 behind
        exact front.trans ((back.cons (by decide)).cons (by decide))
      · cases read

/-- An address is written with plain characters. -/
theorem parse_plain {text : Text} {address : IpAddr} (read : parse text = some address) :
    Plain text := by
  rw [parse, readIpAddr] at read
  cases four : readIpv4Addr text with
  | some found =>
      obtain ⟨octets, rest⟩ := found
      rw [four] at read
      cases rest with
      | nil => exact (readIpv4Addr_plain four).plain
      | cons c rest => cases read
  | none =>
      rw [four] at read
      cases six : readIpv6Addr text with
      | none =>
          rw [six] at read
          cases read
      | some found =>
          obtain ⟨segments, rest⟩ := found
          rw [six] at read
          cases rest with
          | nil => exact (readIpv6Addr_plain six).plain
          | cons c rest => cases read

theorem repr_plain (n : Nat) : Plain (Nat.repr n).toList := by
  intro c member
  rw [Nat.repr_eq_ofList_toDigits, String.toList_ofList] at member
  exact isPlain_digit (Nat.isDigit_of_mem_toDigits (by decide) (by decide) member)

theorem digitChar_plain {n : Nat} (small : n < 16) : isPlain n.digitChar = true := by
  have each : ∀ k : Fin 16, isPlain (Nat.digitChar k) = true := by decide
  exact each ⟨n, small⟩

theorem toDigits_plain (n : Nat) : Plain (Nat.toDigits 16 n) := by
  induction n using Nat.strongRecOn with
  | ind n ih =>
      by_cases small : n < 16
      · rw [Nat.toDigits_of_lt_base small]
        exact plain_nil.cons (digitChar_plain small)
      · rw [Nat.toDigits_of_base_le (by decide) (Nat.le_of_not_lt small)]
        have less : n / 16 < n := Nat.div_lt_self (by omega) (by decide)
        exact (ih _ less).append (plain_nil.cons (digitChar_plain (Nat.mod_lt _ (by decide))))

theorem displayOctets_plain (octets : List Nat) : Plain (displayOctets octets) := by
  apply Plain.intercalate (plain_of_all (by decide))
  intro part member
  obtain ⟨octet, _, rfl⟩ := List.mem_map.mp member
  exact repr_plain octet

theorem displayGroups_plain (segments : List Nat) : Plain (displayGroups segments) := by
  apply Plain.intercalate (plain_of_all (by decide))
  intro part member
  obtain ⟨group, _, rfl⟩ := List.mem_map.mp member
  exact toDigits_plain group

theorem display_plain (address : IpAddr) : Plain address.display := by
  have colons : Plain "::".toList := plain_of_all (by decide)
  have mapped : Plain "::ffff:".toList := plain_of_all (by decide)
  rw [display.eq_def]
  split
  · exact displayOctets_plain _
  · exact mapped.append (displayOctets_plain _)
  · dsimp only
    split
    · exact ((displayGroups_plain _).append colons).append (displayGroups_plain _)
    · exact displayGroups_plain _

end Addresses

/-! ## Arguments -/

theorem parseUsize_plain {text : Text} {n : Nat} (read : parseUsize text = some n) : Plain text := by
  have digits {rest : Text} (all : ¬(rest.isEmpty || !rest.all Char.isDigit) = true) : Plain rest := by
    intro c member
    simp only [Bool.or_eq_true, Bool.not_eq_true', not_or, Bool.not_eq_false] at all
    exact isPlain_digit (List.all_eq_true.mp all.2 c member)
  rw [parseUsize.eq_def] at read
  split at read
  · rename_i rest
    dsimp only at read
    split at read
    · cases read
    · rename_i all
      exact (digits all).cons (by decide)
  · dsimp only at read
    split at read
    · cases read
    · rename_i all
      exact digits all

theorem parseUnsigned_plain {bits : Nat} {text : Text} {n : Nat}
    (read : parseUnsigned bits text = some n) : Plain text :=
  parseUsize_plain (Option.filter_eq_some_iff.mp read).1

theorem rpcValue_plain (protocol : Protocol) : Plain protocol.rpcValue := by
  cases protocol with
  | tcp => exact plain_of_all (by decide)
  | udp => exact plain_of_all (by decide)
  | icmp => exact plain_of_all (by decide)
  | other number => exact repr_plain number

namespace FlowSessions

/-- The prefix goes out as the caller wrote it, but for the blanks around it. -/
theorem validatePrefix_plain {s sent : Text} (valid : validatePrefix s = .ok sent) : Plain sent := by
  rw [validatePrefix] at valid
  split at valid
  · cases valid
  · split at valid
    · rename_i c len behind
      split at valid
      · cases valid
      · rename_i ip address
        split at valid
        · cases valid
        · rename_i length read
          have slash : c = '/' := by
            have stopped := List.head?_dropWhile_not (· != '/') (Text.trim s)
            rw [behind] at stopped
            simpa using stopped
          by_cases zero : (length == 0) = true
          · rw [if_pos zero] at valid
            cases valid
          · rw [if_neg zero] at valid
            by_cases long : length > (if ip.isIpv4 then 32 else 128)
            · rw [if_pos long] at valid
              cases valid
            · rw [if_neg long] at valid
              cases valid
              subst slash
              have whole : (Text.trim s).takeWhile (· != '/') ++ '/' :: len = Text.trim s := by
                rw [← behind, List.takeWhile_append_dropWhile]
              rw [← whole]
              exact (parse_plain address).append ((parseUnsigned_plain read).cons (by decide))
    · split at valid
      · cases valid
      · rename_i ip address
        cases valid
        exact parse_plain address

theorem isIdentifierChar_plain {c : Char} (identifier : isIdentifierChar c = true) :
    isPlain c = true := by
  simp only [isIdentifierChar, Bool.or_eq_true] at identifier
  simp only [isPlain, Bool.or_eq_true]
  rcases identifier with ((alphanum | dot) | dash) | underscore <;> simp_all

theorem validateIdentifierToken_plain {field s sent : Text}
    (valid : validateIdentifierToken field s = .ok sent) : Plain sent := by
  rw [validateIdentifierToken] at valid
  split at valid
  · cases valid
  · split at valid
    · cases valid
    · rename_i all
      cases valid
      simp only [Bool.not_eq_true', Bool.not_eq_false] at all
      exact fun c member => isIdentifierChar_plain (List.all_eq_true.mp all c member)

theorem mapM_given {α β : Type} {f : α → Except SrxError β} {given : Option α} {read : Option β}
    (ok : given.mapM f = .ok read) {value : β} (member : value ∈ read) :
    ∃ source, f source = .ok value := by
  cases given with
  | none =>
      cases ok
      cases member
  | some source =>
      obtain ⟨found, here, rfl⟩ := map_eq_ok.mp ok
      cases member
      exact ⟨source, here⟩

theorem rpcArg_plain {name : String} {value : Option Text} (plain : ∀ v ∈ value, Plain v) :
    ∀ arg ∈ rpcArg name value, Plain arg.2 := by
  intro arg member
  obtain ⟨v, given, rfl⟩ := List.mem_map.mp member
  exact plain v (Option.mem_toList.mp given)

theorem number_plain (value : Option Nat) :
    ∀ v ∈ value.map fun n => (Nat.repr n).toList, Plain v := by
  intro v member
  obtain ⟨n, _, rfl⟩ := Option.map_eq_some_iff.mp member
  exact repr_plain n

theorem readFilter_plain {args : FlowSessionsArgs} {filter : FlowSessionFilter}
    (valid : readFilter args = .ok filter) : ∀ arg ∈ filter.toRpcArgs, Plain arg.2 := by
  rw [readFilter] at valid
  obtain ⟨sourcePrefix, source, valid⟩ := bind_eq_ok.mp valid
  obtain ⟨destinationPrefix, destination, valid⟩ := bind_eq_ok.mp valid
  obtain ⟨sourcePort, _, valid⟩ := bind_eq_ok.mp valid
  obtain ⟨destinationPort, _, valid⟩ := bind_eq_ok.mp valid
  obtain ⟨protocol, _, valid⟩ := bind_eq_ok.mp valid
  obtain ⟨application, named, valid⟩ := bind_eq_ok.mp valid
  obtain ⟨sessionIdentifier, _, valid⟩ := bind_eq_ok.mp valid
  cases valid
  have prefixes {given : Option Text} {read : Option Text} (ok : given.mapM validatePrefix = .ok read) :
      ∀ v ∈ read, Plain v := by
    intro v member
    obtain ⟨s, valid⟩ := mapM_given ok member
    exact validatePrefix_plain valid
  have names : ∀ v ∈ application, Plain v := by
    intro v member
    obtain ⟨s, valid⟩ := mapM_given named member
    exact validateIdentifierToken_plain valid
  have protocols : ∀ v ∈ protocol.map Protocol.rpcValue, Plain v := by
    intro v member
    obtain ⟨p, _, rfl⟩ := Option.map_eq_some_iff.mp member
    exact rpcValue_plain p
  intro arg member
  simp only [FlowSessionFilter.toRpcArgs, List.mem_append] at member
  rcases member with (((((at1 | at2) | at3) | at4) | at5) | at6) | at7
  · exact rpcArg_plain (prefixes source) arg at1
  · exact rpcArg_plain (prefixes destination) arg at2
  · exact rpcArg_plain (number_plain sourcePort) arg at3
  · exact rpcArg_plain (number_plain destinationPort) arg at4
  · exact rpcArg_plain protocols arg at5
  · exact rpcArg_plain names arg at6
  · exact rpcArg_plain (number_plain sessionIdentifier) arg at7

theorem validateFilter_plain {args : FlowSessionsArgs} {filter : FlowSessionFilter}
    (valid : validateFilter args = .ok filter) : ∀ arg ∈ filter.toRpcArgs, Plain arg.2 := by
  rw [validateFilter] at valid
  split at valid
  · cases valid
  · split at valid
    · cases valid
    · cases read : readFilter args with
      | error error =>
          rw [read] at valid
          cases valid
      | ok found =>
          rw [read] at valid
          dsimp only at valid
          split at valid
          · cases valid
          · cases valid
            exact readFilter_plain read

end FlowSessions

theorem openExecutor_sendsPlain : openExecutor.Performs SendsPlain := ⟨trivial, fun _ => trivial⟩

theorem callRpc_sendsPlain {name : String} {args : List (Text × Text)}
    (plain : ∀ arg ∈ args, Plain arg.2) : (callRpc name args).Performs SendsPlain :=
  ⟨plain, fun _ => trivial⟩

/-- Checked arguments are either refused, or the rest goes on from what was read of them. -/
theorem checked_sendsPlain {α β : Type} {checked : Except SrxError α} {next : α → DeviceProg β}
    (rest : ∀ value, checked = .ok value → (next value).Performs SendsPlain) :
    (Prog.andThen (.pure checked) next : DeviceProg β).Performs SendsPlain := by
  cases checked with
  | error error => exact True.intro
  | ok value => exact rest value rfl

theorem FlowSessions.run_sendsPlain (crates : XmlCrates) (args : FlowSessionsArgs) :
    (FlowSessions.run crates args).Performs SendsPlain := by
  refine checked_sendsPlain fun filter valid => checked_sendsPlain fun cap _ => ?_
  have plain := validateFilter_plain valid
  have summary : ∀ arg ∈ summaryArgs filter, Plain arg.2 :=
    List.forall_mem_cons.mpr ⟨plain_nil, plain⟩
  refine openExecutor_sendsPlain.andThen fun _ => ?_
  refine (callRpc_sendsPlain summary).andThen fun summaryXml => ?_
  refine checked_sendsPlain fun total _ => ?_
  rw [answerTotal]
  cases planWalk total cap with
  | refuse reason => exact True.intro
  | proceed => exact (callRpc_sendsPlain plain).andThen fun _ => True.intro

namespace PolicyMatch

theorem validateZoneToken_plain {field : String} {s zone : Text}
    (valid : validateZoneToken field s = .ok zone) : Plain zone := by
  rw [validateZoneToken] at valid
  split at valid
  · cases valid
  · split at valid
    · cases valid
    · split at valid
      · cases valid
      · rename_i all
        cases valid
        simp only [Bool.not_eq_true', Bool.not_eq_false] at all
        exact fun c member => FlowSessions.isIdentifierChar_plain (List.all_eq_true.mp all c member)

theorem hostArgs_plain (fiveTuple : FiveTuple) : ∀ arg ∈ fiveTuple.hostArgs, Plain arg.2 := by
  simp only [FiveTuple.hostArgs, List.forall_mem_cons]
  exact ⟨display_plain _, display_plain _, repr_plain _, repr_plain _, rpcValue_plain _,
    List.forall_mem_nil _⟩

theorem zoneArgs_plain {args : PolicyMatchArgs} {fiveTuple : FiveTuple}
    (valid : parseFiveTuple args = .ok fiveTuple) : ∀ arg ∈ fiveTuple.zoneArgs, Plain arg.2 := by
  rw [parseFiveTuple] at valid
  split at valid
  · cases valid
  obtain ⟨fromZone, from_, valid⟩ := bind_eq_ok.mp valid
  obtain ⟨toZone, to_, valid⟩ := bind_eq_ok.mp valid
  obtain ⟨sourceIp, _, valid⟩ := bind_eq_ok.mp valid
  obtain ⟨destinationIp, _, valid⟩ := bind_eq_ok.mp valid
  obtain ⟨sourcePort, _, valid⟩ := bind_eq_ok.mp valid
  obtain ⟨destinationPort, _, valid⟩ := bind_eq_ok.mp valid
  obtain ⟨protocol, _, valid⟩ := bind_eq_ok.mp valid
  cases valid
  rw [FiveTuple.zoneArgs, List.forall_mem_cons, List.forall_mem_cons]
  exact ⟨validateZoneToken_plain from_, validateZoneToken_plain to_, hostArgs_plain _⟩

theorem run_sendsPlain (crates : XmlCrates) (debug : Text → Text) (args : PolicyMatchArgs) :
    (run crates debug args).Performs SendsPlain := by
  refine checked_sendsPlain fun fiveTuple valid => ?_
  refine openExecutor_sendsPlain.andThen fun _ => ?_
  refine (callRpc_sendsPlain (zoneArgs_plain valid)).andThen fun zoneReply => ?_
  refine checked_sendsPlain fun zone _ => ?_
  refine Prog.Performs.andThen ?_ fun globalReply => ?_
  · rw [askGlobal]
    split
    · exact (callRpc_sendsPlain (hostArgs_plain fiveTuple)).andThen fun _ => True.intro
    · exact True.intro
  · exact checked_sendsPlain fun _ _ => True.intro

end PolicyMatch

/-! ## On the wire -/

/-- A writer of XML leaves the values of the arguments as they are. -/
def SendsVerbatim : DeviceOp → Prop
  | .rpc => True
  | .call _ args => ∀ arg ∈ args, Markup.escapeXml arg.2 = arg.2
  | .callXml _ => False

theorem escapedPiece_plain {c : Char} (plain : isPlain c = true) :
    Markup.escapedPiece c = .literal c := by
  cases shape : Markup.escapedPiece c with
  | literal d => rw [(Markup.escapedPiece_literal shape).1]
  | reference name d =>
      have absent : predefined.find? (fun entry => decide (entry.2 = c)) = none := by
        rw [List.find?_eq_none]
        intro entry member same
        have special : ∀ entry ∈ predefined, isPlain entry.2 = false := by decide
        have other := special entry member
        rw [of_decide_eq_true same, plain] at other
        cases other
      rw [Markup.escapedPiece, absent] at shape
      cases shape

theorem Plain.escapeXml {text : Text} (plain : Plain text) : Markup.escapeXml text = text := by
  induction text with
  | nil => rfl
  | cons c rest ih =>
      obtain ⟨here, later⟩ := List.forall_mem_cons.mp plain
      have tail := ih later
      rw [Markup.escapeXml, renderPieces] at tail ⊢
      rw [List.map_cons, List.flatMap_cons, tail, escapedPiece_plain here]
      rfl

theorem SendsPlain.verbatim {op : DeviceOp} (sends : SendsPlain op) : SendsVerbatim op := by
  cases op with
  | rpc => trivial
  | call name args => exact fun arg member => (sends arg member).escapeXml
  | callXml payload => exact sends

/-- Nothing a caller gives as an argument of the two queries is markup, or needs to be escaped. -/
theorem queries_send_verbatim (crates : XmlCrates) (debug : Text → Text)
    (sessions : FlowSessions.FlowSessionsArgs) (policy : PolicyMatch.PolicyMatchArgs) :
    (FlowSessions.run crates sessions).Performs (fun op => SendsPlain op ∧ SendsVerbatim op) ∧
      (PolicyMatch.run crates debug policy).Performs fun op => SendsPlain op ∧ SendsVerbatim op :=
  ⟨(FlowSessions.run_sendsPlain crates sessions).mono fun _ sends => ⟨sends, sends.verbatim⟩,
    (PolicyMatch.run_sendsPlain crates debug policy).mono fun _ sends => ⟨sends, sends.verbatim⟩⟩

end JunosMcp.Srx
