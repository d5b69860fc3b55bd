import JunosMcp.Srx.Fields
import JunosMcp.Srx.PackageRuns

/-!
# When a polling phase ends

A status reply holds a detail for every node. The poll loop reads the first one of a reply that can
be read as it stands, and takes it for the state of the whole cluster.
-/

namespace JunosMcp.Srx

open Lib

namespace Package

/-! ## Phases -/

inductive Phase where
  | download (service : Service)
  | install (service : Service)
  /-- AppID only. -/
  | uninstall
deriving DecidableEq

def Phase.profile : Phase → PackageProfile
  | .download service | .install service => service.profile
  | .uninstall => Appid.profile

def Phase.probe : Phase → Probe
  | .download service => service.profile.downloadStatus
  | .install service => service.profile.installStatus
  | .uninstall => .flat "request-appid-application-package-uninstall-status"

def Phase.detailElement : Phase → String
  | .download service => service.profile.downloadDetail
  | .install service => service.profile.installDetail
  | .uninstall => "apppack-uninstall-status-detail"

section Replies

variable (crates : LicenseCrates) (phase : Phase)

def Phase.poll (deadline started earliest : Nat) :
    Prog PackageOp PackageAnswer (Except PollFailure Unit) :=
  pollFrom crates phase.profile phase.probe phase.detailElement deadline started earliest

/-! ## What a status reply says -/

def details (document : XmlDocument) : List XmlNode := document.all phase.detailElement.toList

def detailText (detail : XmlNode) : Text := (detail.leadingText.map Text.trim).getD []

/-- The reply of one node, or of a cluster with one detail for every node. -/
inductive StatusDocument (document : XmlDocument) : Prop where
  | standalone {detail : XmlNode}
      (alone : document.first "multi-routing-engine-results".toList = none)
      (only : details phase document = [detail])
  | cluster {envelope : XmlNode}
      (answered : document.first "multi-routing-engine-results".toList = some envelope)
      (manned : envelopeItems envelope ≠ [])
      (each : List.Forall₂ (fun item detail => details phase [item] = [detail])
        (envelopeItems envelope) (details phase document))

/-- A reply is what it reads as. Where it cannot be read, its orphan attributes are stripped. -/
def statusDocument (reply : Text) : Except Text XmlDocument :=
  match readFragment crates.toXmlCrates reply with
  | .ok document => .ok document
  | .error _ => readFragment crates.toXmlCrates (sanitizeRustezXml reply)

def StatusReply (reply : Text) : Prop :=
  ∃ document, statusDocument crates reply = .ok document ∧ StatusDocument phase document

/-- The details of the nodes, in the order of the reply. -/
def nodeDetails (reply : Text) : List Text :=
  match statusDocument crates reply with
  | .ok document => (details phase document).map detailText
  | .error _ => []

def Finished (detail : Text) : Prop := phase.profile.parseAsyncStatusDetail detail = .done

def Failed (detail : Text) : Prop :=
  ∃ shown, phase.profile.parseAsyncStatusDetail detail = .failed shown

def EveryNodeFinished (reply : Text) : Prop :=
  ∀ detail ∈ nodeDetails crates phase reply, Finished phase detail

def SomeNodeFailed (reply : Text) : Prop :=
  ∃ detail ∈ nodeDetails crates phase reply, Failed phase detail

/-- What the loop makes of a reply. -/
def outcomeOf (reply : Text) : AsyncStatusOutcome :=
  phase.profile.parseAsyncStatusDetail
    ((textOf crates.toXmlCrates reply phase.detailElement.toList).getD [])

/-- The first node of a reply that can be read as it stands has failed if any has, and has not
finished before the others. A reply that cannot be read comes while the nodes are at work. -/
def FirstSpeaksForAll (reply : Text) : Prop :=
  match readFragment crates.toXmlCrates reply with
  | .ok _ => ∀ first ∈ (nodeDetails crates phase reply).head?,
      (SomeNodeFailed crates phase reply → Failed phase first) ∧
      (Finished phase first → EveryNodeFinished crates phase reply)
  | .error _ => ¬SomeNodeFailed crates phase reply ∧ ¬EveryNodeFinished crates phase reply

end Replies

section Reading

variable {crates : LicenseCrates} {phase : Phase} {reply : Text}

theorem StatusDocument.details_ne_nil {document : XmlDocument}
    (status : StatusDocument phase document) : details phase document ≠ [] := by
  cases status with
  | standalone _ only =>
      rw [only]
      exact List.cons_ne_nil _ _
  | cluster _ manned each =>
      intro none
      rw [none] at each
      exact manned (List.forall₂_nil_right_iff.mp each)

theorem StatusReply.nodeDetails_ne_nil (status : StatusReply crates phase reply) :
    nodeDetails crates phase reply ≠ [] := by
  obtain ⟨document, read, shape⟩ := status
  rw [nodeDetails, read]
  exact fun none => shape.details_ne_nil (List.map_eq_nil_iff.mp none)

theorem finished_not_failed {detail : Text} (finished : Finished phase detail) :
    ¬Failed phase detail := by
  rintro ⟨shown, failed⟩
  rw [finished] at failed
  cases failed

/-- No node has both. -/
theorem everyNodeFinished_not_failed (every : EveryNodeFinished crates phase reply) :
    ¬SomeNodeFailed crates phase reply := by
  rintro ⟨detail, member, failed⟩
  exact finished_not_failed (every detail member) failed

theorem textOf_details {document : XmlDocument}
    (read : readFragment crates.toXmlCrates reply = .ok document) :
    (textOf crates.toXmlCrates reply phase.detailElement.toList).getD [] =
      ((details phase document).head?.map detailText).getD [] := by
  rw [textOf, read, details, XmlDocument.all, List.head?_filter]
  dsimp only [XmlDocument.first]
  cases document.descendants.find? (XmlNode.named phase.detailElement.toList) <;> rfl

/-- A readable reply is taken for what its first node says. -/
theorem outcomeOf_readable {document : XmlDocument}
    (read : readFragment crates.toXmlCrates reply = .ok document) {first : Text} {rest : List Text}
    (shown : nodeDetails crates phase reply = first :: rest) :
    outcomeOf crates phase reply = phase.profile.parseAsyncStatusDetail first := by
  rw [nodeDetails, statusDocument, read] at shown
  rw [outcomeOf, textOf_details read]
  cases found : details phase document with
  | nil => simp [found] at shown
  | cons detail others =>
      simp only [found, List.map_cons, List.cons.injEq] at shown
      rw [← shown.1]
      rfl

theorem outcomeOf_unreadable (phase : Phase) {error : Text}
    (unread : readFragment crates.toXmlCrates reply = .error error) :
    outcomeOf crates phase reply = .pending := by
  rw [outcomeOf, textOf, unread]
  rcases phase with service | service | _
  · cases service <;> rfl
  · cases service <;> rfl
  · rfl

/-- The loop is right about a reply if its first node speaks for all. -/
theorem firstSpeaksForAll_iff (status : StatusReply crates phase reply) :
    FirstSpeaksForAll crates phase reply ↔
      (outcomeOf crates phase reply = .done ↔ EveryNodeFinished crates phase reply) ∧
      ((∃ shown, outcomeOf crates phase reply = .failed shown) ↔
        SomeNodeFailed crates phase reply) := by
  cases read : readFragment crates.toXmlCrates reply with
  | error error =>
      have pending := outcomeOf_unreadable phase read
      rw [FirstSpeaksForAll, read, pending]
      simp [and_comm]
  | ok document =>
      obtain ⟨first, rest, shown⟩ := List.exists_cons_of_ne_nil status.nodeDetails_ne_nil
      have member : first ∈ nodeDetails crates phase reply := by
        rw [shown]
        exact List.mem_cons_self
      rw [FirstSpeaksForAll, read, outcomeOf_readable read shown]
      constructor
      · intro speaks
        obtain ⟨failed, finished⟩ := speaks first (by rw [shown]; rfl)
        exact ⟨⟨finished, fun every => every first member⟩,
          ⟨fun itself => ⟨first, member, itself⟩, failed⟩⟩
      · rintro ⟨finished, failed⟩ named same
        rw [shown] at same
        obtain rfl : first = named := Option.some.inj same
        exact ⟨failed.mpr, finished.mp⟩

end Reading

/-! ## What a run does with its replies -/

/-- The instant behind an event. -/
def tick (instant : Nat) : (Σ op, PackageAnswer op) → Nat
  | ⟨.now, reading⟩ => max instant reading
  | ⟨.sleep seconds, _⟩ => instant + seconds * second
  | _ => instant

def clock (earliest : Nat) (trace : PackageTrace) : Nat := trace.foldl tick earliest

/-- The deadline comes before the next poll. -/
def Late (deadline ending : Nat) : Prop := deadline ≤ ending + pollIntervalSecs * second

/-- What the loop ends with when it takes the replies for these outcomes. -/
inductive Polled (outcome : Text → AsyncStatusOutcome) (deadline ending : Nat) :
    List Text → Except PollFailure Unit → Prop where
  | transport (error : SrxError) : Polled outcome deadline ending [] (.error (.transport error))
  | late {elapsed : Nat} (past : deadline ≤ ending) :
      Polled outcome deadline ending [] (.error (.timeout elapsed))
  | done {reply : Text} (finished : outcome reply = .done) :
      Polled outcome deadline ending [reply] (.ok ())
  | failed {reply shown : Text} (failed : outcome reply = .failed shown) :
      Polled outcome deadline ending [reply] (.error (.failed shown))
  | spent {reply : Text} {elapsed : Nat} (pending : outcome reply = .pending)
      (late : Late deadline ending) :
      Polled outcome deadline ending [reply] (.error (.timeout elapsed))
  | again {reply : Text} {replies : List Text} {result : Except PollFailure Unit}
      (pending : outcome reply = .pending) (rest : Polled outcome deadline ending replies result) :
      Polled outcome deadline ending (reply :: replies) result

/-- The phase succeeds on the replies whose nodes have all finished, fails on those with a failed
node, and waits for the deadline on the others. -/
structure EndsWithItsNodes (crates : LicenseCrates) (phase : Phase) (deadline ending : Nat)
    (replies : List Text) (result : Except PollFailure Unit) : Prop where
  succeeds : ∀ before reply behind, replies = before ++ reply :: behind →
    (behind = [] ∧ result = .ok () ↔ EveryNodeFinished crates phase reply)
  fails : ∀ before reply behind, replies = before ++ reply :: behind →
    ((behind = [] ∧ ∃ shown, result = .error (.failed shown)) ↔ SomeNodeFailed crates phase reply)
  decided : replies = [] → result ≠ .ok () ∧ ∀ shown, result ≠ .error (.failed shown)
  waits : ∀ elapsed, result = .error (.timeout elapsed) → Late deadline ending

section Runs

variable {outcome : Text → AsyncStatusOutcome} {deadline ending : Nat} {replies : List Text}
variable {result : Except PollFailure Unit}

/-- No reply, no verdict. -/
theorem Polled.undecided (polled : Polled outcome deadline ending [] result) :
    result ≠ .ok () ∧ ∀ shown, result ≠ .error (.failed shown) := by
  cases polled <;> simp

theorem Polled.waits (polled : Polled outcome deadline ending replies result) {elapsed : Nat}
    (timeout : result = .error (.timeout elapsed)) : Late deadline ending := by
  induction polled with
  | transport | done | failed => cases timeout
  | late past => exact Nat.le_add_right_of_le past
  | spent _ late => exact late
  | again _ _ ih => exact ih timeout

theorem singleton_placed {a b : Text} {before behind : List Text}
    (placed : [a] = before ++ b :: behind) : b = a ∧ behind = [] := by
  rcases List.singleton_eq_append_iff.mp placed with ⟨_, same⟩ | ⟨_, none⟩
  · cases same
    exact ⟨rfl, rfl⟩
  · cases none

/-- The first reply that is not pending ends the loop. -/
theorem Polled.reads (polled : Polled outcome deadline ending replies result) :
    ∀ before reply behind, replies = before ++ reply :: behind →
      (behind = [] ∧ result = .ok () ↔ outcome reply = .done) ∧
      ((behind = [] ∧ ∃ shown, result = .error (.failed shown)) ↔
        ∃ shown, outcome reply = .failed shown) := by
  induction polled with
  | transport | late => simp
  | done finished =>
      intro before reply behind placed
      obtain ⟨rfl, rfl⟩ := singleton_placed placed
      simp [finished]
  | failed failed =>
      intro before reply behind placed
      obtain ⟨rfl, rfl⟩ := singleton_placed placed
      simp [failed]
  | spent pending _ =>
      intro before reply behind placed
      obtain ⟨rfl, rfl⟩ := singleton_placed placed
      simp [pending]
  | again pending rest ih =>
      intro before reply behind placed
      cases before with
      | cons first before => exact ih before reply behind (List.cons.inj placed).2
      | nil =>
          obtain ⟨rfl, rfl⟩ := List.cons.inj placed
          simp only [pending, reduceCtorEq, exists_false, iff_false, not_and, not_exists]
          constructor
          · rintro rfl
            exact rest.undecided.1
          · rintro rfl
            exact rest.undecided.2

end Runs

section Poll

variable {crates : LicenseCrates} {phase : Phase} {probe : Probe} {trace : PackageTrace}

@[simp] theorem clock_now {earliest : Nat} {reading : PackageAnswer .now} :
    clock earliest (⟨.now, reading⟩ :: trace) = clock (max earliest reading) trace := rfl

@[simp] theorem clock_sleep {earliest seconds : Nat} {answer : PackageAnswer (.sleep seconds)} :
    clock earliest (⟨.sleep seconds, answer⟩ :: trace) =
      clock (earliest + seconds * second) trace := rfl

theorem clock_device {earliest : Nat} {inner : DeviceTrace} :
    clock earliest (inner.map deviceEvent ++ trace) = clock earliest trace := by
  induction inner with
  | nil => rfl
  | cons event inner ih => exact ih

/-- A round that gets no reply, and one that does. -/
theorem returns_round {first : PackageTrace} {result : Except SrxError Text}
    (returned : Returns (onDevice (openExecutor.andThen fun _ => sendProbe probe)) first result) :
    (∀ earliest last, clock earliest (first ++ last) = clock earliest last) ∧
      repliesTo probe first = result.toOption.toList := by
  obtain ⟨inner, rfl, called⟩ := returns_onDevice.mp returned
  refine ⟨fun _ _ => clock_device, ?_⟩
  rcases returns_andThen.mp called with ⟨error, here, rfl⟩ | ⟨opened, sent, _, rfl, here, sending⟩
  · obtain ⟨answer, rest, rfl, stopped⟩ := returns_step.mp here
    obtain ⟨rfl, -⟩ := returns_pure.mp stopped
    cases probe <;> rfl
  · rw [returns_openExecutor.mp here, List.singleton_append, List.map_cons]
    cases result with
    | ok reply =>
        rw [returns_sendProbe sending]
        exact repliesTo_opened.trans (repliesTo_answered.trans (by simp [repliesTo, Except.toOption]))
    | error error =>
        cases probe with
        | flat name =>
            obtain ⟨answer, rest, rfl, stopped⟩ := returns_step.mp sending
            obtain ⟨rfl, replied⟩ := returns_pure.mp stopped
            cases answer with
            | error error => rfl
            | ok reply => cases replied
        | composite payload =>
            obtain ⟨answer, rest, rfl, stopped⟩ := returns_step.mp sending
            obtain ⟨rfl, replied⟩ := returns_pure.mp stopped
            cases answer with
            | error error => rfl
            | ok reply => cases replied

theorem repliesTo_now {reading : PackageAnswer .now} :
    repliesTo probe (⟨.now, reading⟩ :: trace) = repliesTo probe trace :=
  repliesTo_cons

theorem repliesTo_sleep {seconds : Nat} {answer : PackageAnswer (.sleep seconds)} :
    repliesTo probe (⟨.sleep seconds, answer⟩ :: trace) = repliesTo probe trace :=
  repliesTo_cons

theorem returns_poll {deadline started : Nat} {earliest : Nat} {result : Except PollFailure Unit}
    (returned : Returns (phase.poll crates deadline started earliest) trace result) :
    Polled (outcomeOf crates phase) deadline (clock earliest trace)
      (repliesTo phase.probe trace) result := by
  unfold Phase.poll at returned
  induction earliest using pollFrom.induct deadline generalizing trace with
  | case1 earliest ih =>
      rw [pollFrom] at returned
      obtain ⟨reading, rest, rfl, polling⟩ := returns_step.mp returned
      rw [clock_now, repliesTo_now]
      dsimp only at polling
      split at polling
      · next past =>
          obtain ⟨rfl, rfl⟩ := returns_pure.mp polling
          exact .late past
      next early =>
      obtain ⟨first, last, answered, rfl, round, going⟩ := returns_bind.mp polling
      obtain ⟨unmoved, replied⟩ := returns_round round
      rw [unmoved, repliesTo_append, replied]
      cases answered with
      | error error =>
          obtain ⟨rfl, rfl⟩ := returns_pure.mp going
          exact .transport error
      | ok reply =>
          dsimp only at going
          rw [← outcomeOf] at going
          cases said : outcomeOf crates phase reply with
          | done =>
              rw [said] at going
              obtain ⟨rfl, rfl⟩ := returns_pure.mp going
              exact .done said
          | failed shown =>
              rw [said] at going
              obtain ⟨rfl, rfl⟩ := returns_pure.mp going
              exact .failed said
          | pending =>
              rw [said] at going
              obtain ⟨reading', late, rfl, waiting⟩ := returns_step.mp going
              rw [clock_now, repliesTo_now]
              split at waiting
              · next spent =>
                  obtain ⟨reading'', done, rfl, stopped⟩ := returns_step.mp waiting
                  obtain ⟨rfl, rfl⟩ := returns_pure.mp stopped
                  refine .spent said ?_
                  exact spent.trans (Nat.add_le_add_right (Nat.le_max_left _ _) _)
              · next soon =>
                  obtain ⟨_, later, rfl, again⟩ := returns_step.mp waiting
                  rw [clock_sleep, repliesTo_sleep]
                  exact .again said (ih reading early reading' soon again)

/-- A phase ends with its nodes exactly if the first node of every reply speaks for all. -/
theorem poll_endsWithItsNodes_iff {deadline started earliest : Nat}
    {result : Except PollFailure Unit}
    (returned : Returns (phase.poll crates deadline started earliest) trace result)
    (shaped : ∀ reply ∈ repliesTo phase.probe trace, StatusReply crates phase reply) :
    EndsWithItsNodes crates phase deadline (clock earliest trace) (repliesTo phase.probe trace)
        result ↔
      ∀ reply ∈ repliesTo phase.probe trace, FirstSpeaksForAll crates phase reply := by
  have polled := returns_poll returned
  constructor
  · intro ends reply member
    obtain ⟨before, behind, placed⟩ := List.append_of_mem member
    obtain ⟨done, failed⟩ := polled.reads before reply behind placed
    rw [firstSpeaksForAll_iff (shaped reply member), ← done, ← failed]
    exact ⟨ends.succeeds before reply behind placed, ends.fails before reply behind placed⟩
  · intro speaks
    have right : ∀ before reply behind, repliesTo phase.probe trace = before ++ reply :: behind →
        (outcomeOf crates phase reply = .done ↔ EveryNodeFinished crates phase reply) ∧
        ((∃ shown, outcomeOf crates phase reply = .failed shown) ↔
          SomeNodeFailed crates phase reply) := by
      intro before reply behind placed
      have member : reply ∈ repliesTo phase.probe trace := by
        rw [placed]
        exact List.mem_append_right _ List.mem_cons_self
      exact (firstSpeaksForAll_iff (shaped reply member)).mp (speaks reply member)
    constructor
    · intro before reply behind placed
      exact (polled.reads before reply behind placed).1.trans (right before reply behind placed).1
    · intro before reply behind placed
      exact (polled.reads before reply behind placed).2.trans (right before reply behind placed).2
    · intro none
      rw [none] at polled
      exact polled.undecided
    · intro elapsed
      exact polled.waits

end Poll

/-! ### A cluster that is asked once -/

def statusItem (node status : String) : XmlNode :=
  .element "multi-routing-engine-item".toList [] [
    .element "re-name".toList [] [.text node.toList],
    .element "secpack-status-detail".toList [] [.text status.toList]]

def clusterStatus (first second : String) : XmlDocument :=
  [.element "multi-routing-engine-results".toList []
    [statusItem "node0" first, statusItem "node1" second]]

def statusCrates (document : XmlDocument) : LicenseCrates where
  toXmlCrates := readerOfPrinted [document]
  rfc3339 _ := .error "a component could not be parsed".toList
  debug text := text

def askedOnce (document : XmlDocument) : PackageTrace :=
  [⟨.now, (0 : Nat)⟩, ⟨.device .rpc, .ok ()⟩,
    answered (Phase.install .idp).probe (printed document)]

theorem round_returns (probe : Probe) (reply : Text) :
    Returns (onDevice (openExecutor.andThen fun _ => sendProbe probe))
      [⟨.device .rpc, .ok ()⟩, answered probe reply] (.ok reply) := by
  cases probe <;> exact .step (.step (.pure _))

theorem poll_done {crates : LicenseCrates} {phase : Phase} {deadline started reading : Nat}
    {reply : Text} (early : reading < deadline) (done : outcomeOf crates phase reply = .done) :
    Returns (phase.poll crates deadline started 0)
      [⟨.now, reading⟩, ⟨.device .rpc, .ok ()⟩, answered phase.probe reply] (.ok ()) := by
  rw [Phase.poll, pollFrom]
  refine .step ?_
  rw [Nat.zero_max, if_neg (Nat.not_le.mpr early)]
  refine returns_bind.mpr ⟨_, [], .ok reply, rfl, round_returns phase.probe reply, ?_⟩
  dsimp only
  rw [← outcomeOf, done]
  exact .pure _

theorem askedOnce_replies (document : XmlDocument) :
    repliesTo (Phase.install .idp).probe (askedOnce document) = [printed document] := by
  rw [askedOnce, repliesTo_now, repliesTo_opened, repliesTo_answered]
  rfl

theorem status_readable (document : XmlDocument) :
    readFragment (statusCrates document).toXmlCrates (printed document) = .ok document :=
  readFragment_document (parsePrinted_here document [])

theorem status_details (first second : String) :
    nodeDetails (statusCrates (clusterStatus first second)) (.install .idp)
        (printed (clusterStatus first second)) =
      [Text.trim first.toList, Text.trim second.toList] := by
  rw [nodeDetails, statusDocument, status_readable]
  rfl

theorem status_shaped (first second : String) :
    StatusReply (statusCrates (clusterStatus first second)) (.install .idp)
      (printed (clusterStatus first second)) := by
  refine ⟨clusterStatus first second, ?_, .cluster rfl (List.cons_ne_nil _ _) ?_⟩
  · rw [statusDocument, status_readable]
  · exact .cons rfl (.cons rfl .nil)

theorem askedOnce_returns {first : String} (other : String)
    (finished : Finished (.install .idp) (Text.trim first.toList)) :
    Returns ((Phase.install .idp).poll (statusCrates (clusterStatus first other))
        (600 * second) 0 0)
      (askedOnce (clusterStatus first other)) (.ok ()) := by
  apply poll_done (by decide)
  rw [outcomeOf_readable (status_readable _) (status_details first other)]
  exact finished

/-- The second node has failed, and the phase succeeds. -/
theorem failed_node_unseen :
    ∃ crates phase deadline trace,
      Returns (Phase.poll crates phase deadline 0 0) trace (.ok ()) ∧
      (∀ reply ∈ repliesTo phase.probe trace, StatusReply crates phase reply) ∧
      (∃ reply ∈ repliesTo phase.probe trace, SomeNodeFailed crates phase reply) ∧
      ¬EndsWithItsNodes crates phase deadline (clock 0 trace) (repliesTo phase.probe trace)
        (.ok ()) := by
  have failed : SomeNodeFailed (statusCrates (clusterStatus "Done;" "Failed;")) (.install .idp)
      (printed (clusterStatus "Done;" "Failed;")) := by
    refine ⟨"Failed;".toList, ?_, "Failed;".toList, rfl⟩
    rw [status_details]
    decide
  have finished : Finished (.install .idp) (Text.trim "Done;".toList) := rfl
  refine ⟨_, .install .idp, _, _, askedOnce_returns "Failed;" finished, ?_, ?_, ?_⟩
  all_goals rw [askedOnce_replies]
  · simpa using status_shaped "Done;" "Failed;"
  · simpa using failed
  · intro ends
    obtain ⟨-, _, shown⟩ := (ends.fails [] _ [] rfl).mpr failed
    cases shown

theorem both_nodes_finished :
    EndsWithItsNodes (statusCrates (clusterStatus "Done;" "Done;")) (.install .idp) (600 * second)
      (clock 0 (askedOnce (clusterStatus "Done;" "Done;")))
      (repliesTo (Phase.install .idp).probe (askedOnce (clusterStatus "Done;" "Done;"))) (.ok ()) := by
  have finished : Finished (.install .idp) (Text.trim "Done;".toList) := rfl
  apply (poll_endsWithItsNodes_iff (askedOnce_returns "Done;" finished) ?_).mpr
  all_goals rw [askedOnce_replies]
  · intro reply only
    obtain rfl := List.mem_singleton.mp only
    rw [FirstSpeaksForAll, status_readable, status_details]
    rintro first shown
    obtain rfl := Option.some.inj shown
    refine ⟨?_, fun _ => ?_⟩
    · rintro ⟨detail, member, failed⟩
      rw [status_details] at member
      rcases List.mem_pair.mp member with rfl | rfl <;> exact failed
    · intro detail member
      rw [status_details] at member
      rcases List.mem_pair.mp member with rfl | rfl <;> exact finished
  · simpa using status_shaped "Done;" "Done;"

end Package

end JunosMcp.Srx
