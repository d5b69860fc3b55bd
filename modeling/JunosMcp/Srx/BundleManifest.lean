import JunosMcp.Lib.Layers
import JunosMcp.Lib.Results
import JunosMcp.Srx.SupportBundle

/-!
# What a bundle's manifest lists

Each captured reply and each log has an entry, and the file of an entry is the one in the archive. A
failed reply has neither.
-/

namespace JunosMcp.Srx.SupportBundle

open Lib

/-! ## Sets in order -/

section OrderedSet

variable {α : Type} [DecidableEq α] {le : α → α → Prop} [DecidableRel le] {xs : List α} {x : α}

theorem mem_orderedSet : x ∈ orderedSet le xs ↔ x ∈ xs := by
  rw [orderedSet, List.mem_insertionSort, List.mem_dedup]

theorem orderedSet_nodup : (orderedSet le xs).Nodup :=
  (List.perm_insertionSort le xs.dedup).nodup_iff.mpr (List.nodup_dedup xs)

end OrderedSet

/-! ## The files of an archive -/

def written : (Σ op, BundleAnswer op) → Option (Text × Text)
  | ⟨.writeFile path content, .ok _⟩ => some (path, content)
  | _ => none

/-- The files that are written, in order. -/
def writes (trace : BundleTrace) : List (Text × Text) := trace.filterMap written

def listed : (Σ op, BundleAnswer op) → Option BundleManifest
  | ⟨.writeManifest manifest, .ok _⟩ => some manifest
  | _ => none

/-- The manifests that are written, in order. -/
def manifests (trace : BundleTrace) : List BundleManifest := trace.filterMap listed

section Entries

variable (crates : BundleCrates)

/-- The size and the hash of the entry are those of the file it names. -/
def Captured (files : List (Text × Text)) (artefact : CapturedArtefact) : Prop :=
  ∃ content, lastUnder artefact.tarballPath files = some content ∧
    artefact.sha256 = crates.sha256Hex content ∧ artefact.bytesInTarball = utf8Len content

/-- Every source has one entry, with its file or with its error. -/
structure Complete (requested : List ArtefactSource) (files : List (Text × Text))
    (artefacts : List CapturedArtefact) : Prop where
  once : (artefacts.map CapturedArtefact.source).Perm requested
  each : ∀ artefact ∈ artefacts, Captured crates files artefact ∨ artefact.error.isSome

/-- The entry of a source and the file that is written for it, if any is. -/
structure IsEntry (item : ArtefactSource × Text) (artefact : CapturedArtefact)
    (files : List (Text × Text)) : Prop where
  source : artefact.source = item.1
  path : artefact.tarballPath = item.2
  stored : (files = [] ∧ artefact.error.isSome) ∨ ∃ content, files = [(item.2, content)] ∧
    artefact.sha256 = crates.sha256Hex content ∧ artefact.bytesInTarball = utf8Len content

/-- The entries of a list of sources with the files in order. -/
inductive Entries : List (ArtefactSource × Text) → List CapturedArtefact → List (Text × Text) →
    Prop where
  | nil : Entries [] [] []
  | cons {item : ArtefactSource × Text} {items : List (ArtefactSource × Text)}
      {artefact : CapturedArtefact} {artefacts : List CapturedArtefact}
      {file files : List (Text × Text)} :
      IsEntry crates item artefact file → Entries items artefacts files →
      Entries (item :: items) (artefact :: artefacts) (file ++ files)

variable {crates} {items items' : List (ArtefactSource × Text)}
  {artefacts artefacts' : List CapturedArtefact} {files files' : List (Text × Text)}

theorem Entries.append (first : Entries crates items artefacts files)
    (second : Entries crates items' artefacts' files') :
    Entries crates (items ++ items') (artefacts ++ artefacts') (files ++ files') := by
  induction first with
  | nil => exact second
  | cons here _ ih =>
      rw [List.append_assoc]
      exact .cons here ih

theorem Entries.sources (entries : Entries crates items artefacts files) :
    artefacts.map CapturedArtefact.source = items.map Prod.fst := by
  induction entries with
  | nil => rfl
  | cons here _ ih => rw [List.map_cons, List.map_cons, here.source, ih]

theorem IsEntry.paths {item : ArtefactSource × Text} {artefact : CapturedArtefact}
    (entry : IsEntry crates item artefact files) : ∀ file ∈ files, file.1 = item.2 := by
  intro file inside
  rcases entry.stored with ⟨rfl, -⟩ | ⟨content, rfl, -⟩
  · cases inside
  · cases List.mem_singleton.mp inside
    rfl

theorem Entries.paths (entries : Entries crates items artefacts files) :
    ∀ file ∈ files, file.1 ∈ items.map Prod.snd := by
  induction entries with
  | nil => nofun
  | cons here _ ih =>
      intro file inside
      rcases List.mem_append.mp inside with first | later
      · rw [here.paths file first]
        exact List.mem_cons_self
      · exact List.mem_cons_of_mem _ (ih file later)

theorem lastUnder_append (key : Text) (first second : List (Text × Text)) :
    lastUnder key (first ++ second) = (lastUnder key second).or (lastUnder key first) := by
  induction first with
  | nil => rw [List.nil_append, lastUnder, Option.or_none]
  | cons entry rest ih => rw [List.cons_append, lastUnder, ih, lastUnder, Option.or_assoc]

/-- With distinct names no file is written over. -/
theorem Entries.captured (entries : Entries crates items artefacts files)
    (distinct : (items.map Prod.snd).Nodup) :
    ∀ artefact ∈ artefacts, Captured crates files artefact ∨ artefact.error.isSome := by
  induction entries with
  | nil => nofun
  | @cons item items artefact artefacts file files here others ih =>
      obtain ⟨fresh, distinct⟩ := List.nodup_cons.mp distinct
      intro one inside
      rcases List.mem_cons.mp inside with rfl | later
      · rcases here.stored with ⟨-, failed⟩ | ⟨content, rfl, hash, size⟩
        · exact .inr failed
        · refine .inl ⟨content, ?_, hash, size⟩
          have untouched : lastUnder item.2 files = none := by
            cases found : lastUnder item.2 files with
            | none => rfl
            | some other => exact absurd (others.paths _ (lastUnder_mem found)) fresh
          rw [lastUnder_append, here.path, untouched, Option.none_or, lastUnder, if_pos rfl]
          rfl
      · rcases ih distinct one later with ⟨content, found, same⟩ | failed
        · exact .inl ⟨content, by rw [lastUnder_append, found, Option.some_or], same⟩
        · exact .inr failed

end Entries

/-! ## Replies -/

section Failing

variable (crates : BundleCrates) (redact : Bool)

/-- An answer that is an error, or that cannot be redacted where it has to be. -/
def Refused : Except RustEzError Text → Prop
  | .error _ => True
  | .ok raw => redact = true ∧ ∃ e, crates.redactXml raw = .error e

/-- An RPC that fails. -/
def RpcFails : (Σ op, BundleAnswer op) → Prop
  | ⟨.call _, answer⟩ => Refused crates redact answer
  | ⟨.callXml _, answer⟩ => Refused crates redact answer
  | _ => False

def NoRpcFails (trace : BundleTrace) : Prop := ∀ event ∈ trace, ¬ RpcFails crates redact event

end Failing

section Replies

variable {crates : BundleCrates} {paths : PreparedBundlePaths} {router : Text} {redact : Bool}
  {rpc : BundleRpc} {collected collected' : Collected} {trace : BundleTrace}

theorem noRpcFails_append {first second : BundleTrace} :
    NoRpcFails crates redact (first ++ second) ↔
      NoRpcFails crates redact first ∧ NoRpcFails crates redact second :=
  List.forall_mem_append

theorem writes_append (first second : BundleTrace) :
    writes (first ++ second) = writes first ++ writes second :=
  List.filterMap_append

theorem manifests_append (first second : BundleTrace) :
    manifests (first ++ second) = manifests first ++ manifests second :=
  List.filterMap_append

/-- An operation that neither writes a file nor calls an RPC. -/
def QuietOp : BundleOp → Prop
  | .writeFile .. | .call _ | .callXml _ => False
  | _ => True

def UnlistedOp : BundleOp → Prop
  | .writeManifest _ => False
  | _ => True

theorem unlisted_trace {α : Type} {p : BundleProg α} {result : Except SrxError α}
    (returns : Returns p trace result) (performs : p.Performs UnlistedOp) : manifests trace = [] := by
  refine List.filterMap_eq_nil_iff.mpr fun event inside => ?_
  have allowed := returns.allowed performs event inside
  obtain ⟨op, answer⟩ := event
  cases op with
  | writeManifest manifest => exact allowed.elim
  | _ => rfl

theorem quiet_trace {α : Type} {p : BundleProg α} {result : Except SrxError α}
    (returns : Returns p trace result) (performs : p.Performs QuietOp) :
    writes trace = [] ∧ NoRpcFails crates redact trace := by
  have quiet := returns.allowed performs
  constructor
  · refine List.filterMap_eq_nil_iff.mpr fun event inside => ?_
    have allowed := quiet event inside
    obtain ⟨op, answer⟩ := event
    cases op with
    | writeFile path content => exact allowed.elim
    | _ => rfl
  · intro event inside fails
    have allowed := quiet event inside
    obtain ⟨op, answer⟩ := event
    cases op with
    | call name => exact allowed
    | callXml envelope => exact allowed
    | _ => exact fails

theorem rpcPayload_refused {reply : Except RustEzError Text} {message : Text}
    (failed : rpcPayload crates redact rpc reply = .error message) : Refused crates redact reply := by
  cases reply with
  | error e => trivial
  | ok raw =>
      rw [rpcPayload] at failed
      split at failed
      · rename_i asked
        refine ⟨asked, ?_⟩
        cases result : crates.redactXml raw with
        | error e => exact ⟨e, rfl⟩
        | ok red =>
            rw [result] at failed
            cases failed
      · cases failed

theorem rpcPayload_accepted {reply : Except RustEzError Text} {payload : Text × Bool}
    (ok : rpcPayload crates redact rpc reply = .ok payload) : ¬ Refused crates redact reply := by
  cases reply with
  | error e => cases ok
  | ok raw =>
      rintro ⟨asked, e, result⟩
      rw [rpcPayload, if_pos asked, result] at ok
      cases ok

theorem returns_writeFile {path content : Text} (returns :
    Returns (writeFile paths path content) trace (.ok ())) :
    trace = [⟨.writeFile path content, .ok ()⟩] := by
  obtain ⟨answer, rest, rfl, stopped⟩ := returns_step.mp returns
  obtain ⟨rfl, same⟩ := returns_pure.mp stopped
  cases answer with
  | error e => cases same
  | ok value => rfl

def rpcItem (rpc : BundleRpc) : ArtefactSource × Text := (rpcSource rpc, rpcPath (rpcFilename rpc))

theorem sanitizeRpcFilename_ok {filename : Text} (ok : sanitizeRpcFilename rpc = .ok filename) :
    filename = rpcFilename rpc := by
  obtain ⟨-, -, ok⟩ := bind_eq_ok.mp ok
  obtain ⟨-, -, ok⟩ := bind_eq_ok.mp ok
  cases ok
  rfl

/-- An answered RPC has its entry, and a failed one leaves no trace in the artefacts. -/
theorem storeReply_ok {reply : Except RustEzError Text}
    (returns : Returns (storeReply crates paths router redact rpc collected reply) trace
      (.ok collected')) :
    NoRpcFails crates redact trace ∧
      ((¬ Refused crates redact reply ∧ ∃ artefact,
          IsEntry crates (rpcItem rpc) artefact (writes trace) ∧
          collected'.artefacts = collected.artefacts ++ [artefact]) ∨
        (Refused crates redact reply ∧ writes trace = [] ∧
          collected'.artefacts = collected.artefacts)) := by
  rw [storeReply] at returns
  cases result : rpcPayload crates redact rpc reply with
  | error message =>
      rw [result] at returns
      obtain ⟨rfl, same⟩ := returns_pure.mp returns
      refine ⟨nofun, .inr ⟨rpcPayload_refused result, rfl, ?_⟩⟩
      rw [failRpc] at same
      split at same
      · cases same
      · cases same
        rfl
  | ok payload =>
      rw [result] at returns
      dsimp only at returns
      cases named : sanitizeRpcFilename rpc with
      | error e =>
          rw [named] at returns
          obtain ⟨-, same⟩ := returns_pure.mp returns
          cases same
      | ok filename =>
          rw [named] at returns
          obtain ⟨_, _, _, rfl, stored, returns⟩ := Returns.of_andThen returns
          obtain ⟨rfl, same⟩ := returns_pure.mp returns
          obtain rfl := returns_writeFile stored
          cases same
          rw [sanitizeRpcFilename_ok named]
          refine ⟨?_, .inl ⟨rpcPayload_accepted result, _, ⟨rfl, rfl, .inr ⟨payload.1, rfl, rfl, rfl⟩⟩,
            rfl⟩⟩
          intro event inside
          cases List.mem_singleton.mp inside
          exact id

theorem captureRpc_ok (returns : Returns (captureRpc crates paths router redact rpc collected) trace
      (.ok collected')) :
    (NoRpcFails crates redact trace ∧ ∃ artefact,
        IsEntry crates (rpcItem rpc) artefact (writes trace) ∧
        collected'.artefacts = collected.artefacts ++ [artefact]) ∨
      (¬ NoRpcFails crates redact trace ∧ writes trace = [] ∧
        collected'.artefacts = collected.artefacts) := by
  rw [captureRpc] at returns
  split at returns
  · obtain ⟨reply, rest, rfl, stored⟩ := returns_step.mp returns
    obtain ⟨quiet, outcome⟩ := storeReply_ok stored
    rcases outcome with ⟨accepted, artefact, entry, added⟩ | ⟨refused, none, same⟩
    · exact .inl ⟨List.forall_mem_cons.mpr ⟨accepted, quiet⟩, artefact, entry, added⟩
    · exact .inr ⟨fun all => all _ List.mem_cons_self refused, none, same⟩
  · obtain ⟨reply, rest, rfl, stored⟩ := returns_step.mp returns
    obtain ⟨quiet, outcome⟩ := storeReply_ok stored
    rcases outcome with ⟨accepted, artefact, entry, added⟩ | ⟨refused, none, same⟩
    · exact .inl ⟨List.forall_mem_cons.mpr ⟨accepted, quiet⟩, artefact, entry, added⟩
    · exact .inr ⟨fun all => all _ List.mem_cons_self refused, none, same⟩

/-- The loop has entries for the RPCs that have not failed. -/
theorem captureRpcs_ok {rpcs : List BundleRpc}
    (returns : Returns (captureRpcs crates paths router redact rpcs collected) trace
      (.ok collected')) :
    ∃ kept artefacts, kept.Sublist rpcs ∧ (kept = rpcs ↔ NoRpcFails crates redact trace) ∧
      Entries crates (kept.map rpcItem) artefacts (writes trace) ∧
      collected'.artefacts = collected.artefacts ++ artefacts := by
  induction rpcs generalizing collected trace with
  | nil =>
      obtain ⟨rfl, same⟩ := returns_pure.mp returns
      cases same
      exact ⟨[], [], .slnil, ⟨fun _ => nofun, fun _ => rfl⟩, .nil, (List.append_nil _).symm⟩
  | cons rpc rest ih =>
      obtain ⟨first, second, next, rfl, here, later⟩ := Returns.of_andThen returns
      obtain ⟨kept, artefacts, part, all, entries, added⟩ := ih later
      rw [noRpcFails_append, writes_append]
      rcases captureRpc_ok here with ⟨quiet, artefact, entry, own⟩ | ⟨loud, none, same⟩
      · refine ⟨rpc :: kept, artefact :: artefacts, part.cons_cons rpc, ?_, .cons entry entries, ?_⟩
        · rw [← all]
          exact ⟨fun whole => ⟨quiet, (List.cons.inj whole).2⟩, fun both => by rw [both.2]⟩
        · rw [added, own, List.append_assoc, List.singleton_append]
      · refine ⟨kept, artefacts, part.cons rpc, ?_, none ▸ entries, by rw [added, same]⟩
        constructor
        · intro whole
          have shorter := part.length_le
          rw [whole, List.length_cons] at shorter
          omega
        · exact fun both => absurd both.1 loud

end Replies

/-! ## Logs -/

section Logs

variable {crates : BundleCrates} {paths : PreparedBundlePaths} {args : SupportBundleArgs}
  {devicePath : Text} {collected collected' : Collected} {captured captured' : Nat}
  {trace : BundleTrace}

def logPath (devicePath : Text) : Text := (deviceLogTarballPath devicePath).toOption.getD []

def logItem (devicePath : Text) : ArtefactSource × Text := (.logFile devicePath, logPath devicePath)

theorem storeLog_ok {path : Text} {answer : Except RustEzError Text}
    (returns : Returns (storeLog crates paths args devicePath path collected captured answer) trace
      (.ok (collected', captured'))) :
    (∀ redact, NoRpcFails crates redact trace) ∧ ∃ artefact,
      IsEntry crates (.logFile devicePath, path) artefact (writes trace) ∧
      collected'.artefacts = collected.artefacts ++ [artefact] := by
  rw [storeLog] at returns
  cases result : logPayload crates args devicePath answer with
  | error message =>
      rw [result] at returns
      obtain ⟨rfl, same⟩ := returns_pure.mp returns
      cases same
      exact ⟨fun _ => nofun, _, ⟨rfl, rfl, .inl ⟨rfl, rfl⟩⟩, rfl⟩
  | ok payload =>
      rw [result] at returns
      obtain ⟨_, _, _, rfl, created, stores⟩ := Returns.of_andThen returns
      obtain ⟨_, _, _, rfl, stored, stops⟩ := Returns.of_andThen stores
      obtain rfl := returns_writeFile stored
      obtain ⟨rfl, same⟩ := returns_pure.mp stops
      cases same
      refine ⟨fun redact => ?_, _, ⟨rfl, rfl, .inr ⟨payload.1, ?_, rfl, rfl⟩⟩, rfl⟩
      · refine noRpcFails_append.mpr ⟨(quiet_trace created ⟨trivial, fun _ => trivial⟩).2, ?_⟩
        exact List.forall_mem_singleton.mpr id
      · rw [writes_append, (@quiet_trace crates false _ _ _ _ created ⟨trivial, fun _ => trivial⟩).1]
        rfl

/-- Every log has an entry, whether it is captured, missing or over the limit. -/
theorem captureLog_ok (returns : Returns (captureLog crates paths args devicePath collected captured)
      trace (.ok (collected', captured'))) :
    (∀ redact, NoRpcFails crates redact trace) ∧ ∃ artefact,
      IsEntry crates (logItem devicePath) artefact (writes trace) ∧
      collected'.artefacts = collected.artefacts ++ [artefact] := by
  rw [captureLog] at returns
  cases named : deviceLogTarballPath devicePath with
  | error e =>
      rw [named] at returns
      obtain ⟨-, same⟩ := returns_pure.mp returns
      cases same
  | ok path =>
      have own : logItem devicePath = (.logFile devicePath, path) := by
        rw [logItem, logPath, named]
        rfl
      rw [named] at returns
      dsimp only at returns
      rw [own]
      split at returns
      · obtain ⟨rfl, same⟩ := returns_pure.mp returns
        cases same
        exact ⟨fun _ => nofun, _, ⟨rfl, rfl, .inl ⟨rfl, rfl⟩⟩, rfl⟩
      · obtain ⟨answer, rest, rfl, stored⟩ := returns_step.mp returns
        obtain ⟨quiet, artefact, entry, added⟩ := storeLog_ok stored
        exact ⟨fun redact => List.forall_mem_cons.mpr ⟨id, quiet redact⟩, artefact, entry, added⟩

theorem captureLogs_ok {logs : List Text}
    (returns : Returns (captureLogs crates paths args logs (collected, captured)) trace
      (.ok collected')) :
    (∀ redact, NoRpcFails crates redact trace) ∧ ∃ artefacts,
      Entries crates (logs.map logItem) artefacts (writes trace) ∧
      collected'.artefacts = collected.artefacts ++ artefacts := by
  induction logs generalizing collected captured trace with
  | nil =>
      obtain ⟨rfl, same⟩ := returns_pure.mp returns
      cases same
      exact ⟨fun _ => nofun, [], .nil, (List.append_nil _).symm⟩
  | cons log rest ih =>
      obtain ⟨first, second, ⟨next, count⟩, rfl, here, later⟩ := Returns.of_andThen returns
      obtain ⟨quietHere, artefact, entry, own⟩ := captureLog_ok here
      obtain ⟨quiet, artefacts, entries, added⟩ := ih later
      refine ⟨fun redact => noRpcFails_append.mpr ⟨quietHere redact, quiet redact⟩,
        artefact :: artefacts, ?_, ?_⟩
      · rw [writes_append]
        exact .cons entry entries
      · rw [added, own, List.append_assoc, List.singleton_append]

end Logs

/-! ## Names of files -/

/-- All RPCs any problem type asks for. -/
def knownRpcs : List BundleRpc :=
  (baselineRpcs.map (·, []) ++ ProblemType.all.flatMap fun pt : ProblemType =>
    pt.additionalRpcs.map (·, []) ++ pt.additionalRpcsWithArgs).dedup

def knownLogs : List Text := (baselineLogs ++ ProblemType.all.flatMap ProblemType.additionalLogs).dedup

theorem knownRpcs_paths : (knownRpcs.map fun rpc => (rpcItem rpc).2).Nodup := by decide

theorem knownLogs_paths : (knownLogs.map fun log => (logItem log).2).Nodup := by decide

theorem knownLogs_apart : ∀ log ∈ knownLogs, (logItem log).2.head? = some 'l' := by
  decide

section Names

variable {problemTypes : List ProblemType}

theorem ProblemType.mem_all (problemType : ProblemType) : problemType ∈ ProblemType.all := by
  cases problemType <;> decide

theorem requestedRpcs_known : requestedRpcs problemTypes ⊆ knownRpcs := by
  intro rpc asked
  rw [knownRpcs, List.mem_dedup]
  rcases List.mem_append.mp (mem_orderedSet.mp asked) with baseline | additional
  · exact List.mem_append_left _ baseline
  · obtain ⟨problemType, -, inside⟩ := List.mem_flatMap.mp additional
    exact List.mem_append_right _ (List.mem_flatMap.mpr ⟨problemType, problemType.mem_all, inside⟩)

theorem requestedLogs_known : requestedLogs problemTypes ⊆ knownLogs := by
  intro log asked
  rw [knownLogs, List.mem_dedup]
  rcases List.mem_append.mp (mem_orderedSet.mp asked) with baseline | additional
  · exact List.mem_append_left _ baseline
  · obtain ⟨problemType, -, inside⟩ := List.mem_flatMap.mp additional
    exact List.mem_append_right _ (List.mem_flatMap.mpr ⟨problemType, problemType.mem_all, inside⟩)

theorem logsFor_subset {args : SupportBundleArgs} : logsFor args problemTypes ⊆ knownLogs := by
  rw [logsFor]
  split
  · exact requestedLogs_known
  · exact List.nil_subset _

theorem logsFor_nodup {args : SupportBundleArgs} : (logsFor args problemTypes).Nodup := by
  rw [logsFor]
  split
  · exact orderedSet_nodup
  · exact .nil

/-- No two files of a bundle have one name. -/
theorem requested_paths_nodup {args : SupportBundleArgs} {kept : List BundleRpc}
    (part : kept.Sublist (requestedRpcs problemTypes)) :
    ((kept.map rpcItem ++ (logsFor args problemTypes).map logItem).map Prod.snd).Nodup := by
  rw [List.map_append, List.map_map, List.map_map]
  refine List.nodup_append.mpr ⟨?_, ?_, ?_⟩
  · refine (List.nodup_map_iff_inj_on (orderedSet_nodup.sublist part)).mpr ?_
    intro a insideA b insideB same
    exact List.inj_on_of_nodup_map knownRpcs_paths (requestedRpcs_known (part.subset insideA))
      (requestedRpcs_known (part.subset insideB)) same
  · refine (List.nodup_map_iff_inj_on logsFor_nodup).mpr ?_
    intro a insideA b insideB same
    exact List.inj_on_of_nodup_map knownLogs_paths (logsFor_subset insideA) (logsFor_subset insideB)
      same
  · intro path ofRpc other ofLog same
    obtain ⟨rpc, -, rfl⟩ := List.mem_map.mp ofRpc
    obtain ⟨log, inside, rfl⟩ := List.mem_map.mp ofLog
    have head := knownLogs_apart log (logsFor_subset inside)
    have first : ((rpcItem rpc).2).head? = some 'r' := rfl
    have equal : (rpcItem rpc).2 = (logItem log).2 := same
    rw [equal, head] at first
    cases first

end Names

/-! ## A run -/

/-- What a bundle is asked to have. -/
def requestedSources (args : SupportBundleArgs) : List ArtefactSource :=
  if .generic ∈ args.problemType.intoSet then [.rpc techSupport none]
  else (requestedRpcs args.problemType.intoSet).map rpcSource ++
    (logsFor args args.problemType.intoSet).map .logFile

section Run

variable {crates : BundleCrates} {args : SupportBundleArgs} {router requestId filesystemId : Text}
  {trace : BundleTrace} {data : SupportBundleData}

/-- The manifest is written once, and lists what the answer lists. -/
theorem finalizeLxcBundle_ok {paths : PreparedBundlePaths} {artefacts : List CapturedArtefact}
    {problemTypes : List ProblemType} {anyRedacted redact : Bool}
    (returns : Returns (finalizeLxcBundle router requestId filesystemId paths artefacts problemTypes
      anyRedacted) trace (.ok data)) :
    writes trace = [] ∧ NoRpcFails crates redact trace ∧ data.bundle.artefacts = artefacts ∧
      ∃ manifest, manifests trace = [manifest] ∧ manifest.artefacts = artefacts := by
  have quiet : writes trace = [] ∧ NoRpcFails crates redact trace := by
    refine quiet_trace returns ?_
    refine Prog.Performs.andThen ⟨trivial, fun _ => trivial⟩ fun _ => ?_
    refine Prog.Performs.andThen ⟨trivial, fun _ => trivial⟩ fun _ => ?_
    exact Prog.Performs.andThen ⟨trivial, fun _ => trivial⟩ fun _ => ⟨trivial, fun _ => trivial⟩
  obtain ⟨confined, _, _, rfl, confines, afterConfined⟩ := Returns.of_andThen returns
  obtain ⟨listed, _, _, rfl, lists, afterListed⟩ := Returns.of_andThen afterConfined
  obtain ⟨archived, _, _, rfl, archives, inspects⟩ := Returns.of_andThen afterListed
  obtain ⟨answer, _, rfl, written⟩ := returns_step.mp lists
  obtain ⟨rfl, same⟩ := returns_pure.mp written
  obtain ⟨_, _, rfl, inspected⟩ := returns_step.mp inspects
  obtain ⟨rfl, packed⟩ := returns_pure.mp inspected
  cases answer with
  | error e => cases same
  | ok value =>
      cases packed
      refine ⟨quiet.1, quiet.2, rfl, ⟨requestId, filesystemId, router, problemTypes, artefacts,
        anyRedacted, "srxmcp-support-bundle-v0.3.0".toList⟩, ?_, rfl⟩
      rw [manifests_append, manifests_append, manifests_append,
        unlisted_trace confines ⟨trivial, fun _ => trivial⟩,
        unlisted_trace archives ⟨trivial, fun _ => trivial⟩]
      rfl

section Unlisted

variable {paths : PreparedBundlePaths}

theorem storeReply_unlisted (redact : Bool) (rpc : BundleRpc) (collected : Collected)
    (reply : Except RustEzError Text) :
    (storeReply crates paths router redact rpc collected reply).Performs UnlistedOp := by
  rw [storeReply]
  cases rpcPayload crates redact rpc reply with
  | error message => trivial
  | ok payload =>
      dsimp only
      cases sanitizeRpcFilename rpc with
      | error e => trivial
      | ok filename => exact Prog.Performs.andThen ⟨trivial, fun _ => trivial⟩ fun _ => trivial

theorem captureRpcs_unlisted (redact : Bool) (rpcs : List BundleRpc) (collected : Collected) :
    (captureRpcs crates paths router redact rpcs collected).Performs UnlistedOp := by
  induction rpcs generalizing collected with
  | nil => trivial
  | cons rpc rest ih =>
      refine Prog.Performs.andThen ?_ fun next => ih next
      rw [captureRpc]
      split
      · exact ⟨trivial, storeReply_unlisted redact rpc collected⟩
      · exact ⟨trivial, storeReply_unlisted redact rpc collected⟩

theorem storeLog_unlisted (devicePath path : Text) (collected : Collected) (captured : Nat)
    (answer : Except RustEzError Text) :
    (storeLog crates paths args devicePath path collected captured answer).Performs UnlistedOp := by
  rw [storeLog]
  cases logPayload crates args devicePath answer with
  | error message => trivial
  | ok payload =>
      refine Prog.Performs.andThen ⟨trivial, fun _ => trivial⟩ fun _ => ?_
      exact Prog.Performs.andThen ⟨trivial, fun _ => trivial⟩ fun _ => trivial

theorem captureLogs_unlisted (logs : List Text) (collected : Collected) (captured : Nat) :
    (captureLogs crates paths args logs (collected, captured)).Performs UnlistedOp := by
  induction logs generalizing collected captured with
  | nil => trivial
  | cons log rest ih =>
      refine Prog.Performs.andThen ?_ fun next => ih next.1 next.2
      rw [captureLog]
      cases deviceLogTarballPath log with
      | error e => trivial
      | ok path =>
          dsimp only
          split
          · trivial
          · exact ⟨trivial, storeLog_unlisted log path collected captured⟩

end Unlisted

/-- The artefacts of a bundle of replies and logs, with the files that are written for them. -/
theorem collectPerType_ok {problemTypes : List ProblemType}
    (returns : Returns (collectPerType crates router requestId filesystemId args problemTypes) trace
      (.ok data)) :
    ∃ kept : List BundleRpc, kept.Sublist (requestedRpcs problemTypes) ∧
      (kept = requestedRpcs problemTypes ↔ NoRpcFails crates args.redact trace) ∧
      Entries crates (kept.map rpcItem ++ (logsFor args problemTypes).map logItem)
        data.bundle.artefacts (writes trace) ∧
      ∃ manifest, manifests trace = [manifest] ∧
        manifest.artefacts = data.bundle.artefacts := by
  obtain ⟨prepared, _, paths, rfl, prepares, afterPrepared⟩ := Returns.of_andThen returns
  obtain ⟨created, _, _, rfl, creates, afterCreated⟩ := Returns.of_andThen afterPrepared
  obtain ⟨opened, _, _, rfl, opens, afterOpened⟩ := Returns.of_andThen afterCreated
  obtain ⟨called, _, replies, rfl, calls, afterCalled⟩ := Returns.of_andThen afterOpened
  obtain ⟨logged, _, collected, rfl, logs, afterLogged⟩ := Returns.of_andThen afterCalled
  obtain ⟨checked, finished, _, rfl, checks, finishes⟩ := Returns.of_andThen afterLogged
  obtain ⟨rfl, -⟩ := returns_pure.mp checks
  have preparing := @quiet_trace crates args.redact _ _ _ _ prepares ⟨trivial, fun _ => trivial⟩
  have creating := @quiet_trace crates args.redact _ _ _ _ creates ⟨trivial, fun _ => trivial⟩
  have opening := @quiet_trace crates args.redact _ _ _ _ opens ⟨trivial, fun _ => trivial⟩
  obtain ⟨kept, artefacts, part, all, entries, added⟩ := captureRpcs_ok calls
  obtain ⟨logging, logArtefacts, logEntries, logAdded⟩ := captureLogs_ok logs
  obtain ⟨stored, finishing, same, manifest, lists, listed⟩ :=
    @finalizeLxcBundle_ok crates _ _ _ _ _ _ _ _ _ args.redact finishes
  refine ⟨kept, part, ?_, ?_, manifest, ?_, listed.trans same.symm⟩
  · simp only [noRpcFails_append, preparing.2, creating.2, opening.2, logging, finishing,
      true_and, and_true, List.nil_append]
    exact all
  · have whole : data.bundle.artefacts = artefacts ++ logArtefacts := by
      rw [same, logAdded, added]
      rfl
    simp only [writes_append, preparing.1, creating.1, opening.1, stored, List.nil_append,
      List.append_nil]
    rw [whole]
    exact entries.append logEntries
  · simp only [manifests_append, lists, unlisted_trace prepares ⟨trivial, fun _ => trivial⟩,
      unlisted_trace creates ⟨trivial, fun _ => trivial⟩,
      unlisted_trace opens ⟨trivial, fun _ => trivial⟩,
      unlisted_trace calls (captureRpcs_unlisted _ _ _),
      unlisted_trace logs (captureLogs_unlisted _ _ _), List.nil_append]

/-- Tech support is the only artefact of its bundle. -/
theorem collectGeneric_ok
    (returns : Returns (collectGeneric crates router requestId filesystemId args) trace (.ok data)) :
    NoRpcFails crates args.redact trace ∧
      Entries crates [(.rpc techSupport none, genericFile)] data.bundle.artefacts (writes trace) ∧
      ∃ manifest, manifests trace = [manifest] ∧
        manifest.artefacts = data.bundle.artefacts := by
  obtain ⟨prepared, _, paths, rfl, prepares, afterPrepared⟩ := Returns.of_andThen returns
  obtain ⟨opened, _, _, rfl, opens, afterOpened⟩ := Returns.of_andThen afterPrepared
  obtain ⟨asked, _, raw, rfl, asks, afterAsked⟩ := Returns.of_andThen afterOpened
  obtain ⟨redacted, _, ⟨payload, changed⟩, rfl, redacts, afterRedacted⟩ :=
    Returns.of_andThen afterAsked
  obtain ⟨stored, finished, _, rfl, stores, finishes⟩ := Returns.of_andThen afterRedacted
  obtain ⟨rfl, -⟩ := returns_pure.mp redacts
  obtain rfl := returns_writeFile stores
  have preparing := @quiet_trace crates args.redact _ _ _ _ prepares ⟨trivial, fun _ => trivial⟩
  have opening := @quiet_trace crates args.redact _ _ _ _ opens ⟨trivial, fun _ => trivial⟩
  have asking := @quiet_trace crates args.redact _ _ _ _ asks ⟨trivial, fun _ => trivial⟩
  obtain ⟨none, finishing, same, manifest, lists, listed⟩ :=
    @finalizeLxcBundle_ok crates _ _ _ _ _ _ _ _ _ args.redact finishes
  refine ⟨?_, ?_, manifest, ?_, listed.trans same.symm⟩
  · simp only [noRpcFails_append, preparing.2, opening.2, asking.2, finishing, true_and, and_true,
      List.nil_append]
    exact List.forall_mem_singleton.mpr id
  · simp only [writes_append, preparing.1, opening.1, asking.1, none, List.nil_append,
      List.append_nil, same]
    exact .cons ⟨rfl, rfl, .inr ⟨payload, rfl, rfl, rfl⟩⟩ .nil
  · simp only [manifests_append, lists, unlisted_trace prepares ⟨trivial, fun _ => trivial⟩,
      unlisted_trace opens ⟨trivial, fun _ => trivial⟩,
      unlisted_trace asks ⟨trivial, fun _ => trivial⟩, List.nil_append]
    rfl

theorem collect_ok
    (returns : Returns (collect crates requestId filesystemId args) trace (.ok data)) :
    ∃ manifest, manifests trace = [manifest] ∧ manifest.artefacts = data.bundle.artefacts ∧
      (Complete crates (requestedSources args) (writes trace) manifest.artefacts ↔
        NoRpcFails crates args.redact trace) := by
  rw [collect] at returns
  split at returns
  · rename_i generic
    obtain ⟨quiet, entries, manifest, lists, same⟩ := collectGeneric_ok returns
    refine ⟨manifest, lists, same, fun _ => quiet, fun _ => ?_⟩
    rw [requestedSources, if_pos generic, same]
    exact ⟨.of_eq entries.sources, entries.captured (List.nodup_singleton _)⟩
  · rename_i perType
    obtain ⟨kept, part, all, entries, manifest, lists, same⟩ := collectPerType_ok returns
    refine ⟨manifest, lists, same, ?_⟩
    have sources : data.bundle.artefacts.map CapturedArtefact.source = kept.map rpcSource ++
        (logsFor args args.problemType.intoSet).map .logFile := by
      rw [entries.sources, List.map_append, List.map_map, List.map_map]
      rfl
    rw [← all, requestedSources, if_neg perType, same]
    constructor
    · intro complete
      have lengths := complete.once.length_eq
      rw [sources] at lengths
      simp only [List.length_append, List.length_map, Nat.add_right_cancel_iff] at lengths
      exact part.eq_of_length lengths
    · intro whole
      refine ⟨.of_eq ?_, entries.captured (requested_paths_nodup part)⟩
      rw [sources, whole]

/-- The manifest is complete exactly where no RPC fails. -/
theorem run_manifest_iff {response : SrxToolResponse SupportBundleData}
    (returns : Returns (run crates args) trace (.ok response)) :
    ∃ data manifest, response.data = some data ∧ manifests trace = [manifest] ∧
      manifest.artefacts = data.bundle.artefacts ∧
      (Complete crates (requestedSources args) (writes trace) manifest.artefacts ↔
        NoRpcFails crates args.redact trace) := by
  rw [run] at returns
  split at returns
  · cases (returns_pure.mp returns).2
  split at returns
  · cases (returns_pure.mp returns).2
  obtain ⟨_, _, _, rfl, validates, afterValidated⟩ := Returns.of_andThen returns
  obtain ⟨rfl, -⟩ := returns_pure.mp validates
  obtain ⟨filesystemId, _, rfl, afterMinted⟩ := returns_step.mp afterValidated
  obtain ⟨_, _, requestId, rfl, chooses, afterChosen⟩ := Returns.of_andThen afterMinted
  obtain ⟨rfl, -⟩ := returns_pure.mp chooses
  obtain ⟨acquired, _, rfl, afterAcquired⟩ := returns_step.mp afterChosen
  split at afterAcquired
  · obtain ⟨collected, _, data, rfl, collects, answers⟩ := Returns.of_andThen afterAcquired
    obtain ⟨rfl, answered⟩ := returns_pure.mp answers
    cases answered
    obtain ⟨manifest, lists, same, iff⟩ := collect_ok collects
    refine ⟨data, manifest, rfl, by rw [← lists, List.append_nil]; rfl, same, ?_⟩
    rw [List.append_nil]
    refine iff.trans ⟨fun quiet => ?_, fun quiet event inside => ?_⟩
    · exact List.forall_mem_cons.mpr ⟨id, List.forall_mem_cons.mpr ⟨id, quiet⟩⟩
    · exact quiet event (List.mem_cons_of_mem _ (List.mem_cons_of_mem _ inside))
  · cases (returns_pure.mp afterAcquired).2

end Run

/-! A device without the application package, where the call for its version fails. -/

def appidCrates : BundleCrates where
  redactXml := .ok
  redactLogArtefact := .ok
  sha256Hex payload := if payload = "<ok/>".toList then
    "ce6313e987f06310ef953911c7e9cb0a".toList ++ "b963559ca2801c67daf1c10093c45089".toList else []

def appidArgs : SupportBundleArgs where
  router := "srx".toList
  problemType := .one .idpAppid
  requestId := some "r1".toList
  includeLogs := false
  redact := false
  maxLogBytesPerFile := 1024
  maxLogFiles := 4
  timeout := 60

def appidAnswers : (op : BundleOp) → BundleAnswer op
  | .mintFilesystemId => "f1".toList
  | .tryAcquire _ => true
  | .prepare .. => .ok ⟨"/s/f1".toList, "/s/f1.tgz".toList⟩
  | .createDir _ | .writeFile .. | .writeManifest _ | .rpc | .ensureConfined | .archive => .ok ()
  | .call name => if name = "get-appid-package-version".toList then
      .error ⟨.netconf (.rpc .other), "syntax error".toList⟩ else .ok "<ok/>".toList
  | .callXml _ | .cli _ => .ok []
  | .cliWithin .. => none
  | .inspectTarball => (0, [])

def appidRun : BundleTrace × Except SrxError (SrxToolResponse SupportBundleData) :=
  (run appidCrates appidArgs).play appidAnswers

theorem appidRun_returns :
    ∃ response, Returns (run appidCrates appidArgs) appidRun.1 (.ok response) := by
  have returns := returns_play appidAnswers (run appidCrates appidArgs)
  have answered : appidRun.2.toOption.isSome = true := by decide
  change Returns _ appidRun.1 appidRun.2 at returns
  cases result : appidRun.2 with
  | error e =>
      rw [result] at answered
      cases answered
  | ok response => exact ⟨response, result ▸ returns⟩

theorem appid_manifest_iff : ∃ (data : SupportBundleData) (manifest : BundleManifest),
    manifests appidRun.1 = [manifest] ∧
    manifest.artefacts = data.bundle.artefacts ∧
    (Complete appidCrates (requestedSources appidArgs) (writes appidRun.1) manifest.artefacts ↔
      NoRpcFails appidCrates false appidRun.1) := by
  obtain ⟨response, returns⟩ := appidRun_returns
  obtain ⟨data, manifest, -, lists, same, iff⟩ := run_manifest_iff returns
  exact ⟨data, manifest, lists, same, iff⟩

/-- The version that has not been answered is missing from the manifest. -/
theorem appid_unlisted : ∃ response manifest,
    Returns (run appidCrates appidArgs) appidRun.1 (.ok response) ∧
    manifests appidRun.1 = [manifest] ∧
    ¬ Complete appidCrates (requestedSources appidArgs) (writes appidRun.1) manifest.artefacts := by
  obtain ⟨response, returns⟩ := appidRun_returns
  have shorter : (manifests appidRun.1).map (·.artefacts.length) = [5] := by decide
  have asked : (requestedSources appidArgs).length = 6 := by decide
  obtain ⟨manifest, lists, length⟩ := List.map_eq_singleton_iff.mp shorter
  refine ⟨response, manifest, returns, lists, fun complete => ?_⟩
  have equal := complete.once.length_eq
  rw [List.length_map, length, asked] at equal
  cases equal

end JunosMcp.Srx.SupportBundle
