import JunosMcp.JsonMask

/-!
# Redaction of what leaves the server

The crate's redaction takes the value of every key on its denylist. Some keys the server defines
itself are on that list by their spelling, and their values are put back, redacted under a neutral
key. What comes out is the redaction with these keys taken off the denylist.
-/

namespace JunosMcp

open Json

/-- What the server uses of `mecmcp_redact`. -/
structure Redactor where
  /-- `denylist::is_denylisted_key`. -/
  isDenylistedKey : Text → Bool
  redactJsonValue : Json → Json

namespace Redactor

def redactionKeyExemptions : List Text :=
  ["sessions".toList, "session_id".toList, "session_identifier".toList,
    "initiator_cookie".toList, "responder_cookie".toList]

def isExempt (key : Text) : Bool := redactionKeyExemptions.contains key

/-- The key of the wrapper. -/
def neutralKey : Text := "value".toList

variable (R : Redactor)

/-- `wrapped["value"].take()`. -/
def takeNeutral : Json → Json
  | .object members => (get members neutralKey).getD .null
  | _ => .null

mutual

/-- `restore_exempt_fields`. -/
def restoreExemptFields : Json → Json → Json
  | .object orig, .object red => .object (restoreMembers orig red)
  | .array orig, .array red => .array (restoreItems orig red)
  | _, red => red
termination_by structural orig => orig

def restoreItems : List Json → List Json → List Json
  | origV :: orig, redV :: red => restoreExemptFields origV redV :: restoreItems orig red
  | _, red => red
termination_by structural orig => orig

def restoreMembers : List (Text × Json) → List (Text × Json) → List (Text × Json)
  | [], red => red
  | member :: orig, red => restoreMembers orig (match get red member.1 with
      | none => red
      | some redV => insert member.1 (restoreMember member redV) red)
termination_by structural orig => orig

/-- The call on the wrapper is unfolded: of its object only the neutral key is there, which is not
exempt. -/
def restoreMember : Text × Json → Json → Json
  | (key, origV), redV =>
      if isExempt key then
        match R.redactJsonValue (.object [(neutralKey, origV)]) with
        | .object red => match get red neutralKey with
            | none => .null
            | some wrappedV =>
                if R.isDenylistedKey neutralKey then wrappedV
                else restoreExemptFields origV wrappedV
        | _ => .null
      else if R.isDenylistedKey key then redV
      else restoreExemptFields origV redV
termination_by structural orig => orig

end

/-- `redact_json_preserving_server_fields`. -/
def redactPreserving (value : Json) : Json :=
  R.restoreExemptFields value (R.redactJsonValue value)

/-- The redaction of a value as it stands under a key that is neither exempt nor on the denylist. -/
def underNeutralKey (value : Json) : Json :=
  takeNeutral (R.redactPreserving (.object [(neutralKey, value)]))

variable {R}

theorem restoreMember_exempt {key : Text} (exempt : isExempt key = true) (origV redV : Json) :
    R.restoreMember (key, origV) redV = R.underNeutralKey origV := by
  have plain : isExempt neutralKey = false := by decide
  rw [restoreMember, if_pos exempt, underNeutralKey, redactPreserving]
  cases R.redactJsonValue (.object [(neutralKey, origV)]) with
  | object red =>
      rw [restoreExemptFields, restoreMembers, restoreMembers]
      dsimp only
      cases inside : get red neutralKey with
      | none =>
          dsimp only [takeNeutral]
          rw [inside]
          rfl
      | some wrappedV =>
          dsimp only [takeNeutral]
          rw [get_insert_self, restoreMember, plain]
          rfl
  | _ => rfl

/-! ## What is known of the crate -/

/-- A value under a key of the denylist is replaced as a whole, other values are redacted in their
place, and no text of a secret's shape is left. -/
structure Documented (R : Redactor) (marker : Text) (isSecret : Text → Prop) : Prop where
  object : ∀ members, R.redactJsonValue (.object members) = .object (members.map fun member =>
    (member.1, if R.isDenylistedKey member.1 then .string marker
      else R.redactJsonValue member.2))
  array : ∀ items, R.redactJsonValue (.array items) = .array (items.map R.redactJsonValue)
  leaf : ∀ v : Json, v.isLeaf = true → (R.redactJsonValue v).isLeaf = true
  idempotent : ∀ v, UniqueKeys v → R.redactJsonValue (R.redactJsonValue v) = R.redactJsonValue v
  noSecret : ∀ v path s, lookup path (R.redactJsonValue v) = some (.string s) → ¬ isSecret s
  neutral : R.isDenylistedKey neutralKey = false

/-- The denylist without the exempt keys. -/
def isHidden (R : Redactor) (key : Text) : Bool := R.isDenylistedKey key && !isExempt key

theorem not_hidden_of_exempt {key : Text} (exempt : isExempt key = true) :
    R.isHidden key = false := by
  rw [isHidden, exempt, Bool.not_true, Bool.and_false]

/-- The redaction as if the exempt keys were not on the denylist. -/
def redactExcept (R : Redactor) (marker : Text) : Json → Json :=
  mask R.isHidden (.string marker) R.redactJsonValue

/-! ## Members -/

theorem get_append_new {done rest : List (Text × Json)} {key : Text}
    (new : key ∉ done.map Prod.fst) : Json.get (done ++ rest) key = Json.get rest key := by
  induction done with
  | nil => rfl
  | cons member done ih =>
      rw [List.map_cons, List.mem_cons, not_or] at new
      have later := ih new.2
      rw [Json.get] at later ⊢
      rw [List.cons_append, List.find?_cons_of_neg (by simpa using Ne.symm new.1)]
      exact later

theorem insert_append_new {done rest : List (Text × Json)} {key : Text} {value : Json}
    (new : key ∉ done.map Prod.fst) :
    Json.insert key value (done ++ rest) = done ++ Json.insert key value rest := by
  induction done with
  | nil => rfl
  | cons member done ih =>
      rw [List.map_cons, List.mem_cons, not_or] at new
      rw [List.cons_append, Json.insert, if_neg (Ne.symm new.1), ih new.2, List.cons_append]

/-- The members of an object are restored one after the other, each in its place. -/
theorem restoreMembers_map {f g : Text × Json → Json} {orig : List (Text × Json)} :
    ∀ {done : List (Text × Json)}, (done.map Prod.fst ++ orig.map Prod.fst).Nodup →
      (∀ member ∈ orig, R.restoreMember member (f member) = g member) →
      R.restoreMembers orig (done ++ orig.map fun member => (member.1, f member)) =
        done ++ orig.map fun member => (member.1, g member) := by
  induction orig with
  | nil =>
      intro done _ _
      rw [restoreMembers]
      rfl
  | cons member orig ih =>
      intro done unique each
      have new : member.1 ∉ done.map Prod.fst := fun inside =>
        (List.nodup_append.mp unique).2.2 _ inside _ List.mem_cons_self rfl
      have here : Json.get ((member.1, f member) :: orig.map fun member => (member.1, f member))
          member.1 = some (f member) := by
        rw [Json.get, List.find?_cons_of_pos (by simp)]
        rfl
      have moved : ((done ++ [(member.1, g member)]).map Prod.fst ++ orig.map Prod.fst).Nodup := by
        simpa using unique
      have rest := @ih (done ++ [(member.1, g member)]) moved fun m inside =>
        each m (List.mem_cons_of_mem _ inside)
      rw [restoreMembers, List.map_cons, get_append_new new, here]
      dsimp only
      rw [insert_append_new new, Json.insert, if_pos rfl, each member List.mem_cons_self]
      simpa using rest

theorem restoreItems_map {f g : Json → Json} {orig : List Json}
    (each : ∀ v ∈ orig, R.restoreExemptFields v (f v) = g v) :
    R.restoreItems orig (orig.map f) = orig.map g := by
  induction orig with
  | nil => rfl
  | cons v orig ih =>
      rw [List.forall_mem_cons] at each
      rw [List.map_cons, List.map_cons, restoreItems, each.1, ih each.2]

theorem restoreExemptFields_leaf {orig red : Json} (leaf : orig.isLeaf = true) :
    R.restoreExemptFields orig red = red := by
  cases orig with
  | array items => cases leaf
  | object members => cases leaf
  | _ => rfl

/-! ## The whole value -/

/-- Under the neutral key a value is redacted as it is anywhere else. -/
theorem Documented.underNeutralKey_eq {marker : Text} {isSecret : Text → Prop}
    (documented : R.Documented marker isSecret) (v : Json) :
    R.underNeutralKey v = R.redactPreserving v := by
  have plain : isExempt neutralKey = false := by decide
  have wrapped : R.redactJsonValue (.object [(neutralKey, v)]) =
      .object [(neutralKey, R.redactJsonValue v)] := by
    rw [documented.object, List.map_singleton, documented.neutral]
    rfl
  have one (w : Json) : Json.get [(neutralKey, w)] neutralKey = some w := by
    rw [Json.get, List.find?_cons_of_pos (by simp)]
    rfl
  rw [underNeutralKey, redactPreserving, wrapped, restoreExemptFields, restoreMembers,
    restoreMembers, one]
  dsimp only
  rw [Json.insert, if_pos rfl, restoreMember, plain, documented.neutral]
  dsimp only [takeNeutral]
  rw [one]
  rfl

theorem Documented.restoreMember_eq {marker : Text} {isSecret : Text → Prop}
    (documented : R.Documented marker isSecret) {member : Text × Json}
    (below : R.redactPreserving member.2 = R.redactExcept marker member.2) :
    R.restoreMember member (if R.isDenylistedKey member.1 then .string marker
        else R.redactJsonValue member.2) =
      if R.isHidden member.1 then .string marker else R.redactExcept marker member.2 := by
  obtain ⟨key, v⟩ := member
  dsimp only at below ⊢
  cases exempt : isExempt key with
  | true =>
      rw [restoreMember_exempt exempt, documented.underNeutralKey_eq, below,
        not_hidden_of_exempt exempt]
      rfl
  | false =>
      rw [isHidden, exempt, Bool.not_false, Bool.and_true, restoreMember, exempt]
      cases R.isDenylistedKey key with
      | true => rfl
      | false => exact below

/-- What comes out is the redaction with the exempt keys taken off the denylist. -/
theorem Documented.redactPreserving_eq {marker : Text} {isSecret : Text → Prop}
    (documented : R.Documented marker isSecret) {v : Json} (unique : UniqueKeys v) :
    R.redactPreserving v = R.redactExcept marker v := by
  induction unique with
  | leaf is => rw [redactPreserving, restoreExemptFields_leaf is, redactExcept, mask_leaf is]
  | array _ ih =>
      rw [redactPreserving, documented.array, restoreExemptFields, redactExcept, mask_array]
      exact congrArg _ (restoreItems_map ih)
  | object keys _ ih =>
      rw [redactPreserving, documented.object, restoreExemptFields, redactExcept, mask_object]
      refine congrArg _ ?_
      exact @restoreMembers_map R _ _ _ [] keys fun member inside =>
        documented.restoreMember_eq (ih member inside)

/-! ## What is restored -/

/-- The values are alike but for what stands under an exempt key with no key of the denylist
above. -/
inductive AlikeOutside (R : Redactor) : Json → Json → Prop where
  | same (v : Json) : AlikeOutside R v v
  | array (items : List (Json × Json)) : (∀ item ∈ items, AlikeOutside R item.1 item.2) →
      AlikeOutside R (.array (items.map Prod.fst)) (.array (items.map Prod.snd))
  | object (members : List (Text × Json × Json)) :
      (∀ member ∈ members, isExempt member.1 = false → R.isDenylistedKey member.1 = true →
        member.2.1 = member.2.2) →
      (∀ member ∈ members, isExempt member.1 = false → R.isDenylistedKey member.1 = false →
        AlikeOutside R member.2.1 member.2.2) →
      AlikeOutside R (.object (members.map fun member => (member.1, member.2.1)))
        (.object (members.map fun member => (member.1, member.2.2)))

section

variable {marker : Text} {isSecret : Text → Prop} (documented : R.Documented marker isSecret)

include documented

theorem Documented.alikeOutside {v : Json} (unique : UniqueKeys v) :
    AlikeOutside R (R.redactExcept marker v) (R.redactJsonValue v) := by
  induction unique with
  | leaf is =>
      rw [redactExcept, mask_leaf is]
      exact .same _
  | @array items _ ih =>
      rw [redactExcept, mask_array, documented.array]
      have both := AlikeOutside.array (R := R)
        (items.map fun v => (R.redactExcept marker v, R.redactJsonValue v))
        (List.forall_mem_map.mpr ih)
      rw [List.map_map, List.map_map] at both
      exact both
  | @object members _ _ ih =>
      rw [redactExcept, mask_object, documented.object]
      have both := AlikeOutside.object (R := R)
        (members.map fun member => (member.1,
          if R.isHidden member.1 then .string marker else R.redactExcept marker member.2,
          if R.isDenylistedKey member.1 then .string marker else R.redactJsonValue member.2))
        (List.forall_mem_map.mpr fun member _ plain denied => by
          dsimp only at plain denied ⊢
          rw [isHidden, plain, denied]
          rfl)
        (List.forall_mem_map.mpr fun member inside plain allowed => by
          dsimp only at plain allowed ⊢
          rw [isHidden, allowed]
          exact ih member inside)
      rw [List.map_map, List.map_map] at both
      exact both

/-- Where a key is hidden, the marker is a text the crate leaves, and so is no secret. -/
theorem Documented.marker_plain {key : Text} (hides : R.isHidden key = true) :
    ¬ isSecret marker := by
  have denied : R.isDenylistedKey key = true := by
    rw [isHidden, Bool.and_eq_true] at hides
    exact hides.1
  refine documented.noSecret (.object [(key, .null)]) [.member key] marker ?_
  rw [documented.object, List.map_singleton, denied, lookup, child]
  simp [Json.get, lookup]

theorem Documented.no_secret {v : Json} {path : List Step} {s : Text}
    (found : lookup path (R.redactExcept marker v) = some (.string s)) : ¬ isSecret s := by
  rcases lookup_mask_leaf documented.leaf rfl found rfl with ⟨same, key, hides⟩ | ⟨u, -, same⟩
  · cases same
    exact documented.marker_plain hides
  · exact documented.noSecret u [] s (congrArg some same.symm)

end

/-- Only what stands under an exempt key is put back, redacted as under a neutral key; no other key
of the denylist keeps its value, no text is a secret, and a second pass changes nothing. -/
theorem redactPreserving_restores (R : Redactor) (marker : Text) (isSecret : Text → Prop)
    (documented : R.Documented marker isSecret) (v : Json) (unique : UniqueKeys v) :
    AlikeOutside R (R.redactPreserving v) (R.redactJsonValue v) ∧
    (∀ path key x, (∀ above, Step.member above ∈ path →
        R.isDenylistedKey above = true → isExempt above = true) →
      isExempt key = true → lookup (path ++ [.member key]) v = some x →
        lookup (path ++ [.member key]) (R.redactPreserving v) = some (R.underNeutralKey x)) ∧
    (∀ path key x, R.isDenylistedKey key = true → isExempt key = false →
      lookup (path ++ [.member key]) (R.redactPreserving v) = some x → x = .string marker) ∧
    (∀ path s, lookup path (R.redactPreserving v) = some (.string s) → ¬ isSecret s) ∧
    R.redactPreserving (R.redactPreserving v) = R.redactPreserving v := by
  have whole : R.redactPreserving v = R.redactExcept marker v := documented.redactPreserving_eq unique
  rw [whole]
  refine ⟨documented.alikeOutside unique, ?_, ?_, fun path s => documented.no_secret, ?_⟩
  · intro path key x above exempt found
    have shown : ∀ k, Step.member k ∈ path ++ [.member key] → R.isHidden k = false := by
      intro k inside
      rcases List.mem_append.mp inside with earlier | last
      · cases denied : R.isDenylistedKey k with
        | true => exact not_hidden_of_exempt (above k earlier denied)
        | false => rw [isHidden, denied, Bool.false_and]
      · cases List.mem_singleton.mp last
        exact not_hidden_of_exempt exempt
    rw [redactExcept, lookup_mask documented.leaf shown, found, documented.underNeutralKey_eq]
    have within := unique.lookup found
    rw [documented.redactPreserving_eq within]
    rfl
  · intro path key x denied plain found
    have hides : R.isHidden key = true := by
      rw [isHidden, denied, plain]
      rfl
    exact lookup_hidden documented.leaf rfl hides found
  · have kept : UniqueKeys (R.redactExcept marker v) := unique.mask rfl documented.leaf
    rw [documented.redactPreserving_eq kept]
    exact unique.mask_mask documented.leaf fun u is => documented.idempotent u (.leaf is)

/-! ### A session row -/

def sampleMarker : Text := "[REDACTED]".toList

def sampleSecret (s : Text) : Bool := Text.startsWith s "$9$".toList

def sampleLeaf : Json → Json
  | .string s => if sampleSecret s then .string sampleMarker else .string s
  | v => v

def sampleDenylisted (key : Text) : Bool :=
  Text.contains key "session".toList || Text.contains key "password".toList

def sampleRedactor : Redactor where
  isDenylistedKey := sampleDenylisted
  redactJsonValue := mask sampleDenylisted (.string sampleMarker) sampleLeaf

theorem sampleLeaf_isLeaf {v : Json} (is : v.isLeaf = true) : (sampleLeaf v).isLeaf = true := by
  cases v with
  | string s =>
      rw [sampleLeaf]
      split <;> rfl
  | array items => cases is
  | object members => cases is
  | _ => rfl

theorem sampleLeaf_again (v : Json) : sampleLeaf (sampleLeaf v) = sampleLeaf v := by
  cases v with
  | string s =>
      rw [sampleLeaf]
      split
      · rfl
      · next plain => rw [sampleLeaf, if_neg plain]
  | _ => rfl

theorem sampleLeaf_plain {v : Json} {s : Text} (same : .string s = sampleLeaf v) :
    ¬ sampleSecret s = true := by
  cases v with
  | string t =>
      rw [sampleLeaf] at same
      split at same
      · cases same
        decide
      · next plain =>
          cases same
          exact plain
  | _ => cases same

theorem sampleRedactor_documented :
    sampleRedactor.Documented sampleMarker fun s => sampleSecret s = true where
  object members := mask_object members
  array items := mask_array items
  leaf v is := by
    dsimp only [sampleRedactor]
    rw [mask_leaf is]
    exact sampleLeaf_isLeaf is
  idempotent v unique := unique.mask_mask (fun _ => sampleLeaf_isLeaf) fun v _ => sampleLeaf_again v
  noSecret v path s found := by
    rcases lookup_mask_leaf (fun _ => sampleLeaf_isLeaf) rfl found rfl with ⟨same, -⟩ | ⟨u, -, same⟩
    · cases same
      decide
    · exact sampleLeaf_plain same
  neutral := by decide

def sessionRow : Json :=
  .object [("session_id".toList, .string "7".toList), ("password".toList, .string "x".toList)]

def sessionTable : Json := .object [("sessions".toList, .array [sessionRow])]

theorem sessionTable_unique : UniqueKeys sessionTable := by
  have row : UniqueKeys sessionRow := by
    refine .object (by decide) ?_
    simp only [List.forall_mem_cons]
    exact ⟨.leaf rfl, .leaf rfl, by simp⟩
  refine .object (by decide) ?_
  rw [List.forall_mem_singleton]
  refine .array ?_
  rw [List.forall_mem_singleton]
  exact row

/-- A key of the denylist keeps its value below an exempt key, since it is exempt as well. -/
theorem session_id_survives :
    sampleRedactor.Documented sampleMarker (fun s => sampleSecret s = true) ∧
      UniqueKeys sessionTable ∧
      sampleRedactor.isDenylistedKey "session_id".toList = true ∧
      lookup [.member "sessions".toList, .item 0, .member "session_id".toList]
        (sampleRedactor.redactPreserving sessionTable) = some (.string "7".toList) ∧
      takeNeutral (sampleRedactor.redactJsonValue (.object [(neutralKey, .array [sessionRow])])) =
        .array [.object [("session_id".toList, .string sampleMarker),
          ("password".toList, .string sampleMarker)]] :=
  ⟨sampleRedactor_documented, sessionTable_unique, by decide, by rfl, by rfl⟩

theorem sessionTable_restored :
    lookup [.member "sessions".toList] (sampleRedactor.redactPreserving sessionTable) =
        some (sampleRedactor.underNeutralKey (.array [sessionRow])) ∧
      sampleRedactor.redactPreserving (sampleRedactor.redactPreserving sessionTable) =
        sampleRedactor.redactPreserving sessionTable := by
  obtain ⟨-, restored, -, -, again⟩ := redactPreserving_restores sampleRedactor sampleMarker
    (fun s => sampleSecret s = true) sampleRedactor_documented sessionTable sessionTable_unique
  exact ⟨restored [] _ _ (by simp) (by decide) rfl, again⟩

end Redactor

end JunosMcp
