import Mathlib.Data.List.Nodup
import JunosMcp.Json

/-!
# JSON schemas

Which values a schema accepts. The applicators of an object schema are read here; what another
keyword says of a value is left to a vocabulary. There are no `patternProperties`.
-/

namespace JunosMcp.JsonSchema

structure Vocabulary where
  /-- What a keyword with this argument says of a value. -/
  assertion : Text → Json → Json → Bool
  description_annotates : ∀ argument value,
    assertion "description".toList argument value = true

/-- The members of an object, and none of another value. -/
def membersOf : Json → List (Text × Json)
  | .object members => members
  | _ => []

def isObject : Json → Bool
  | .object _ => true
  | _ => false

def hasKey (value : Json) (key : Text) : Bool := (membersOf value).any fun member => member.1 = key

/-- The properties a schema with these keywords describes. -/
def described (keywords : List (Text × Json)) : List Text :=
  ((Json.get keywords "properties".toList).elim [] membersOf).map Prod.fst

def requires (value : Json) : Json → Bool
  | .string name => hasKey value name
  | _ => false

def itemsOf : Json → List Json
  | .array items => items
  | _ => []

section Accepts

variable (vocabulary : Vocabulary)

mutual

def accepts : Json → Json → Bool
  | .bool holds, _ => holds
  | .object keywords, value => acceptsAll (described keywords) keywords value
  | _, _ => false
termination_by structural schema => schema

def acceptsAll (names : List Text) : List (Text × Json) → Json → Bool
  | [], _ => true
  | keyword :: rest, value => acceptsKeyword names keyword value && acceptsAll names rest value
termination_by structural schema => schema

def acceptsKeyword (names : List Text) : Text × Json → Json → Bool
  | (key, argument), value =>
      if key = "properties".toList then acceptsProperties argument value
      else if key = "additionalProperties".toList then
        (membersOf value).all fun member => member.1 ∈ names || accepts argument member.2
      else if key = "required".toList then
        !isObject value || (itemsOf argument).all (requires value)
      else if key = "allOf".toList then acceptsEvery argument value
      else if key = "oneOf".toList then acceptsCount argument value == 1
      else if key = "not".toList then !accepts argument value
      else vocabulary.assertion key argument value
termination_by structural schema => schema

/-- Every member of a described name is accepted by its subschema. -/
def acceptsProperties : Json → Json → Bool
  | .object properties, value => acceptsMembers properties value
  | _, _ => false
termination_by structural schema => schema

def acceptsMembers : List (Text × Json) → Json → Bool
  | [], _ => true
  | property :: rest, value => acceptsMember property value && acceptsMembers rest value
termination_by structural schema => schema

def acceptsMember : Text × Json → Json → Bool
  | (name, subschema), value =>
      (membersOf value).all fun member => member.1 != name || accepts subschema member.2
termination_by structural schema => schema

def acceptsEvery : Json → Json → Bool
  | .array schemas, value => acceptsEach schemas value
  | _, _ => false
termination_by structural schema => schema

def acceptsEach : List Json → Json → Bool
  | [], _ => true
  | schema :: rest, value => accepts schema value && acceptsEach rest value
termination_by structural schema => schema

def acceptsCount : Json → Json → Nat
  | .array schemas, value => countAccepting schemas value
  | _, _ => 0
termination_by structural schema => schema

def countAccepting : List Json → Json → Nat
  | [], _ => 0
  | schema :: rest, value => (if accepts schema value then 1 else 0) + countAccepting rest value
termination_by structural schema => schema

end

end Accepts

variable {vocabulary : Vocabulary} {names : List Text} {value : Json}

/-! ## Rules -/

theorem hasKey_iff {members : List (Text × Json)} {key : Text} :
    hasKey (.object members) key = true ↔ key ∈ members.map Prod.fst := by
  simp only [hasKey, membersOf, List.any_eq_true, decide_eq_true_iff, List.mem_map]

theorem acceptsAll_iff {keywords : List (Text × Json)} :
    acceptsAll vocabulary names keywords value = true ↔
      ∀ keyword ∈ keywords, acceptsKeyword vocabulary names keyword value = true := by
  induction keywords with
  | nil => simp [acceptsAll]
  | cons keyword rest ih => simp [acceptsAll, ih]

theorem acceptsMembers_iff {properties : List (Text × Json)} :
    acceptsMembers vocabulary properties value = true ↔
      ∀ property ∈ properties, ∀ member ∈ membersOf value, member.1 = property.1 →
        accepts vocabulary property.2 member.2 = true := by
  induction properties with
  | nil => simp [acceptsMembers]
  | cons property rest ih =>
      rw [acceptsMembers, Bool.and_eq_true, ih, List.forall_mem_cons]
      refine and_congr_left fun _ => ?_
      rw [acceptsMember, List.all_eq_true]
      refine forall₂_congr fun member _ => ?_
      rw [Bool.or_eq_true, bne_iff_ne, ← imp_iff_not_or]

theorem acceptsEach_iff {schemas : List Json} :
    acceptsEach vocabulary schemas value = true ↔
      ∀ schema ∈ schemas, accepts vocabulary schema value = true := by
  induction schemas with
  | nil => simp [acceptsEach]
  | cons schema rest ih => simp [acceptsEach, ih]

theorem countAccepting_eq {schemas : List Json} :
    countAccepting vocabulary schemas value =
      schemas.countP fun schema => accepts vocabulary schema value := by
  induction schemas with
  | nil => rfl
  | cons schema rest ih => rw [countAccepting, ih, List.countP_cons, Nat.add_comm]

section Keywords

variable {argument : Json}

theorem acceptsKeyword_properties {members : List (Text × Json)} :
    acceptsKeyword vocabulary names ("properties".toList, .object members) value = true ↔
      ∀ property ∈ members, ∀ member ∈ membersOf value, member.1 = property.1 →
        accepts vocabulary property.2 member.2 = true := by
  rw [acceptsKeyword, if_pos rfl, acceptsProperties, acceptsMembers_iff]

theorem acceptsKeyword_additionalProperties :
    acceptsKeyword vocabulary names ("additionalProperties".toList, argument) value = true ↔
      ∀ member ∈ membersOf value, member.1 ∉ names →
        accepts vocabulary argument member.2 = true := by
  have other : "additionalProperties".toList ≠ "properties".toList := by decide
  rw [acceptsKeyword, if_neg other, if_pos rfl, List.all_eq_true]
  refine forall₂_congr fun member _ => ?_
  rw [Bool.or_eq_true, decide_eq_true_iff, ← or_iff_not_imp_left]

theorem acceptsKeyword_required {members : List (Text × Json)} {required : List Text} :
    acceptsKeyword vocabulary names ("required".toList, .array (required.map .string))
        (.object members) = true ↔
      ∀ name ∈ required, name ∈ members.map Prod.fst := by
  have other : "required".toList ≠ "properties".toList ∧
      "required".toList ≠ "additionalProperties".toList := by decide
  rw [acceptsKeyword, if_neg other.1, if_neg other.2, if_pos rfl]
  simp only [isObject, Bool.not_true, Bool.false_or, itemsOf, List.all_map, List.all_eq_true,
    Function.comp_apply, requires, hasKey_iff]

theorem acceptsKeyword_allOf {schemas : List Json} :
    acceptsKeyword vocabulary names ("allOf".toList, .array schemas) value = true ↔
      ∀ schema ∈ schemas, accepts vocabulary schema value = true := by
  have other : "allOf".toList ≠ "properties".toList ∧
      "allOf".toList ≠ "additionalProperties".toList ∧ "allOf".toList ≠ "required".toList := by
    decide
  rw [acceptsKeyword, if_neg other.1, if_neg other.2.1, if_neg other.2.2, if_pos rfl,
    acceptsEvery, acceptsEach_iff]

theorem acceptsKeyword_oneOf {schemas : List Json} :
    acceptsKeyword vocabulary names ("oneOf".toList, .array schemas) value = true ↔
      (schemas.countP fun schema => accepts vocabulary schema value) = 1 := by
  have other : "oneOf".toList ≠ "properties".toList ∧
      "oneOf".toList ≠ "additionalProperties".toList ∧ "oneOf".toList ≠ "required".toList ∧
      "oneOf".toList ≠ "allOf".toList := by decide
  rw [acceptsKeyword, if_neg other.1, if_neg other.2.1, if_neg other.2.2.1, if_neg other.2.2.2,
    if_pos rfl, acceptsCount, countAccepting_eq, beq_iff_eq]

theorem acceptsKeyword_not :
    acceptsKeyword vocabulary names ("not".toList, argument) value = true ↔
      ¬accepts vocabulary argument value = true := by
  have other : "not".toList ≠ "properties".toList ∧ "not".toList ≠ "additionalProperties".toList ∧
      "not".toList ≠ "required".toList ∧ "not".toList ≠ "allOf".toList ∧
      "not".toList ≠ "oneOf".toList := by decide
  rw [acceptsKeyword, if_neg other.1, if_neg other.2.1, if_neg other.2.2.1, if_neg other.2.2.2.1,
    if_neg other.2.2.2.2, if_pos rfl, Bool.not_eq_true', Bool.not_eq_true]

theorem acceptsKeyword_description :
    acceptsKeyword vocabulary names ("description".toList, argument) value = true := by
  have other : "description".toList ≠ "properties".toList ∧
      "description".toList ≠ "additionalProperties".toList ∧
      "description".toList ≠ "required".toList ∧ "description".toList ≠ "allOf".toList ∧
      "description".toList ≠ "oneOf".toList ∧ "description".toList ≠ "not".toList := by decide
  obtain ⟨a, b, c, d, e, f⟩ := other
  rw [acceptsKeyword, if_neg a, if_neg b, if_neg c, if_neg d, if_neg e, if_neg f]
  exact vocabulary.description_annotates argument value

/-- Only one keyword looks at the described names. -/
theorem acceptsKeyword_names {keyword : Text × Json} (names' : List Text)
    (other : keyword.1 ≠ "additionalProperties".toList) :
    acceptsKeyword vocabulary names keyword value = acceptsKeyword vocabulary names' keyword value := by
  obtain ⟨key, argument⟩ := keyword
  rw [acceptsKeyword, acceptsKeyword, if_neg other, if_neg other]

end Keywords

/-! ## Schemas of one keyword -/

theorem accepts_keyword {keyword : Text × Json} :
    accepts vocabulary (.object [keyword]) value = true ↔
      acceptsKeyword vocabulary (described [keyword]) keyword value = true := by
  rw [accepts, acceptsAll, acceptsAll, Bool.and_true]

theorem accepts_insert_description {keywords : List (Text × Json)} {argument : Json} :
    accepts vocabulary (.object (Json.insert "description".toList argument keywords)) value =
      accepts vocabulary (.object keywords) value := by
  have same : described (Json.insert "description".toList argument keywords) =
      described keywords := by
    rw [described, described, Json.get_insert_of_ne keywords argument (by decide)]
  rw [accepts, accepts, same]
  generalize described keywords = names
  clear same
  induction keywords with
  | nil =>
      rw [Json.insert, acceptsAll, acceptsAll, acceptsKeyword_description]
      rfl
  | cons keyword rest ih =>
      obtain ⟨key, old⟩ := keyword
      rw [Json.insert]
      split
      · next here =>
          subst here
          rw [acceptsAll, acceptsAll, acceptsKeyword_description, acceptsKeyword_description]
      · rw [acceptsAll, acceptsAll, ih]

/-! ## Object schemas -/

def objectKeywords : List Text :=
  ["properties".toList, "additionalProperties".toList, "required".toList, "allOf".toList]

/-- The schema of an object: beside its properties, what is required and what it combines, no
keyword says anything of an object. -/
structure IsObjectSchema (vocabulary : Vocabulary) (schema : List (Text × Json)) : Prop where
  unique : (schema.map Prod.fst).Nodup
  properties : ∀ argument, Json.get schema "properties".toList = some argument →
    ∃ members, argument = .object members ∧ (members.map Prod.fst).Nodup
  required : ∀ argument, Json.get schema "required".toList = some argument →
    ∃ names : List Text, argument = .array (names.map .string)
  combined : ∀ argument, Json.get schema "allOf".toList = some argument →
    ∃ schemas, argument = .array schemas
  silent : ∀ keyword ∈ schema, keyword.1 ∉ objectKeywords → ∀ members,
    acceptsKeyword vocabulary (described schema) keyword (.object members) = true

def nameOf : Json → Option Text
  | .string name => some name
  | _ => none

def propertiesOf (schema : List (Text × Json)) : List (Text × Json) :=
  (Json.get schema "properties".toList).elim [] membersOf

def requiredNames (schema : List (Text × Json)) : List Text :=
  ((Json.get schema "required".toList).elim [] itemsOf).filterMap nameOf

def combinedWith (schema : List (Text × Json)) : List Json :=
  (Json.get schema "allOf".toList).elim [] itemsOf

/-- A member is read by its property's subschema, or else by the schema of additional ones. -/
def memberAccepted (vocabulary : Vocabulary) (schema : List (Text × Json)) (key : Text)
    (value : Json) : Prop :=
  match Json.get (propertiesOf schema) key with
  | some subschema => accepts vocabulary subschema value = true
  | none => ∀ argument, Json.get schema "additionalProperties".toList = some argument →
      accepts vocabulary argument value = true

theorem get_of_mem {members : List (Text × Json)} (unique : (members.map Prod.fst).Nodup)
    {member : Text × Json} (here : member ∈ members) :
    Json.get members member.1 = some member.2 := by
  induction members with
  | nil => cases here
  | cons first rest ih =>
      obtain ⟨fresh, unique⟩ := List.nodup_cons.mp unique
      rcases List.mem_cons.mp here with rfl | later
      · simp [Json.get]
      · have other : first.1 ≠ member.1 := by
          intro same
          exact fresh (same ▸ List.mem_map_of_mem later)
        simpa [Json.get, other] using ih unique later

theorem get_eq_none {members : List (Text × Json)} {key : Text} :
    Json.get members key = none ↔ key ∉ members.map Prod.fst := by
  rw [Json.get, Option.map_eq_none_iff, List.find?_eq_none, List.mem_map]
  simp only [decide_eq_true_iff]
  constructor
  · rintro none ⟨member, here, same⟩
    exact none member here same
  · intro none member here same
    exact none ⟨member, here, same⟩

theorem memberAccepted_iff {schema : List (Text × Json)}
    (unique : ((propertiesOf schema).map Prod.fst).Nodup) {key : Text} :
    memberAccepted vocabulary schema key value ↔
      (∀ property ∈ propertiesOf schema, key = property.1 →
        accepts vocabulary property.2 value = true) ∧
      ∀ argument, Json.get schema "additionalProperties".toList = some argument →
        key ∉ described schema → accepts vocabulary argument value = true := by
  rw [memberAccepted]
  cases found : Json.get (propertiesOf schema) key with
  | none =>
      have fresh := get_eq_none.mp found
      constructor
      · intro additional
        refine ⟨?_, fun argument here _ => additional argument here⟩
        rintro property member rfl
        exact absurd (List.mem_map_of_mem member) fresh
      · rintro ⟨-, additional⟩ argument here
        exact additional argument here fresh
  | some subschema =>
      have member := Json.get_mem found
      constructor
      · intro accepted
        constructor
        · rintro property here rfl
          rw [get_of_mem unique here] at found
          cases found
          exact accepted
        · intro _ _ fresh
          exact absurd (List.mem_map_of_mem (f := Prod.fst) member) fresh
      · rintro ⟨each, -⟩
        exact each _ member rfl

theorem IsObjectSchema.unique_properties {schema : List (Text × Json)}
    (shape : IsObjectSchema vocabulary schema) :
    ((propertiesOf schema).map Prod.fst).Nodup := by
  rw [propertiesOf]
  cases found : Json.get schema "properties".toList with
  | none => exact List.nodup_nil
  | some argument =>
      obtain ⟨members, rfl, unique⟩ := shape.properties argument found
      exact unique

theorem filterMap_nameOf (names : List Text) : (names.map Json.string).filterMap nameOf = names := by
  induction names with
  | nil => rfl
  | cons name rest ih =>
      have first : nameOf (.string name) = some name := rfl
      rw [List.map_cons, List.filterMap_cons_some first, ih]

/-- What an object schema accepts, told by its members, what is required and what is combined. -/
theorem accepts_object_iff {schema members : List (Text × Json)}
    (shape : IsObjectSchema vocabulary schema) :
    accepts vocabulary (.object schema) (.object members) = true ↔
      (∀ member ∈ members, memberAccepted vocabulary schema member.1 member.2) ∧
      (∀ name ∈ requiredNames schema, name ∈ members.map Prod.fst) ∧
      ∀ combined ∈ combinedWith schema, accepts vocabulary combined (.object members) = true := by
  have stated : ∀ {key argument}, Json.get schema key = some argument →
      accepts vocabulary (.object schema) (.object members) = true →
      acceptsKeyword vocabulary (described schema) (key, argument) (.object members) = true := by
    intro key argument found accepted
    rw [accepts, acceptsAll_iff] at accepted
    exact accepted _ (Json.get_mem found)
  constructor
  · intro accepted
    refine ⟨?_, ?_, ?_⟩
    · intro member here
      rw [memberAccepted_iff shape.unique_properties]
      constructor
      · intro property inside same
        rw [propertiesOf] at inside
        cases found : Json.get schema "properties".toList with
        | none =>
            rw [found] at inside
            cases inside
        | some argument =>
            obtain ⟨properties, rfl, -⟩ := shape.properties argument found
            rw [found] at inside
            exact acceptsKeyword_properties.mp (stated found accepted) property inside member here same
      · intro argument found fresh
        exact acceptsKeyword_additionalProperties.mp (stated found accepted) member here fresh
    · intro name required
      rw [requiredNames] at required
      cases found : Json.get schema "required".toList with
      | none =>
          rw [found] at required
          cases required
      | some argument =>
          obtain ⟨names, rfl⟩ := shape.required argument found
          rw [found, Option.elim_some, itemsOf, filterMap_nameOf] at required
          exact acceptsKeyword_required.mp (stated found accepted) name required
    · intro combined inside
      rw [combinedWith] at inside
      cases found : Json.get schema "allOf".toList with
      | none =>
          rw [found] at inside
          cases inside
      | some argument =>
          obtain ⟨schemas, rfl⟩ := shape.combined argument found
          rw [found] at inside
          exact acceptsKeyword_allOf.mp (stated found accepted) combined inside
  · rintro ⟨each, required, combined⟩
    rw [accepts, acceptsAll_iff]
    rintro ⟨key, argument⟩ inside
    have found : Json.get schema key = some argument := get_of_mem shape.unique inside
    by_cases known : key ∈ objectKeywords
    · simp only [objectKeywords, List.mem_cons, List.not_mem_nil, or_false] at known
      rcases known with rfl | rfl | rfl | rfl
      · obtain ⟨properties, rfl, -⟩ := shape.properties argument found
        rw [acceptsKeyword_properties]
        intro property described member here same
        refine ((memberAccepted_iff shape.unique_properties).mp (each member here)).1 property ?_ same
        rw [propertiesOf, found]
        exact described
      · rw [acceptsKeyword_additionalProperties]
        intro member here fresh
        exact ((memberAccepted_iff shape.unique_properties).mp (each member here)).2 argument found
          fresh
      · obtain ⟨names, rfl⟩ := shape.required argument found
        rw [requiredNames, found, Option.elim_some, itemsOf, filterMap_nameOf] at required
        exact acceptsKeyword_required.mpr required
      · obtain ⟨schemas, rfl⟩ := shape.combined argument found
        rw [combinedWith, found] at combined
        exact acceptsKeyword_allOf.mpr combined
    · exact shape.silent _ inside known members

end JunosMcp.JsonSchema
