import Mathlib.Data.List.Induction
import Mathlib.Data.List.Pairwise
import JunosMcp.SchemaAlias

/-!
# What the schemas with aliases accept

An object is accepted behind `describe_aliases` as before it with every alias renamed, as long as no
group is spelled twice. What the schema combined before is lost.
-/

namespace JunosMcp.SchemaAlias

open JsonSchema

/-! ## Keywords in place -/

section Members

variable {members : List (Text × Json)} {key key' : Text} {value : Json}

theorem get_eq_some_iff (unique : (members.map Prod.fst).Nodup) :
    Json.get members key = some value ↔ (key, value) ∈ members :=
  ⟨Json.get_mem, fun here => get_of_mem unique here⟩

theorem insert_keys (known : key ∈ members.map Prod.fst) :
    (Json.insert key value members).map Prod.fst = members.map Prod.fst := by
  induction members with
  | nil => cases known
  | cons member rest ih =>
      rw [Json.insert]
      split
      · next same => rw [List.map_cons, List.map_cons, same]
      · next other =>
          have later : key ∈ rest.map Prod.fst :=
            (List.mem_cons.mp known).resolve_left fun same => other same.symm
          rw [List.map_cons, List.map_cons, ih later]

theorem insert_new_keys (new : key ∉ members.map Prod.fst) :
    Json.insert key value members = members ++ [(key, value)] := by
  induction members with
  | nil => rfl
  | cons member rest ih =>
      rw [List.map_cons, List.mem_cons, not_or] at new
      rw [Json.insert, if_neg fun same => new.1 same.symm, ih new.2]
      rfl

theorem insert_unique (unique : (members.map Prod.fst).Nodup) :
    ((Json.insert key value members).map Prod.fst).Nodup := by
  by_cases known : key ∈ members.map Prod.fst
  · rw [insert_keys known]
    exact unique
  · rw [insert_new_keys known, List.map_append]
    exact unique.append (List.nodup_singleton key) (by simpa using known)

theorem get_isSome_iff : (∃ value, Json.get members key = some value) ↔
    key ∈ members.map Prod.fst := by
  rw [← not_iff_not, ← get_eq_none, ← Option.isSome_iff_exists, Bool.not_eq_true,
    Option.isSome_eq_false_iff, Option.isNone_iff_eq_none]

/-- The order changes, the other members do not. -/
theorem remove_perm (unique : (members.map Prod.fst).Nodup) :
    (remove key members).Perm (members.filter fun member => member.1 ≠ key) := by
  induction members with
  | nil => exact .refl _
  | cons member rest ih =>
      obtain ⟨fresh, unique⟩ := List.nodup_cons.mp unique
      rw [remove]
      split
      · next here =>
          have others : rest.filter (fun member => member.1 ≠ key) = rest := by
            rw [List.filter_eq_self]
            intro other inside
            rw [decide_eq_true_iff]
            rintro rfl
            exact fresh (here ▸ List.mem_map_of_mem inside)
          rw [List.filter_cons_of_neg (by simpa using here), others]
          cases ends : rest.getLast? with
          | none =>
              rw [List.getLast?_eq_none_iff.mp ends]
          | some last =>
              conv => rhs; rw [← List.dropLast_append_getLast? last ends]
              exact (List.perm_append_singleton last rest.dropLast).symm
      · next other =>
          rw [List.filter_cons_of_pos (by simpa using other)]
          exact (ih unique).cons member

theorem remove_unique (unique : (members.map Prod.fst).Nodup) :
    ((remove key members).map Prod.fst).Nodup := by
  rw [((remove_perm unique).map Prod.fst).nodup_iff]
  exact unique.sublist (List.filter_sublist.map Prod.fst)

theorem get_remove (unique : (members.map Prod.fst).Nodup) :
    Json.get (remove key members) key' = if key' = key then none else Json.get members key' := by
  have same : ∀ value, Json.get (remove key members) key' = some value ↔
      Json.get members key' = some value ∧ key' ≠ key := by
    intro value
    rw [get_eq_some_iff (remove_unique unique), get_eq_some_iff unique,
      (remove_perm unique).mem_iff, List.mem_filter, decide_eq_true_iff]
  apply Option.ext
  intro value
  rw [same]
  split
  · next here => simp [here]
  · next other => simp [other]

theorem get_insertAliases {copy : Json} {aliases : List Text} :
    Json.get (insertAliases copy aliases members) key =
      if key ∈ aliases then some copy else Json.get members key := by
  induction aliases generalizing members with
  | nil => rfl
  | cons first rest ih =>
      rw [insertAliases, List.foldl_cons]
      refine ih.trans ?_
      by_cases later : key ∈ rest
      · rw [if_pos later, if_pos (List.mem_cons_of_mem first later)]
      · rw [if_neg later]
        by_cases here : key = first
        · subst here
          rw [Json.get_insert_self, if_pos List.mem_cons_self]
        · rw [Json.get_insert_of_ne _ _ (Ne.symm here),
            if_neg (List.not_mem_cons_of_ne_of_not_mem here later)]

theorem insertAliases_unique {copy : Json} {aliases : List Text}
    (unique : (members.map Prod.fst).Nodup) :
    ((insertAliases copy aliases members).map Prod.fst).Nodup := by
  induction aliases generalizing members with
  | nil => exact unique
  | cons first rest ih => exact ih (insert_unique unique)

end Members

theorem mem_of_get {members : List (Text × Json)} {key : Text} {value : Json}
    (found : Json.get members key = some value) : key ∈ members.map Prod.fst :=
  List.mem_map_of_mem (f := Prod.fst) (Json.get_mem found)

/-- The names that are required, if any are. -/
def Requires (schema : List (Text × Json)) (required : Option (List Text)) : Prop :=
  Json.get schema "required".toList = required.map fun names => .array (names.map .string)

section Requires

variable {schema : List (Text × Json)} {required : Option (List Text)} {name : Text}

theorem Requires.names (requires : Requires schema required) :
    requiredNames schema = required.getD [] := by
  rw [requiredNames, requires]
  cases required with
  | none => rfl
  | some names => exact filterMap_nameOf names

theorem any_isName {names : List Text} :
    (names.map Json.string).any (isName name) = true ↔ name ∈ names := by
  simp [isName]

theorem Requires.isRequired (requires : Requires schema required) :
    isRequired schema name = true ↔ name ∈ required.getD [] := by
  rw [SchemaAlias.isRequired, requires]
  cases required with
  | none => simp
  | some names => exact any_isName

theorem filter_isName {names : List Text} :
    (names.map Json.string).filter (fun other => !isName name other) =
      (names.filter fun other => other ≠ name).map Json.string := by
  rw [List.filter_map]
  congr 1
  apply List.filter_congr
  intro other _
  rw [Bool.eq_iff_iff]
  simp [isName]

theorem Requires.drop (requires : Requires schema required) (name : Text) :
    Requires (dropRequired schema name)
      (required.map fun names => names.filter fun other => other ≠ name) := by
  rw [Requires, dropRequired, requires]
  cases required with
  | none => exact requires
  | some names =>
      dsimp only [Option.map_some]
      rw [Json.get_insert_self, filter_isName]

theorem dropRequired_keys (schema : List (Text × Json)) (name : Text) :
    (dropRequired schema name).map Prod.fst = schema.map Prod.fst := by
  rw [dropRequired]
  split
  · next found => exact insert_keys (mem_of_get found)
  · rfl

theorem dropRequired_other {key : Text} (other : key ≠ "required".toList) :
    Json.get (dropRequired schema name) key = Json.get schema key := by
  rw [dropRequired]
  split
  · exact Json.get_insert_of_ne _ _ (Ne.symm other)
  · rfl

/-- A name that is not there is not missed. -/
theorem filter_ne_self {names : List Text} (absent : name ∉ names) :
    names.filter (fun other => other ≠ name) = names := by
  rw [List.filter_eq_self]
  intro other here
  rw [decide_eq_true_iff]
  rintro rfl
  exact absent here

end Requires

section Update

variable {schema members : List (Text × Json)} {key : Text}
variable {update : List (Text × Json) → List (Text × Json)}

theorem updateObject_self (found : Json.get schema key = some (.object members)) :
    Json.get (updateObject key update schema) key = some (.object (update members)) := by
  rw [updateObject, found]
  exact Json.get_insert_self _ _ _

theorem updateObject_other {key' : Text} (other : key' ≠ key) :
    Json.get (updateObject key update schema) key' = Json.get schema key' := by
  rw [updateObject]
  split
  · exact Json.get_insert_of_ne _ _ (Ne.symm other)
  · rfl

theorem updateObject_keys : (updateObject key update schema).map Prod.fst = schema.map Prod.fst := by
  rw [updateObject]
  split
  · next found => exact insert_keys (mem_of_get found)
  · rfl

end Update

/-! ## What the groups come to -/

/-- The names are told apart, every canonical one has a property, and no alias is required. -/
structure Fits (schema : List (Text × Json)) (groups : List AliasGroup) : Prop where
  distinct : (groups.flatMap AliasGroup.names).Nodup
  defined : ∀ group ∈ groups, group.canonical ∈ (propertiesOf schema).map Prod.fst
  unrequired : ∀ group ∈ groups, ∀ spelling ∈ group.aliases, spelling ∉ requiredNames schema

/-- The property behind a name, or behind the canonical name of an alias. -/
def aliasedProperty (original : List (Text × Json)) (groups : List AliasGroup) (key : Text) :
    Option Json :=
  match groups.find? fun group => key ∈ group.aliases with
  | some group => (Json.get original group.canonical).map fun subschema =>
      annotateAsAlias subschema group.canonical
  | none => Json.get original key

def groupChoices (schema : List (Text × Json)) (group : AliasGroup) : List Json :=
  if group.canonical ∈ requiredNames schema then [oneOfThem group.names]
  else excludedPairs group.names

/-- The schema with some of the groups written into it. -/
structure Rewritten (schema : List (Text × Json)) (required : Option (List Text))
    (groups : List AliasGroup) (state : Described) : Prop where
  keys : state.schema.map Prod.fst = schema.map Prod.fst
  properties : ∃ properties, Json.get state.schema "properties".toList = some (.object properties) ∧
    (properties.map Prod.fst).Nodup ∧
    ∀ key, Json.get properties key = aliasedProperty (propertiesOf schema) groups key
  required : Requires state.schema
    (required.map fun names => names.filter fun name =>
      name ∉ groups.map AliasGroup.canonical)
  others : ∀ key, key ≠ "properties".toList → key ≠ "required".toList →
    Json.get state.schema key = Json.get schema key
  choices : state.requiredChoices = groups.flatMap (groupChoices schema)

theorem get_propertiesOf {schema original : List (Text × Json)}
    (found : Json.get schema "properties".toList = some (.object original)) :
    propertiesOf schema = original := by
  rw [propertiesOf, found]
  rfl

theorem aliasedProperty_snoc {original : List (Text × Json)} {groups : List AliasGroup}
    {group : AliasGroup} (distinct : ((groups ++ [group]).flatMap AliasGroup.names).Nodup)
    (key : Text) :
    aliasedProperty original (groups ++ [group]) key =
      if key ∈ group.aliases then (Json.get original group.canonical).map fun subschema =>
        annotateAsAlias subschema group.canonical
      else aliasedProperty original groups key := by
  rw [aliasedProperty, List.find?_append]
  by_cases here : key ∈ group.aliases
  · have elsewhere : groups.find? (fun group => key ∈ group.aliases) = none := by
      rw [List.find?_eq_none]
      intro other inside
      rw [decide_eq_true_iff]
      intro there
      rw [List.flatMap_append] at distinct
      refine (List.disjoint_of_nodup_append distinct)
        (List.mem_flatMap.mpr ⟨other, inside, List.mem_cons_of_mem _ there⟩) ?_
      simpa [AliasGroup.names] using Or.inr here
    rw [elsewhere, if_pos here, Option.none_or, List.find?_cons_of_pos (by simpa using here)]
  · rw [List.find?_cons_of_neg (by simpa using here), List.find?_nil, Option.or_none, if_neg here,
      aliasedProperty]

section Fold

variable {schema original : List (Text × Json)} {required : Option (List Text)}
variable {groups : List AliasGroup} {group : AliasGroup} {state : Described}

theorem Fits.init (fits : Fits schema (groups ++ [group])) : Fits schema groups where
  distinct := by
    have distinct := fits.distinct
    rw [List.flatMap_append] at distinct
    exact distinct.of_append_left
  defined other inside := fits.defined other (List.mem_append_left _ inside)
  unrequired other inside := fits.unrequired other (List.mem_append_left _ inside)

theorem Fits.canonical_new (fits : Fits schema (groups ++ [group])) :
    group.canonical ∉ groups.map AliasGroup.canonical := by
  intro again
  obtain ⟨other, inside, same⟩ := List.mem_map.mp again
  have distinct := fits.distinct
  rw [List.flatMap_append] at distinct
  refine (List.disjoint_of_nodup_append distinct)
    (List.mem_flatMap.mpr ⟨other, inside, List.mem_cons_self⟩) ?_
  rw [same]
  simp [AliasGroup.names]

theorem filter_snoc (names : List Text) :
    (names.filter fun name => name ∉ (groups ++ [group]).map AliasGroup.canonical) =
      (names.filter fun name => name ∉ groups.map AliasGroup.canonical).filter
        fun name => name ≠ group.canonical := by
  rw [List.filter_filter]
  apply List.filter_congr
  intro name _
  rw [Bool.eq_iff_iff]
  simp only [List.map_append, List.map_cons, List.map_nil, List.mem_append, List.mem_singleton,
    Bool.and_eq_true, decide_eq_true_iff, not_or]
  exact and_comm

/-- One more group. -/
theorem Rewritten.snoc (rewritten : Rewritten schema required groups state)
    (requires : Requires schema required) (fits : Fits schema (groups ++ [group])) :
    Rewritten schema required (groups ++ [group])
      (describeGroup (propertiesOf schema) state group) := by
  obtain ⟨properties, found, unique, each⟩ := rewritten.properties
  obtain ⟨subschema, defined⟩ := get_isSome_iff.mpr
    (fits.defined group (List.mem_append_right _ List.mem_cons_self))
  let copy := annotateAsAlias subschema group.canonical
  let written := updateObject "properties".toList (insertAliases copy group.aliases) state.schema
  have required_written : Requires written
      (required.map fun names => names.filter fun name =>
        name ∉ groups.map AliasGroup.canonical) :=
    (updateObject_other (by decide)).trans rewritten.required
  have wanted : isRequired written group.canonical = true ↔
      group.canonical ∈ requiredNames schema := by
    rw [required_written.isRequired, requires.names]
    cases required with
    | none => simp
    | some names => simpa using fun _ => List.mem_map.not.mp fits.canonical_new
  have written_properties : ∃ properties,
      Json.get written "properties".toList = some (.object properties) ∧
      (properties.map Prod.fst).Nodup ∧
      ∀ key, Json.get properties key =
        aliasedProperty (propertiesOf schema) (groups ++ [group]) key := by
    refine ⟨_, updateObject_self found, insertAliases_unique unique, fun key => ?_⟩
    rw [get_insertAliases, aliasedProperty_snoc fits.distinct, defined, each]
    rfl
  have written_others : ∀ key, key ≠ "properties".toList → key ≠ "required".toList →
      Json.get written key = Json.get schema key :=
    fun key notProperties notRequired =>
      (updateObject_other notProperties).trans (rewritten.others key notProperties notRequired)
  have choices : ∀ more, groupChoices schema group = more →
      state.requiredChoices ++ more = (groups ++ [group]).flatMap (groupChoices schema) := by
    rintro _ rfl
    rw [List.flatMap_append, rewritten.choices, List.flatMap_singleton]
  have described : describeGroup (propertiesOf schema) state group =
      if isRequired written group.canonical then
        ⟨dropRequired written group.canonical, state.requiredChoices ++ [oneOfThem group.names]⟩
      else ⟨written, state.requiredChoices ++ excludedPairs group.names⟩ := by
    rw [describeGroup, defined]
  rw [described]
  split
  · next taken =>
      refine ⟨(dropRequired_keys _ _).trans (updateObject_keys.trans rewritten.keys), ?_, ?_, ?_, ?_⟩
      · obtain ⟨properties, here, rest⟩ := written_properties
        exact ⟨properties, (dropRequired_other (by decide)).trans here, rest⟩
      · have dropped := required_written.drop group.canonical
        rw [Option.map_map] at dropped
        simp only [filter_snoc]
        exact dropped
      · exact fun key notProperties notRequired =>
          (dropRequired_other notRequired).trans (written_others key notProperties notRequired)
      · exact choices _ (if_pos (wanted.mp taken))
  · next optional =>
      refine ⟨updateObject_keys.trans rewritten.keys, written_properties, ?_, written_others, ?_⟩
      · have absent : group.canonical ∉ requiredNames schema := fun here => optional (wanted.mpr here)
        rw [requires.names] at absent
        cases required with
        | none => exact required_written
        | some names =>
            have missing : group.canonical ∉ names.filter fun name =>
                name ∉ groups.map AliasGroup.canonical :=
              fun here => absent (List.mem_filter.mp here).1
            rw [Option.map_some, filter_snoc, filter_ne_self missing]
            exact required_written
      · exact choices _ (if_neg fun here => optional (wanted.mpr here))

theorem rewritten_fold (unique : ((propertiesOf schema).map Prod.fst).Nodup)
    (found : Json.get schema "properties".toList = some (.object (propertiesOf schema)))
    (requires : Requires schema required) (fits : Fits schema groups) :
    Rewritten schema required groups
      (groups.foldl (describeGroup (propertiesOf schema)) ⟨schema, []⟩) := by
  induction groups using List.reverseRec with
  | nil =>
      refine ⟨rfl, ⟨_, found, unique, fun _ => rfl⟩, ?_, fun _ _ _ => rfl, rfl⟩
      have everything : (fun names : List Text => names.filter fun name =>
          name ∉ ([] : List AliasGroup).map AliasGroup.canonical) = id := by
        funext names
        simp
      rw [everything, Option.map_id]
      exact requires
  | append_singleton groups group ih =>
      rw [List.foldl_append]
      exact (ih fits.init).snoc requires fits

end Fold

section Finish

variable {schema : List (Text × Json)} {required : Option (List Text)}

theorem dropEmptyRequired_unique (unique : (schema.map Prod.fst).Nodup) :
    ((dropEmptyRequired schema).map Prod.fst).Nodup := by
  rw [dropEmptyRequired]
  split
  · exact remove_unique unique
  · exact unique

theorem dropEmptyRequired_other (unique : (schema.map Prod.fst).Nodup) {key : Text}
    (other : key ≠ "required".toList) :
    Json.get (dropEmptyRequired schema) key = Json.get schema key := by
  rw [dropEmptyRequired]
  split
  · rw [get_remove unique, if_neg other]
  · rfl

theorem dropEmptyRequired_requires (unique : (schema.map Prod.fst).Nodup)
    (requires : Requires schema required) :
    ∃ left, Requires (dropEmptyRequired schema) left ∧ left.getD [] = required.getD [] := by
  rw [Requires] at requires
  rw [dropEmptyRequired, requires]
  rcases required with _ | _ | ⟨name, names⟩
  · exact ⟨none, requires, rfl⟩
  · exact ⟨none, by rw [Requires]; exact (get_remove unique).trans (if_pos rfl), rfl⟩
  · exact ⟨some (name :: names), requires, rfl⟩

theorem combine_unique {choices : List Json} (unique : (schema.map Prod.fst).Nodup) :
    ((combine choices schema).map Prod.fst).Nodup := by
  rw [combine]
  split
  · exact unique
  · exact insert_unique unique

theorem combine_other {choices : List Json} {key : Text} (other : key ≠ "allOf".toList) :
    Json.get (combine choices schema) key = Json.get schema key := by
  rw [combine]
  split
  · rfl
  · exact Json.get_insert_of_ne _ _ (Ne.symm other)

theorem get_combine {choices : List Json} :
    Json.get (combine choices schema) "allOf".toList =
      if choices.isEmpty then Json.get schema "allOf".toList else some (.array choices) := by
  rw [combine]
  split
  · rfl
  · exact Json.get_insert_self _ _ _

end Finish

/-- The schema with the groups in it. -/
structure Advertised (schema : List (Text × Json)) (groups : List AliasGroup)
    (advertised : List (Text × Json)) : Prop where
  unique : (advertised.map Prod.fst).Nodup
  properties : ∃ properties, Json.get advertised "properties".toList = some (.object properties) ∧
    (properties.map Prod.fst).Nodup ∧
    ∀ key, Json.get properties key = aliasedProperty (propertiesOf schema) groups key
  required : ∃ left, Requires advertised left ∧ left.getD [] =
    (requiredNames schema).filter fun name => name ∉ groups.map AliasGroup.canonical
  combined : Json.get advertised "allOf".toList =
    if (groups.flatMap (groupChoices schema)).isEmpty then Json.get schema "allOf".toList
    else some (.array (groups.flatMap (groupChoices schema)))
  others : ∀ key, key ≠ "properties".toList → key ≠ "required".toList → key ≠ "allOf".toList →
    Json.get advertised key = Json.get schema key

section Advertised

variable {vocabulary : Vocabulary} {schema : List (Text × Json)} {groups : List AliasGroup}

theorem requires_of_shape (shape : IsObjectSchema vocabulary schema) :
    ∃ required, Requires schema required := by
  cases found : Json.get schema "required".toList with
  | none => exact ⟨none, found⟩
  | some argument =>
      obtain ⟨names, rfl⟩ := shape.required argument found
      exact ⟨some names, found⟩

theorem describeAliases_advertised (shape : IsObjectSchema vocabulary schema)
    (fits : Fits schema groups) {original : List (Text × Json)}
    (found : Json.get schema "properties".toList = some (.object original)) :
    Advertised schema groups (describeAliases schema groups) := by
  obtain ⟨required, requires⟩ := requires_of_shape shape
  obtain rfl := get_propertiesOf found
  have rewritten := rewritten_fold shape.unique_properties found requires fits
  rw [describeAliases, found]
  dsimp only
  generalize groups.foldl (describeGroup (propertiesOf schema)) ⟨schema, []⟩ = state at rewritten
  have unique : (state.schema.map Prod.fst).Nodup := by
    rw [rewritten.keys]
    exact shape.unique
  rw [rewritten.choices]
  refine ⟨combine_unique (dropEmptyRequired_unique unique), ?_, ?_, ?_, ?_⟩
  · obtain ⟨properties, here, rest⟩ := rewritten.properties
    refine ⟨properties, ?_, rest⟩
    rw [combine_other (by decide), dropEmptyRequired_other unique (by decide)]
    exact here
  · obtain ⟨left, here, same⟩ := dropEmptyRequired_requires unique rewritten.required
    refine ⟨left, (combine_other (by decide)).trans here, same.trans ?_⟩
    rw [requires.names]
    cases required <;> rfl
  · rw [get_combine, dropEmptyRequired_other unique (by decide),
      rewritten.others _ (by decide) (by decide)]
  · intro key notProperties notRequired notCombined
    rw [combine_other notCombined, dropEmptyRequired_other unique notRequired,
      rewritten.others key notProperties notRequired]

theorem Advertised.shape {advertised : List (Text × Json)}
    (shape : IsObjectSchema vocabulary schema) (done : Advertised schema groups advertised) :
    IsObjectSchema vocabulary advertised where
  unique := done.unique
  properties argument found := by
    obtain ⟨properties, here, unique, -⟩ := done.properties
    rw [here] at found
    cases found
    exact ⟨properties, rfl, unique⟩
  required argument found := by
    obtain ⟨left, requires, -⟩ := done.required
    rw [requires] at found
    obtain ⟨names, -, rfl⟩ := Option.map_eq_some_iff.mp found
    exact ⟨names, rfl⟩
  combined argument found := by
    rw [done.combined] at found
    split at found
    · exact shape.combined argument found
    · cases found
      exact ⟨_, rfl⟩
  silent := by
    rintro ⟨key, argument⟩ inside unknown members
    have kept : ∀ known ∈ objectKeywords, key ≠ known := by
      rintro known listed rfl
      exact unknown listed
    have here : (key, argument) ∈ schema := by
      rw [← get_eq_some_iff done.unique] at inside
      rw [← get_eq_some_iff shape.unique, ← inside]
      exact (done.others key (kept _ (by decide)) (kept _ (by decide)) (kept _ (by decide))).symm
    rw [acceptsKeyword_names (described schema) (kept _ (by decide))]
    exact shape.silent _ here unknown members

end Advertised

/-! ## What is accepted -/

/-- The name the deserializer reads a key as. -/
def canonicalOf (groups : List AliasGroup) (key : Text) : Text :=
  match groups.find? fun group => key ∈ group.aliases with
  | some group => group.canonical
  | none => key

def renameAliases (groups : List AliasGroup) (members : List (Text × Json)) :
    List (Text × Json) :=
  members.map fun member => (canonicalOf groups member.1, member.2)

/-- How many names of the group are keys of the object. -/
def spellings (members : List (Text × Json)) (names : List Text) : Nat :=
  names.countP fun name => name ∈ members.map Prod.fst

def OneSpelling (groups : List AliasGroup) (members : List (Text × Json)) : Prop :=
  ∀ group ∈ groups, spellings members group.names ≤ 1

section Accepted

variable {vocabulary : Vocabulary} {schema members : List (Text × Json)}
variable {groups : List AliasGroup}

theorem annotateAsAlias_accepts (subschema : Json) (canonical : Text) (value : Json) :
    accepts vocabulary (annotateAsAlias subschema canonical) value =
      accepts vocabulary subschema value := by
  cases subschema with
  | object fields => exact accepts_insert_description
  | _ => rfl

theorem requiring_accepts {names : List Text} :
    accepts vocabulary (requiring names) (.object members) = true ↔
      ∀ name ∈ names, name ∈ members.map Prod.fst := by
  rw [requiring, accepts_keyword, acceptsKeyword_required]

theorem oneOfThem_accepts {names : List Text} :
    accepts vocabulary (oneOfThem names) (.object members) = true ↔
      spellings members names = 1 := by
  rw [oneOfThem, accepts_keyword, acceptsKeyword_oneOf, List.countP_map, spellings]
  have same : ((fun schema => accepts vocabulary schema (.object members)) ∘
      fun name => requiring [name]) = fun name => decide (name ∈ members.map Prod.fst) := by
    funext name
    rw [Bool.eq_iff_iff, Function.comp_apply, requiring_accepts, decide_eq_true_iff,
      List.forall_mem_singleton]
  rw [same]

theorem notBoth_accepts {first second : Text} :
    accepts vocabulary (notBoth first second) (.object members) = true ↔
      ¬(first ∈ members.map Prod.fst ∧ second ∈ members.map Prod.fst) := by
  rw [notBoth, accepts_keyword, acceptsKeyword_not, requiring_accepts, List.forall_mem_cons,
    List.forall_mem_singleton]

theorem excludedPairs_accepts {names : List Text} :
    (∀ choice ∈ excludedPairs names, accepts vocabulary choice (.object members) = true) ↔
      spellings members names ≤ 1 := by
  induction names with
  | nil => simp [excludedPairs, spellings]
  | cons first rest ih =>
      rw [excludedPairs, List.forall_mem_append, ih, List.forall_mem_map]
      simp only [notBoth_accepts]
      rw [spellings, spellings, List.countP_cons]
      by_cases here : first ∈ members.map Prod.fst
      · have none : (∀ second ∈ rest, second ∉ members.map Prod.fst) ↔
            (rest.countP fun name => name ∈ members.map Prod.fst) = 0 := by
          rw [List.countP_eq_zero]
          simp only [decide_eq_true_iff]
        simp only [here, true_and, decide_true, if_true, none]
        omega
      · simp [here]

theorem same_group (distinct : (groups.flatMap AliasGroup.names).Nodup) {group other : AliasGroup}
    (inside : group ∈ groups) (inside' : other ∈ groups) {name : Text} (here : name ∈ group.names)
    (there : name ∈ other.names) : group = other := by
  by_contra apart
  have disjoint := (List.nodup_flatMap.mp distinct).2
  have : Std.Symm (Function.onFun List.Disjoint AliasGroup.names) :=
    ⟨fun _ _ apart _ there here => apart here there⟩
  exact disjoint.forall inside inside' apart here there

theorem canonical_not_alias (distinct : (groups.flatMap AliasGroup.names).Nodup)
    {group other : AliasGroup} (inside : group ∈ groups) (inside' : other ∈ groups) :
    group.canonical ∉ other.aliases := by
  intro here
  obtain rfl := same_group distinct inside inside' List.mem_cons_self (List.mem_cons_of_mem _ here)
  exact (List.nodup_cons.mp ((List.nodup_flatMap.mp distinct).1 _ inside)).1 here

theorem canonicalOf_alias (distinct : (groups.flatMap AliasGroup.names).Nodup) {group : AliasGroup}
    (inside : group ∈ groups) {key : Text} (here : key ∈ group.aliases) :
    groups.find? (fun group => key ∈ group.aliases) = some group := by
  cases found : groups.find? fun group => key ∈ group.aliases with
  | none => exact absurd (decide_eq_true here) (List.find?_eq_none.mp found group inside)
  | some other =>
      have there : key ∈ other.aliases := by simpa using List.find?_some found
      rw [same_group distinct inside (List.mem_of_find?_eq_some found)
        (List.mem_cons_of_mem _ here) (List.mem_cons_of_mem _ there)]

theorem canonicalOf_other {key : Text} (other : ∀ group ∈ groups, key ∉ group.aliases) :
    canonicalOf groups key = key := by
  have none : groups.find? (fun group => key ∈ group.aliases) = none := by
    rw [List.find?_eq_none]
    intro group inside
    simpa using other group inside
  rw [canonicalOf, none]

/-- The canonical name is supplied if some name of the group is. -/
theorem canonicalOf_eq_canonical_iff (distinct : (groups.flatMap AliasGroup.names).Nodup)
    {group : AliasGroup} (inside : group ∈ groups) (key : Text) :
    canonicalOf groups key = group.canonical ↔ key ∈ group.names := by
  constructor
  · intro same
    cases found : groups.find? fun group => key ∈ group.aliases with
    | none =>
        rw [canonicalOf, found] at same
        obtain rfl : key = group.canonical := same
        exact List.mem_cons_self
    | some other =>
        rw [canonicalOf, found] at same
        have there : key ∈ other.aliases := by simpa using List.find?_some found
        have shared : group.canonical ∈ other.names := by
          rw [← show other.canonical = group.canonical from same]
          exact List.mem_cons_self
        rw [same_group distinct inside (List.mem_of_find?_eq_some found) List.mem_cons_self shared]
        exact List.mem_cons_of_mem _ there
  · intro here
    rcases List.mem_cons.mp here with rfl | here
    · exact canonicalOf_other fun other inside' => canonical_not_alias distinct inside inside'
    · rw [canonicalOf, canonicalOf_alias distinct inside here]

theorem canonicalOf_eq_other_iff {name : Text} (plain : name ∉ groups.map AliasGroup.canonical)
    (other : ∀ group ∈ groups, name ∉ group.aliases) (key : Text) :
    canonicalOf groups key = name ↔ key = name := by
  constructor
  · intro same
    cases found : groups.find? fun group => key ∈ group.aliases with
    | none =>
        rw [canonicalOf, found] at same
        exact same
    | some group =>
        rw [canonicalOf, found] at same
        exact absurd (List.mem_map.mpr ⟨group, List.mem_of_find?_eq_some found, same⟩) plain
  · rintro rfl
    exact canonicalOf_other other

theorem mem_renamed {name : Text} :
    name ∈ (renameAliases groups members).map Prod.fst ↔
      ∃ key ∈ members.map Prod.fst, canonicalOf groups key = name := by
  simp [renameAliases]

/-- Every group is supplied as it is required, and spelled once. -/
def Supplied (schema : List (Text × Json)) (groups : List AliasGroup)
    (members : List (Text × Json)) : Prop :=
  ∀ group ∈ groups, (group.canonical ∈ requiredNames schema → spellings members group.names = 1) ∧
    spellings members group.names ≤ 1

theorem choices_accept :
    (∀ choice ∈ groups.flatMap (groupChoices schema),
        accepts vocabulary choice (.object members) = true) ↔ Supplied schema groups members := by
  rw [List.forall_mem_flatMap]
  refine forall₂_congr fun group _ => ?_
  rw [groupChoices]
  split
  · next required =>
      rw [List.forall_mem_singleton, oneOfThem_accepts]
      simp only [required, true_implies]
      omega
  · next optional =>
      rw [excludedPairs_accepts]
      simp [optional]

theorem supplied_iff (fits : Fits schema groups) :
    (∀ name ∈ (requiredNames schema).filter fun name => name ∉ groups.map AliasGroup.canonical,
        name ∈ members.map Prod.fst) ∧ Supplied schema groups members ↔
      OneSpelling groups members ∧
        ∀ name ∈ requiredNames schema, name ∈ (renameAliases groups members).map Prod.fst := by
  have renamed_canonical : ∀ group ∈ groups,
      (group.canonical ∈ (renameAliases groups members).map Prod.fst ↔
        0 < spellings members group.names) := by
    intro group inside
    rw [mem_renamed, spellings, List.countP_pos_iff]
    simp only [canonicalOf_eq_canonical_iff fits.distinct inside, decide_eq_true_iff]
    exact exists_congr fun key => and_comm
  have renamed_other : ∀ name ∈ requiredNames schema, name ∉ groups.map AliasGroup.canonical →
      (name ∈ (renameAliases groups members).map Prod.fst ↔ name ∈ members.map Prod.fst) := by
    intro name required plain
    rw [mem_renamed]
    simp only [canonicalOf_eq_other_iff plain fun group inside here =>
      fits.unrequired group inside name here required]
    exact exists_eq_right
  constructor
  · rintro ⟨others, supplied⟩
    refine ⟨fun group inside => (supplied group inside).2, fun name required => ?_⟩
    by_cases canonical : name ∈ groups.map AliasGroup.canonical
    · obtain ⟨group, inside, rfl⟩ := List.mem_map.mp canonical
      rw [renamed_canonical group inside, (supplied group inside).1 required]
      exact Nat.one_pos
    · rw [renamed_other name required canonical]
      exact others name (List.mem_filter.mpr ⟨required, decide_eq_true canonical⟩)
  · rintro ⟨once, each⟩
    constructor
    · intro name listed
      obtain ⟨required, plain⟩ := List.mem_filter.mp listed
      exact (renamed_other name required (by simpa using plain)).mp (each name required)
    · intro group inside
      refine ⟨fun required => ?_, once group inside⟩
      exact Nat.le_antisymm (once group inside)
        ((renamed_canonical group inside).mp (each _ required))

/-- A key is read by the same subschema under its canonical name. -/
theorem Advertised.memberAccepted_iff {advertised : List (Text × Json)}
    (fits : Fits schema groups) (done : Advertised schema groups advertised) (key : Text)
    (value : Json) :
    memberAccepted vocabulary advertised key value ↔
      memberAccepted vocabulary schema (canonicalOf groups key) value := by
  obtain ⟨properties, here, -, each⟩ := done.properties
  have additional := done.others "additionalProperties".toList (by decide) (by decide) (by decide)
  rw [memberAccepted, memberAccepted, get_propertiesOf here, each key, additional, aliasedProperty,
    canonicalOf]
  cases found : groups.find? fun group => key ∈ group.aliases with
  | none => exact Iff.rfl
  | some group =>
      obtain ⟨subschema, defined⟩ :=
        get_isSome_iff.mpr (fits.defined group (List.mem_of_find?_eq_some found))
      dsimp only
      rw [defined, Option.map_some]
      dsimp only
      rw [annotateAsAlias_accepts]

/-- What a schema says of an object beside what it combines. -/
def AcceptedApart (vocabulary : Vocabulary) (schema members : List (Text × Json)) : Prop :=
  (∀ member ∈ members, memberAccepted vocabulary schema member.1 member.2) ∧
  ∀ name ∈ requiredNames schema, name ∈ members.map Prod.fst

def Combined (vocabulary : Vocabulary) (schema members : List (Text × Json)) : Prop :=
  ∀ combined ∈ combinedWith schema, accepts vocabulary combined (.object members) = true

/-- No group has a choice to publish. -/
def Unconstrained (schema : List (Text × Json)) (groups : List AliasGroup) : Prop :=
  ∀ group ∈ groups, group.aliases = [] ∧ group.canonical ∉ requiredNames schema

theorem choices_eq_nil_iff :
    groups.flatMap (groupChoices schema) = [] ↔ Unconstrained schema groups := by
  rw [List.flatMap_eq_nil_iff]
  refine forall₂_congr fun group _ => ?_
  rw [groupChoices]
  split
  · next required => simp [required]
  · next optional =>
      cases aliases : group.aliases <;> simp [AliasGroup.names, aliases, excludedPairs, optional]

/-- The choices replace what was combined. -/
theorem Advertised.combined_iff {advertised : List (Text × Json)}
    (done : Advertised schema groups advertised) :
    Combined vocabulary advertised members ↔
      Supplied schema groups members ∧
        (Unconstrained schema groups → Combined vocabulary schema members) := by
  have accepted : (∀ choice ∈ groups.flatMap (groupChoices schema),
      accepts vocabulary choice (.object members) = true) ↔ Supplied schema groups members :=
    choices_accept
  rw [Combined, combinedWith, done.combined, ← accepted, ← choices_eq_nil_iff]
  cases choices : groups.flatMap (groupChoices schema) with
  | nil => simp [Combined, combinedWith]
  | cons first rest => simp [itemsOf]

/-- What is accepted behind the transform. -/
theorem describeAliases_accepts (shape : IsObjectSchema vocabulary schema)
    (fits : Fits schema groups) {original : List (Text × Json)}
    (found : Json.get schema "properties".toList = some (.object original)) :
    accepts vocabulary (.object (describeAliases schema groups)) (.object members) = true ↔
      OneSpelling groups members ∧
      AcceptedApart vocabulary schema (renameAliases groups members) ∧
      (Unconstrained schema groups → Combined vocabulary schema members) := by
  have done := describeAliases_advertised shape fits found
  obtain ⟨left, requires, same⟩ := done.required
  have each : (∀ member ∈ members,
      memberAccepted vocabulary (describeAliases schema groups) member.1 member.2) ↔
      ∀ member ∈ renameAliases groups members,
        memberAccepted vocabulary schema member.1 member.2 := by
    rw [renameAliases, List.forall_mem_map]
    exact forall₂_congr fun member _ => done.memberAccepted_iff fits member.1 member.2
  rw [accepts_object_iff (done.shape shape), each, requires.names, same]
  constructor
  · rintro ⟨accepted, required, combined⟩
    obtain ⟨supplied, kept⟩ := done.combined_iff.mp combined
    obtain ⟨once, present⟩ := (supplied_iff fits).mp ⟨required, supplied⟩
    exact ⟨once, ⟨accepted, present⟩, kept⟩
  · rintro ⟨once, ⟨accepted, present⟩, kept⟩
    obtain ⟨required, supplied⟩ := (supplied_iff fits).mpr ⟨once, present⟩
    exact ⟨accepted, required, done.combined_iff.mpr ⟨supplied, kept⟩⟩

/-- No key is an alias. -/
def NoAlias (groups : List AliasGroup) (members : List (Text × Json)) : Prop :=
  ∀ group ∈ groups, ∀ spelling ∈ group.aliases, spelling ∉ members.map Prod.fst

theorem NoAlias.rename (plain : NoAlias groups members) : renameAliases groups members = members := by
  rw [renameAliases]
  conv => rhs; rw [← List.map_id members]
  apply List.map_congr_left
  intro member inside
  rw [canonicalOf_other fun group here spelled =>
    plain group here member.1 spelled (List.mem_map_of_mem inside)]
  rfl

theorem NoAlias.oneSpelling (plain : NoAlias groups members) : OneSpelling groups members := by
  intro group inside
  have unused : (group.aliases.countP fun name => name ∈ members.map Prod.fst) = 0 := by
    rw [List.countP_eq_zero]
    intro spelling here
    simpa only [decide_eq_true_iff] using plain group inside spelling here
  rw [spellings, AliasGroup.names, List.countP_cons, unused]
  split <;> omega

theorem renamed_noAlias (distinct : (groups.flatMap AliasGroup.names).Nodup) :
    NoAlias groups (renameAliases groups members) := by
  intro group inside spelling here again
  obtain ⟨key, -, same⟩ := mem_renamed.mp again
  cases found : groups.find? fun group => key ∈ group.aliases with
  | none =>
      rw [canonicalOf, found] at same
      obtain rfl : key = spelling := same
      exact List.find?_eq_none.mp found group inside (decide_eq_true here)
  | some other =>
      rw [canonicalOf, found] at same
      obtain rfl : other.canonical = spelling := same
      exact canonical_not_alias distinct (List.mem_of_find?_eq_some found) inside here

theorem noAlias_of_unconstrained (unconstrained : Unconstrained schema groups) :
    NoAlias groups members := by
  intro group inside spelling here
  rw [(unconstrained group inside).1] at here
  cases here

theorem accepts_iff_combined (shape : IsObjectSchema vocabulary schema) :
    accepts vocabulary (.object schema) (.object members) = true ↔
      AcceptedApart vocabulary schema members ∧ Combined vocabulary schema members := by
  rw [accepts_object_iff shape, AcceptedApart, and_assoc]
  exact Iff.rfl

/-- Validity is kept exactly if nothing is published, or if what the schema combined before said
nothing more of objects without aliases. -/
theorem describeAliases_faithful_iff (shape : IsObjectSchema vocabulary schema)
    (fits : Fits schema groups) :
    (∀ members, accepts vocabulary (.object (describeAliases schema groups)) (.object members) =
        true ↔
      OneSpelling groups members ∧
        accepts vocabulary (.object schema) (.object (renameAliases groups members)) = true) ↔
    Unconstrained schema groups ∨
      ∀ members, NoAlias groups members → AcceptedApart vocabulary schema members →
        Combined vocabulary schema members := by
  cases found : Json.get schema "properties".toList with
  | none =>
      have none : groups = [] := by
        rw [List.eq_nil_iff_forall_not_mem]
        intro group inside
        have defined := fits.defined group inside
        rw [propertiesOf, found] at defined
        cases defined
      subst none
      rw [describeAliases, found]
      have plain : ∀ members, NoAlias [] members :=
        fun _ _ inside => absurd inside List.not_mem_nil
      have unconstrained : Unconstrained schema [] :=
        fun _ inside => absurd inside List.not_mem_nil
      simp only [(plain _).rename, (plain _).oneSpelling, true_and, implies_true, unconstrained,
        true_or]
  | some argument =>
      obtain ⟨original, rfl, -⟩ := shape.properties argument found
      simp only [describeAliases_accepts shape fits found, accepts_iff_combined shape]
      constructor
      · intro faithful
        by_cases unconstrained : Unconstrained schema groups
        · exact .inl unconstrained
        · refine .inr fun members plain apart => ?_
          have after := (faithful members).mp
          rw [plain.rename] at after
          exact (after ⟨plain.oneSpelling, apart, fun none => absurd none unconstrained⟩).2.2
      · intro enough members
        constructor
        · rintro ⟨once, apart, kept⟩
          refine ⟨once, apart, ?_⟩
          rcases enough with unconstrained | redundant
          · rw [(noAlias_of_unconstrained unconstrained).rename]
            exact kept unconstrained
          · exact redundant _ (renamed_noAlias fits.distinct) apart
        · rintro ⟨once, apart, combined⟩
          refine ⟨once, apart, fun unconstrained => ?_⟩
          rw [(noAlias_of_unconstrained unconstrained).rename] at combined
          exact combined

end Accepted

/-! ### A schema of one field -/

/-- No keyword but the applicators says anything. -/
def silentVocabulary : Vocabulary := ⟨fun _ _ _ => true, fun _ _ => rfl⟩

def deviceProperties : Json := .object [("device".toList, .object []), ("timeout".toList, .object [])]

def deviceSchema (combined : List Json) : List (Text × Json) :=
  [("properties".toList, deviceProperties), ("required".toList, .array [.string "device".toList]),
    ("additionalProperties".toList, .bool false), ("allOf".toList, .array combined)]

def deviceGroup : AliasGroup := ⟨"device".toList, ["router".toList]⟩

def routerOnly : List (Text × Json) := [("router".toList, .string "mx1".toList)]

theorem deviceSchema_shape (combined : List Json) :
    IsObjectSchema silentVocabulary (deviceSchema combined) where
  unique := by
    have keys : (deviceSchema combined).map Prod.fst =
      ["properties".toList, "required".toList, "additionalProperties".toList, "allOf".toList] := rfl
    rw [keys]
    decide
  properties argument found := by
    cases found
    exact ⟨_, rfl, by decide⟩
  required argument found := by
    cases found
    exact ⟨["device".toList], rfl⟩
  combined argument found := by
    cases found
    exact ⟨_, rfl⟩
  silent := by
    intro keyword inside unknown
    simp only [deviceSchema, List.mem_cons, List.not_mem_nil, or_false] at inside
    rcases inside with rfl | rfl | rfl | rfl <;>
      simp only [objectKeywords, List.mem_cons, true_or, or_true, not_true_eq_false] at unknown

theorem deviceGroup_fits (combined : List Json) : Fits (deviceSchema combined) [deviceGroup] where
  distinct := by decide
  defined := by
    intro group inside
    obtain rfl := List.mem_singleton.mp inside
    exact List.mem_cons_self
  unrequired := by
    intro group inside spelling here
    obtain rfl := List.mem_singleton.mp inside
    obtain rfl := List.mem_singleton.mp here
    rw [show requiredNames (deviceSchema combined) = ["device".toList] from rfl]
    decide

/-- The schema asked for a timeout, and does so no more. -/
theorem combination_overwritten :
    ∃ vocabulary schema groups members, IsObjectSchema vocabulary schema ∧ Fits schema groups ∧
      ¬(accepts vocabulary (.object (describeAliases schema groups)) (.object members) = true ↔
        OneSpelling groups members ∧
          accepts vocabulary (.object schema) (.object (renameAliases groups members)) = true) := by
  refine ⟨silentVocabulary, deviceSchema [requiring ["timeout".toList]], [deviceGroup], routerOnly,
    deviceSchema_shape _, deviceGroup_fits _, fun same => ?_⟩
  have after : accepts silentVocabulary (.object (describeAliases
      (deviceSchema [requiring ["timeout".toList]]) [deviceGroup])) (.object routerOnly) = true := by
    rfl
  have before : accepts silentVocabulary (.object (deviceSchema [requiring ["timeout".toList]]))
      (.object (renameAliases [deviceGroup] routerOnly)) = false := by rfl
  rw [(same.mp after).2] at before
  cases before

theorem router_accepted_as_device :
    accepts silentVocabulary (.object (describeAliases (deviceSchema []) [deviceGroup]))
        (.object routerOnly) = true ↔
      OneSpelling [deviceGroup] routerOnly ∧
        accepts silentVocabulary (.object (deviceSchema []))
          (.object (renameAliases [deviceGroup] routerOnly)) = true :=
  (describeAliases_faithful_iff (deviceSchema_shape []) (deviceGroup_fits [])).mpr
    (.inr fun _ _ _ => nofun) routerOnly

end JunosMcp.SchemaAlias
