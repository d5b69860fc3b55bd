import JunosMcp.JsonSchema

/-!
# Aliases in the advertised schemas

The deserializer reads every alias of a field as the field. `describe_aliases` writes that into the
schema of the arguments.
-/

namespace JunosMcp.SchemaAlias

open JsonSchema

structure AliasGroup where
  canonical : Text
  aliases : List Text
deriving DecidableEq

def AliasGroup.names (group : AliasGroup) : List Text := group.canonical :: group.aliases

/-! ## `describe_aliases` -/

def annotateAsAlias (subschema : Json) (canonical : Text) : Json :=
  let note := "Alias for `".toList ++ canonical ++ "`; accepted for backward compatibility.".toList
  match subschema with
  | .object fields =>
      let description := match Json.get fields "description".toList with
        | some (.string existing) => existing ++ "\n\n".toList ++ note
        | _ => note
      .object (Json.insert "description".toList (.string description) fields)
  | other => other

/-- The aliases, each with a copy of the subschema. -/
def insertAliases (copy : Json) (aliases : List Text) (properties : List (Text × Json)) :
    List (Text × Json) :=
  aliases.foldl (fun properties spelling => Json.insert spelling copy properties) properties

/-- The object under the key is rewritten in its place. -/
def updateObject (key : Text) (update : List (Text × Json) → List (Text × Json))
    (schema : List (Text × Json)) : List (Text × Json) :=
  match Json.get schema key with
  | some (.object members) => Json.insert key (.object (update members)) schema
  | _ => schema

def isName (name : Text) : Json → Bool
  | .string other => other == name
  | _ => false

def isRequired (schema : List (Text × Json)) (name : Text) : Bool :=
  match Json.get schema "required".toList with
  | some (.array required) => required.any (isName name)
  | _ => false

/-- The name is no longer required by itself. -/
def dropRequired (schema : List (Text × Json)) (name : Text) : List (Text × Json) :=
  match Json.get schema "required".toList with
  | some (.array required) => Json.insert "required".toList
      (.array (required.filter fun other => !isName name other)) schema
  | _ => schema

def requiring (names : List Text) : Json :=
  .object [("required".toList, .array (names.map .string))]

def oneOfThem (names : List Text) : Json :=
  .object [("oneOf".toList, .array (names.map fun name => requiring [name]))]

def notBoth (first second : Text) : Json := .object [("not".toList, requiring [first, second])]

def excludedPairs : List Text → List Json
  | [] => []
  | first :: rest => rest.map (notBoth first) ++ excludedPairs rest

structure Described where
  schema : List (Text × Json)
  requiredChoices : List Json

/-- One group. A canonical name without a property trips a `debug_assert`. -/
def describeGroup (original : List (Text × Json)) (state : Described) (group : AliasGroup) :
    Described :=
  match Json.get original group.canonical with
  | none => state
  | some subschema =>
      let schema := updateObject "properties".toList
        (insertAliases (annotateAsAlias subschema group.canonical) group.aliases) state.schema
      if isRequired schema group.canonical then
        ⟨dropRequired schema group.canonical, state.requiredChoices ++ [oneOfThem group.names]⟩
      else ⟨schema, state.requiredChoices ++ excludedPairs group.names⟩

/-- `Map::remove`: the last member takes the place. -/
def remove (key : Text) : List (Text × Json) → List (Text × Json)
  | [] => []
  | member :: rest =>
      if member.1 = key then
        match rest.getLast? with
        | none => []
        | some last => last :: rest.dropLast
      else member :: remove key rest

def dropEmptyRequired (schema : List (Text × Json)) : List (Text × Json) :=
  match Json.get schema "required".toList with
  | some (.array []) => remove "required".toList schema
  | _ => schema

def combine (requiredChoices : List Json) (schema : List (Text × Json)) : List (Text × Json) :=
  if requiredChoices.isEmpty then schema
  else Json.insert "allOf".toList (.array requiredChoices) schema

def describeAliases (schema : List (Text × Json)) (groups : List AliasGroup) :
    List (Text × Json) :=
  match Json.get schema "properties".toList with
  | some (.object original) =>
      let state := groups.foldl (describeGroup original) ⟨schema, []⟩
      combine state.requiredChoices (dropEmptyRequired state.schema)
  | _ => schema

def deviceAliases (schema : List (Text × Json)) : List (Text × Json) :=
  describeAliases schema [⟨"device".toList, ["router_name".toList, "router".toList]⟩]

def routerNameAlias (schema : List (Text × Json)) : List (Text × Json) :=
  describeAliases schema [⟨"router".toList, ["router_name".toList]⟩]

end JunosMcp.SchemaAlias
