import JunosMcp.Text

/-!
# JSON values

`serde_json::Value`. The members of an object stand in the order they were inserted
(`preserve_order`), and a number is the text it is printed as.
-/

namespace JunosMcp

inductive Json where
  | null
  | bool (value : Bool)
  | number (shown : Text)
  | string (value : Text)
  | array (items : List Json)
  | object (members : List (Text × Json))

namespace Json

/-- `Map::insert`: a key that is there keeps its place. -/
def insert (key : Text) (value : Json) : List (Text × Json) → List (Text × Json)
  | [] => [(key, value)]
  | (k, v) :: rest => if k = key then (key, value) :: rest else (k, v) :: insert key value rest

def get (members : List (Text × Json)) (key : Text) : Option Json :=
  (members.find? fun member => member.1 = key).map Prod.snd

@[simp] theorem get_insert_self (members : List (Text × Json)) (key : Text) (value : Json) :
    get (insert key value members) key = some value := by
  induction members with
  | nil => simp [insert, get]
  | cons member rest ih =>
      rw [insert]
      split
      · simp [get]
      · next other => simpa [get, other] using ih

theorem get_insert_of_ne {key key' : Text} (members : List (Text × Json)) (value : Json)
    (apart : key ≠ key') : get (insert key value members) key' = get members key' := by
  induction members with
  | nil => simp [insert, get, apart]
  | cons member rest ih =>
      rw [insert]
      split
      · next same => simp [get, same, apart]
      · by_cases here : member.1 = key'
        · simp [get, here]
        · simpa [get, here] using ih

theorem get_mem {members : List (Text × Json)} {key : Text} {value : Json}
    (found : get members key = some value) : (key, value) ∈ members := by
  obtain ⟨member, first, rfl⟩ := Option.map_eq_some_iff.mp found
  have same : member.1 = key := by simpa using List.find?_some first
  rw [← same]
  exact List.mem_of_find?_eq_some first

end Json

end JunosMcp
