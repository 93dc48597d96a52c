import PpqTee.Error

/-! `serde_json::Value`, with objects as maps sorted by key. -/

namespace PpqTee

/-- `serde_json::Number`; a float is kept as its bits. -/
inductive Number where
  | posInt (n : UInt64)
  | negInt (n : Int64)
  | float (bits : UInt64)
  deriving DecidableEq, Repr

inductive Value where
  | null
  | bool (b : Bool)
  | number (n : Number)
  | string (s : String)
  | array (items : List Value)
  | object (fields : List (String × Value))
  deriving Repr

/-- `serde_json::Map`. -/
abbrev Fields := List (String × Value)

namespace Fields

def get (fields : Fields) (key : String) : Option Value :=
  (fields.find? fun field => field.1 = key).map Prod.snd

/-- Replaces the value of a key that is there, and puts a new key in its sorted place. -/
def insert : Fields → String → Value → Fields
  | [], key, value => [(key, value)]
  | (k, v) :: rest, key, value =>
    if k = key then (k, value) :: rest
    else if key < k then (key, value) :: (k, v) :: rest
    else (k, v) :: insert rest key value

theorem get_cons (k : String) (v : Value) (rest : Fields) (key : String) :
    get ((k, v) :: rest) key = if k = key then some v else get rest key := by
  unfold get
  by_cases same : k = key <;> simp [same]

theorem get_insert (fields : Fields) (key other : String) (value : Value) :
    get (insert fields key value) other = if other = key then some value else get fields other := by
  induction fields with
  | nil =>
    rw [insert, get_cons]
    exact if_congr eq_comm rfl rfl
  | cons field rest ih =>
    obtain ⟨k, v⟩ := field
    rw [insert]
    by_cases same : k = key
    · rw [if_pos same, get_cons, get_cons, same]
      by_cases asked : key = other <;> simp [asked, eq_comm]
    · rw [if_neg same]
      by_cases less : key < k
      · rw [if_pos less, get_cons]
        exact if_congr eq_comm rfl rfl
      · rw [if_neg less, get_cons, get_cons, ih]
        by_cases asked : k = other
        · rw [if_pos asked, if_pos asked, if_neg (asked ▸ same)]
        · rw [if_neg asked, if_neg asked]

end Fields

namespace Value

def asStr : Value → Option String
  | .string s => some s
  | _ => none

def asObject : Value → Option Fields
  | .object fields => some fields
  | _ => none

/-- `value["key"]`, which is `null` where there is no such field. -/
def key (value : Value) (key : String) : Value :=
  match value with
  | .object fields => (Fields.get fields key).getD .null
  | _ => .null

/-- `value[i]`, which is `null` where there is no such item. -/
def index (value : Value) (i : Nat) : Value :=
  match value with
  | .array items => items.getD i .null
  | _ => .null

theorem asStr_eq {value : Value} {s : String} : value.asStr = some s ↔ value = .string s := by
  cases value <;> simp [asStr]

end Value

/-- The parser and the printer of `serde_json`. -/
structure SerdeJson where
  jsonFromSlice : Bytes → Except JsonError Value
  jsonToVec : Value → Except JsonError Bytes

/-- The `hex` crate. -/
structure Hex where
  hexDecode : String → Except String Bytes
  hexEncode : Bytes → String

end PpqTee
