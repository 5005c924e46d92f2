/-!
# JSON values

Objects keep the order of their keys, and a key occurs once: a repeated key
keeps its first place and takes the last value. A number is a whole number of 64
bits where it is written as one, else a binary64 number.

## Main statements

* `Json.Fields.distinct_put` — setting a key keeps the keys distinct.
-/

namespace CounterTables

/-! ## Types -/

namespace Json

inductive Number
  /-- A whole number that fits 64 bits, signed or not. -/
  | integer (value : Int)
  | float (value : Float)

end Json

inductive Json
  | null
  | bool (flag : Bool)
  | number (value : Json.Number)
  | string (text : String)
  | array (items : List Json)
  | object (fields : List (String × Json))

namespace Json

/-- The members of an object, in order. -/
abbrev Fields := List (String × Json)

/-! ## Fields -/

namespace Fields

/-- The value of a key. -/
def get? (fields : Fields) (key : String) : Option Json :=
  fields.lookup key

/-- The fields with `key` set to `value`: in its place if the key occurs, else
at the end. -/
def put (fields : Fields) (key : String) (value : Json) : Fields :=
  if fields.any (fun field => field.1 == key) then
    fields.map fun field => if field.1 == key then (key, value) else field
  else fields ++ [(key, value)]

/-- Every key occurs once. -/
def Distinct (fields : Fields) : Prop :=
  (fields.map Prod.fst).Nodup

/-- The keys after `put`: those before it, and the new one if it is new. -/
theorem keys_put (fields : Fields) (key : String) (value : Json) :
    (fields.put key value).map Prod.fst =
      if fields.any (fun field => field.1 == key) then fields.map Prod.fst
      else fields.map Prod.fst ++ [key] := by
  unfold put
  split
  · rw [List.map_map]
    refine List.map_congr_left fun field _ => ?_
    by_cases hKey : field.1 = key <;> simp [hKey]
  · simp

theorem distinct_put {fields : Fields} (h : Distinct fields) (key : String)
    (value : Json) :
    Distinct (fields.put key value) := by
  unfold Distinct at *
  rw [keys_put]
  split
  · exact h
  · rename_i hNew
    simp only [List.any_eq_true, beq_iff_eq, not_exists, not_and] at hNew
    rw [List.nodup_append]
    refine ⟨h, by simp, ?_⟩
    intro name hName other hOther
    obtain ⟨field, hField, rfl⟩ := List.mem_map.1 hName
    rw [List.mem_singleton.1 hOther]
    exact hNew field hField

end Fields

/-- What kind of value it is, as messages name it. -/
def kindName : Json → String
  | null => "null"
  | bool _ => "a boolean"
  | number _ => "a number"
  | string _ => "a string"
  | array _ => "an array"
  | object _ => "an object"

end Json

end CounterTables
