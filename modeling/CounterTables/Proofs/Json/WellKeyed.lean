import Mathlib
import CounterTables.Document.Loaded

/-!
# Keys that occur once

`Json.Fields` is a list of pairs, so it can hold a key twice. No document does:
where a text repeats a key, the reader keeps the first place and the last value.
A value is `WellKeyed` if none of its objects repeats a key, and everything that
is read from a text is. So what is shown of well-keyed documents holds of every
document that is loaded.

## Main results

* `wellKeyed_of_read` — what a text denotes has every key once.
* `Document.wellKeyed_of_parse` — and so has what a document describes.
-/

namespace CounterTables.Json

/-- Every object in the value has each of its keys once. -/
inductive WellKeyed : Json → Prop
  | null : WellKeyed .null
  | bool (flag : Bool) : WellKeyed (.bool flag)
  | number (value : Number) : WellKeyed (.number value)
  | string (text : String) : WellKeyed (.string text)
  | array {items : List Json} (hitems : ∀ item ∈ items, WellKeyed item) :
      WellKeyed (.array items)
  | object {fields : Fields} (hkeys : fields.Distinct)
      (hvalues : ∀ field ∈ fields, WellKeyed field.2) : WellKeyed (.object fields)

attribute [simp] WellKeyed.null WellKeyed.bool WellKeyed.number WellKeyed.string

@[simp]
theorem wellKeyed_array_iff {items : List Json} :
    (Json.array items).WellKeyed ↔ ∀ item ∈ items, item.WellKeyed := by
  constructor
  · rintro (_ | _ | _ | _ | hitems | _)
    exact hitems
  · exact .array

@[simp]
theorem wellKeyed_object_iff {fields : Fields} :
    (Json.object fields).WellKeyed ↔
      fields.Distinct ∧ ∀ field ∈ fields, field.2.WellKeyed := by
  constructor
  · rintro (_ | _ | _ | _ | _ | ⟨hkeys, hvalues⟩)
    exact ⟨hkeys, hvalues⟩
  · rintro ⟨hkeys, hvalues⟩
    exact .object hkeys hvalues

/-! ## Objects -/

theorem Fields.get?_cons (name : String) (value : Json) (rest : Fields) (key : String) :
    Fields.get? ((name, value) :: rest) key =
      if key = name then some value else Fields.get? rest key := by
  unfold Fields.get?
  rw [List.lookup_cons]
  by_cases hkey : key = name
  · simp [hkey]
  · rw [beq_false_of_ne hkey, if_neg hkey]

theorem WellKeyed.distinct {fields : Fields} (h : (Json.object fields).WellKeyed) :
    fields.Distinct :=
  (wellKeyed_object_iff.1 h).1

theorem WellKeyed.of_get? {fields : Fields} (h : (Json.object fields).WellKeyed)
    {key : String} {value : Json} (hget : fields.get? key = some value) :
    value.WellKeyed := by
  obtain ⟨before, after, rfl, -⟩ := List.lookup_eq_some_iff.1 hget
  exact (wellKeyed_object_iff.1 h).2 (key, value)
    (List.mem_append_right before List.mem_cons_self)

theorem WellKeyed.distinct_of_get? {fields entries : Fields}
    (h : (Json.object fields).WellKeyed) {key : String}
    (hget : fields.get? key = some (.object entries)) : entries.Distinct :=
  (h.of_get? hget).distinct

/-! ## Fields set one by one -/

theorem Fields.mem_put {fields : Fields} {key : String} {value : Json}
    {field : String × Json} (h : field ∈ fields.put key value) :
    field = (key, value) ∨ field ∈ fields := by
  unfold put at h
  split at h
  · obtain ⟨other, hother, heq⟩ := List.mem_map.1 h
    split at heq
    · exact .inl heq.symm
    · exact .inr (heq ▸ hother)
  · simpa [or_comm] using h

theorem WellKeyed.put {fields : Fields} {key : String} {value : Json}
    (hfields : (Json.object fields).WellKeyed) (hvalue : value.WellKeyed) :
    (Json.object (fields.put key value)).WellKeyed := by
  cases hfields with
  | object hkeys hvalues =>
      refine .object (Fields.distinct_put hkeys key value) ?_
      intro field hfield
      rcases Fields.mem_put hfield with rfl | hfield
      · exact hvalue
      · exact hvalues field hfield

theorem WellKeyed.foldl_put {members : Fields}
    (hmembers : ∀ member ∈ members, member.2.WellKeyed) {fields : Fields}
    (hfields : (Json.object fields).WellKeyed) :
    (Json.object (members.foldl
      (fun fields (key, value) => Fields.put fields key value) fields)).WellKeyed := by
  induction members generalizing fields with
  | nil => exact hfields
  | cons member members ih =>
      obtain ⟨hmember, hmembers⟩ := List.forall_mem_cons.1 hmembers
      exact ih hmembers (hfields.put hmember)

/-! ## Containers -/

section Containers

variable {α : Type} {p : α → Prop} {close : Char}
  {item : List Char → Option (α × List Char)}
  (hitem : ∀ s value rest, item s = some (value, rest) → p value)

include hitem

/-- What holds of every item holds of all items of a container. -/
theorem forall_of_readItems {bound : Nat} {read : List α}
    (hread : ∀ value ∈ read, p value) {s rest : List Char} {items : List α}
    (h : readItems close item bound read s = some (items, rest)) :
    ∀ value ∈ items, p value := by
  induction bound generalizing read s with
  | zero => cases h
  | succ bound ih =>
      unfold readItems at h
      split at h
      · cases h
      · rename_i value more hvalue
        have hmore : ∀ other ∈ value :: read, p other :=
          List.forall_mem_cons.2 ⟨hitem _ _ _ hvalue, hread⟩
        split at h
        · exact ih hmore h
        · split at h
          · obtain ⟨rfl, rfl⟩ := Prod.mk.inj (Option.some.inj h)
            intro other hother
            exact hmore other (List.mem_reverse.1 hother)
          · cases h
        · cases h

theorem forall_of_readContainer {bound : Nat} {s rest : List Char} {items : List α}
    (h : readContainer close item bound s = some (items, rest)) :
    ∀ value ∈ items, p value := by
  unfold readContainer at h
  split at h
  · split at h
    · obtain ⟨rfl, rfl⟩ := Prod.mk.inj (Option.some.inj h)
      exact List.forall_mem_nil p
    · exact forall_of_readItems hitem (List.forall_mem_nil p) h
  · cases h

end Containers

theorem forall_of_readMember {p : Json → Prop} {bound : Nat}
    {value : List Char → Option (Json × List Char)}
    (hvalue : ∀ s v rest, value s = some (v, rest) → p v)
    (s : List Char) (member : String × Json) (rest : List Char)
    (h : readMember bound value s = some (member, rest)) : p member.2 := by
  unfold readMember at h
  split at h
  · split at h
    · cases h
    · split at h
      · obtain ⟨⟨v, more⟩, hv, hmember⟩ := Option.map_eq_some_iff.1 h
        obtain ⟨rfl, rfl⟩ := Prod.mk.inj hmember
        exact hvalue _ _ _ hv
      · cases h
  · cases h

/-! ## Values -/

/-- The induction is on the depth that is left for containers. -/
theorem wellKeyed_of_readValue (bound depth : Nat) (s : List Char) (value : Json)
    (rest : List Char) (h : readValue bound depth s = some (value, rest)) :
    value.WellKeyed := by
  induction depth using Nat.strong_induction_on generalizing s value rest with
  | _ depth ih =>
      have mapped : ∀ {α : Type} {read : Option (α × List Char)} {build : α → Json},
          read.map (fun (found, rest) => (build found, rest)) = some (value, rest) →
            ∃ found, read = some (found, rest) ∧ value = build found := by
        intro α read build hread
        obtain ⟨⟨found, more⟩, hfound, heq⟩ := Option.map_eq_some_iff.1 hread
        obtain ⟨rfl, rfl⟩ := Prod.mk.inj heq
        exact ⟨found, hfound, rfl⟩
      unfold readValue at h
      split at h
      · obtain ⟨text, -, rfl⟩ := mapped h
        exact .string text
      · obtain ⟨rfl, -⟩ := Prod.mk.inj (Option.some.inj h)
        exact .null
      · obtain ⟨rfl, -⟩ := Prod.mk.inj (Option.some.inj h)
        exact .bool true
      · obtain ⟨rfl, -⟩ := Prod.mk.inj (Option.some.inj h)
        exact .bool false
      · rename_i depth inner
        obtain ⟨items, hitems, rfl⟩ := mapped h
        exact .array
          (forall_of_readContainer (ih depth (Nat.lt_succ_self depth)) hitems)
      · rename_i depth inner
        obtain ⟨⟨members, more⟩, hmembers, hobject⟩ := Option.map_eq_some_iff.1 h
        obtain ⟨rfl, rfl⟩ := Prod.mk.inj hobject
        have hvalues := forall_of_readContainer
          (forall_of_readMember (ih depth (Nat.lt_succ_self depth))) hmembers
        exact WellKeyed.foldl_put hvalues
          (.object List.nodup_nil (List.forall_mem_nil _))
      · cases h
      · cases h
      · obtain ⟨number, -, rfl⟩ := mapped h
        exact .number number

/-- What a text denotes has every key once, in all its objects. -/
theorem wellKeyed_of_read {text : String} {value : Json} (h : read text = some value) :
    value.WellKeyed := by
  unfold read at h
  dsimp only at h
  split at h
  · rename_i found rest hfound
    split at h
    · cases h
      exact wellKeyed_of_readValue _ _ _ _ _ hfound
    · cases h
  · cases h

end CounterTables.Json

namespace CounterTables

/-! ## Documents -/

theorem Document.wellKeyed_of_ofText {text : String} {fields : Json.Fields}
    (h : Document.ofText text = .described fields) :
    (Json.object fields).WellKeyed := by
  unfold Document.ofText at h
  split at h
  · rename_i found hread
    obtain rfl := Document.described.inj h
    exact Json.wellKeyed_of_read hread
  · cases h

/-- The documents that bytes describe have every key once. -/
theorem Document.wellKeyed_of_parse {location : String} {bytes : List UInt8}
    {fields : Json.Fields}
    (h : Document.parse location bytes = .ok (.described fields)) :
    (Json.object fields).WellKeyed := by
  unfold Document.parse at h
  split at h
  · exact wellKeyed_of_ofText (Except.ok.inj h)
  · cases h

end CounterTables
