import Mathlib
import CounterTables.Proofs.Json.WellKeyed

/-!
# Objects in another order

Two objects with the same members in different orders have the same value under
every key, as long as no key occurs twice. A document is compared with another
one level by level: the members are matched key by key with what stands under
the same key, and are then put in another order.

## Main results

* `Fields.get?_perm` — the order of members does not matter to a look-up.
* `Fields.Rearranged.get?` — what is found in a rearranged object.
-/

namespace CounterTables.Json

/-! ## Relations -/

/-- The same keys in the same order, the values under each key related as the
key asks. -/
def Fields.Matched (same : String → Json → Json → Prop) (fields fields' : Fields) :
    Prop :=
  List.Forall₂ (fun field field' => field.1 = field'.1 ∧ same field.1 field.2 field'.2)
    fields fields'

/-- The members are matched and then ordered anew. -/
def Fields.Rearranged (order : Fields → Fields → Prop)
    (same : String → Json → Json → Prop) (fields fields' : Fields) : Prop :=
  ∃ between, Matched same fields between ∧ order between fields'

/-- Two objects whose members are related, or one value twice. -/
inductive Alike (related : Fields → Fields → Prop) : Json → Json → Prop
  | refl (value : Json) : Alike related value value
  | object {fields fields' : Fields} :
      related fields fields' → Alike related (.object fields) (.object fields')

/-! ## Look-ups -/

namespace Fields

variable {same : String → Json → Json → Prop} {fields fields' : Fields}

theorem mem_of_get? {key : String} {value : Json} (h : fields.get? key = some value) :
    (key, value) ∈ fields := by
  obtain ⟨before, after, rfl, -⟩ := List.lookup_eq_some_iff.1 h
  exact List.mem_append_right before List.mem_cons_self

theorem get?_eq_some_iff (h : fields.Distinct) {key : String} {value : Json} :
    fields.get? key = some value ↔ (key, value) ∈ fields := by
  refine ⟨mem_of_get?, fun hmem => ?_⟩
  induction fields with
  | nil => cases hmem
  | cons field rest ih =>
      obtain ⟨name, first⟩ := field
      obtain ⟨hnew, hrest⟩ := List.nodup_cons.1 h
      rw [get?_cons]
      rcases List.mem_cons.1 hmem with heq | hlater
      · obtain ⟨rfl, rfl⟩ := Prod.mk.inj heq
        exact if_pos rfl
      · have hne : key ≠ name := by
          rintro rfl
          exact hnew (List.mem_map.2 ⟨(key, value), hlater, rfl⟩)
        rw [if_neg hne]
        exact ih hrest hlater

/-- The order of the members does not matter where keys are distinct. -/
theorem get?_perm (h : fields.Distinct) (hperm : fields.Perm fields') (key : String) :
    fields.get? key = fields'.get? key := by
  have h' : fields'.Distinct := (hperm.map Prod.fst).nodup_iff.1 h
  apply Option.ext
  intro value
  rw [get?_eq_some_iff h, get?_eq_some_iff h', hperm.mem_iff]

theorem Matched.keys_eq (h : Matched same fields fields') :
    fields.map Prod.fst = fields'.map Prod.fst := by
  induction h with
  | nil => rfl
  | cons hfield _ ih => rw [List.map_cons, List.map_cons, hfield.1, ih]

theorem Matched.get? (h : Matched same fields fields') (key : String) :
    Option.Rel (same key) (fields.get? key) (fields'.get? key) := by
  induction h with
  | nil => exact .none
  | @cons field field' rest rest' hfield _ ih =>
      obtain ⟨name, value⟩ := field
      obtain ⟨name', value'⟩ := field'
      obtain ⟨rfl, hvalue⟩ := hfield
      rw [get?_cons, get?_cons]
      split
      · subst key
        exact .some hvalue
      · exact ih

/-- Under each key a rearranged object has what matches. -/
theorem Rearranged.get? (h : Rearranged List.Perm same fields fields')
    (hkeys : fields.Distinct) (key : String) :
    Option.Rel (same key) (fields.get? key) (fields'.get? key) := by
  obtain ⟨between, hmatched, hperm⟩ := h
  have hbetween : between.Distinct := by
    unfold Distinct
    rw [← hmatched.keys_eq]
    exact hkeys
  rw [← get?_perm hbetween hperm]
  exact hmatched.get? key

end Fields

end CounterTables.Json
