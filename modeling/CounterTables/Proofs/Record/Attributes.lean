import Mathlib
import CounterTables.Proofs.Text.ByteOrder
import CounterTables.Record.Record

/-!
# Sorted attributes

A configuration sets its attributes one by one. Each is put where its key
belongs, so at any time the keys are strictly increasing; and as long as no key
is set twice, no attribute is lost or changed by the others.

## Main results

* `Configuration.pairwise_encode_keys` — the keys of a configuration built by
  setting attributes are strictly increasing as bytes.
* `Configuration.perm_attributes_foldl_set` — attributes with different keys are
  kept as they were set.
* `Configuration.foldl_set_perm` — in which order does not matter.
-/

namespace CounterTables

/-! ## Setting one attribute -/

namespace Attributes

/-- The keys are strictly increasing. -/
def Sorted (attributes : Attributes) : Prop :=
  (attributes.map Prod.fst).Pairwise (· < ·)

theorem mem_keys_insert {key other : String} {value : Scalar} {attributes : Attributes}
    (h : other ∈ (attributes.insert key value).map Prod.fst) :
    other = key ∨ other ∈ attributes.map Prod.fst := by
  induction attributes with
  | nil => simpa [Attributes.insert] using h
  | cons entry rest ih =>
      obtain ⟨k, v⟩ := entry
      unfold Attributes.insert at h
      split at h
      · simpa using h
      split at h
      · rcases List.mem_cons.1 h with hkey | hrest
        · exact .inl hkey
        · exact .inr (List.mem_cons_of_mem k hrest)
      · rcases List.mem_cons.1 h with hkey | hrest
        · exact .inr (hkey ▸ List.mem_cons_self)
        · rcases ih hrest with hkey | hrest
          · exact .inl hkey
          · exact .inr (List.mem_cons_of_mem k hrest)

theorem sorted_insert {attributes : Attributes} (h : Sorted attributes) (key : String)
    (value : Scalar) : Sorted (attributes.insert key value) := by
  induction attributes with
  | nil => exact List.pairwise_singleton _ _
  | cons entry rest ih =>
      obtain ⟨k, v⟩ := entry
      obtain ⟨hfirst, hrest⟩ := List.pairwise_cons.1 h
      unfold Attributes.insert
      split
      · rename_i hlt
        refine List.pairwise_cons.2 ⟨?_, h⟩
        intro other hother
        rcases List.mem_cons.1 hother with rfl | hother
        · exact hlt
        · exact lt_trans hlt (hfirst other hother)
      split
      · rename_i heq
        subst heq
        exact h
      · rename_i hnlt hne
        refine List.pairwise_cons.2 ⟨?_, ih hrest⟩
        intro other hother
        rcases mem_keys_insert hother with rfl | hother
        · exact lt_of_le_of_ne (not_lt.1 hnlt) (Ne.symm hne)
        · exact hfirst other hother

/-- A new key adds its attribute to those that are there. -/
theorem perm_insert {attributes : Attributes} {key : String}
    (h : key ∉ attributes.map Prod.fst) (value : Scalar) :
    (attributes.insert key value).Perm ((key, value) :: attributes) := by
  induction attributes with
  | nil => exact List.Perm.refl _
  | cons entry rest ih =>
      obtain ⟨k, v⟩ := entry
      simp only [List.map_cons, List.mem_cons, not_or] at h
      unfold Attributes.insert
      split
      · exact List.Perm.refl _
      split
      · exact absurd ‹key = k› h.1
      · exact ((ih h.2).cons (k, v)).trans (List.Perm.swap _ _ _)

end Attributes

/-! ## Setting many -/

namespace Configuration

theorem product_foldl_set (config : Configuration) (entries : Attributes) :
    (entries.foldl (fun config entry => config.set entry.1 entry.2) config).product =
      config.product := by
  induction entries generalizing config with
  | nil => rfl
  | cons entry entries ih => exact ih (config.set entry.1 entry.2)

theorem sorted_foldl_set {config : Configuration} (h : config.attributes.Sorted)
    (entries : Attributes) :
    (entries.foldl (fun config entry => config.set entry.1 entry.2)
      config).attributes.Sorted := by
  induction entries generalizing config with
  | nil => exact h
  | cons entry entries ih => exact ih (Attributes.sorted_insert h entry.1 entry.2)

/-- The keys of a configuration are strictly increasing, byte by byte. -/
theorem pairwise_encode_keys (product : String) (entries : Attributes) :
    ((entries.foldl (fun (config : Configuration) entry => config.set entry.1 entry.2)
      ⟨product, []⟩).keys.map Text.Utf8.encode).Pairwise (· < ·) := by
  have hempty : (Configuration.mk product []).attributes.Sorted := List.Pairwise.nil
  have hsorted := sorted_foldl_set hempty entries
  exact List.pairwise_map.2 (hsorted.imp Text.Utf8.encode_lt_encode)

/-- Attributes with different keys, none of which is there before, are added to
those that are there. -/
theorem perm_attributes_foldl_set {config : Configuration} {entries : Attributes}
    (h : ((config.attributes ++ entries).map Prod.fst).Nodup) :
    (entries.foldl (fun config entry => config.set entry.1 entry.2)
      config).attributes.Perm (config.attributes ++ entries) := by
  induction entries generalizing config with
  | nil => simp
  | cons entry entries ih =>
      have hnew : entry.1 ∉ config.attributes.map Prod.fst := by
        rw [List.map_append, List.nodup_append] at h
        exact fun hmem => h.2.2 _ hmem _ List.mem_cons_self rfl
      have hset :
          (config.set entry.1 entry.2).attributes.Perm (entry :: config.attributes) :=
        Attributes.perm_insert hnew entry.2
      have hall : ((config.set entry.1 entry.2).attributes ++ entries).Perm
          (config.attributes ++ entry :: entries) :=
        (hset.append_right entries).trans List.perm_middle.symm
      have hnodup := (hall.map Prod.fst).nodup_iff.2 h
      exact (ih hnodup).trans hall

/-- Attributes with different keys can be set in any order. -/
theorem foldl_set_perm (product : String) {entries entries' : Attributes}
    (h : (entries.map Prod.fst).Nodup) (hperm : entries.Perm entries') :
    entries.foldl (fun (config : Configuration) entry => config.set entry.1 entry.2)
        ⟨product, []⟩ =
      entries'.foldl (fun (config : Configuration) entry => config.set entry.1 entry.2)
        ⟨product, []⟩ := by
  let empty : Configuration := ⟨product, []⟩
  have hempty : empty.attributes.Sorted := List.Pairwise.nil
  have h' : (entries'.map Prod.fst).Nodup := (hperm.map Prod.fst).nodup_iff.1 h
  have hkept : ∀ {all : Attributes}, (all.map Prod.fst).Nodup →
      (all.foldl (fun config entry => config.set entry.1 entry.2)
        empty).attributes.Perm all :=
    fun hall => perm_attributes_foldl_set hall
  have hsame := (hkept h).trans (hperm.trans (hkept h').symm)
  have hattributes := List.Perm.eq_of_pairwise
    (fun first second _ _ hlt hgt => absurd (lt_trans hlt hgt) (lt_irrefl first.1))
    (List.pairwise_map.1 (sorted_foldl_set hempty entries))
    (List.pairwise_map.1 (sorted_foldl_set hempty entries')) hsame
  have hproduct := (product_foldl_set empty entries).trans
    (product_foldl_set empty entries').symm
  have hext : ∀ {config config' : Configuration}, config.product = config'.product →
      config.attributes = config'.attributes → config = config' := by
    rintro ⟨_, _⟩ ⟨_, _⟩ rfl rfl
    rfl
  exact hext hproduct hattributes

end Configuration

end CounterTables
