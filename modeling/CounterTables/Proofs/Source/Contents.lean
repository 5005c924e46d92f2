import Mathlib
import CounterTables.Source.FileTree

/-!
# Contents of files

What the operations on a file tree do to the file that a path leads to. A path
that leads to a file passes directories only. So where a file can be put, all
places on the way to it are taken already: putting it there changes what stands
at its own place and nowhere else, and no path leads to another place than
before.

## Main results

* `nodeAt?_put` — what stands at the other places.
* `toOption_follow_put` — paths lead where they led before.
* `content_put`, `content_put_of_ne` — what paths find after a file was put.
* `content_create`, `content_append`, `content_overwrite_nil` — the same for the
  operations.
* `IsPlainName.follow`, `IsPlainName.apart` — names of files in the working
  directory.
-/

namespace CounterTables.FileTree

open CounterTables.Text (pieces pieces_eq_splitOnP)

/-- The bytes of the file that a path leads to, if there is one. -/
def content (tree : FileTree) (path : String) : Option (List UInt8) :=
  (tree.read path).toOption

/-! ## Places on the way -/

/-- Something stands at all places on the way to the place. -/
def Rooted (tree : FileTree) (place : Place) : Prop :=
  ∀ names, place = .inside names →
    ∀ front, front <+: names → front ≠ names → (tree.nodeAt? (.inside front)).isSome

/-- A path goes on from a directory: to the same place, to one above it, or to
the name below it. -/
theorem enter_eq_ok {tree : FileTree} {place next : Place} {component : String}
    (h : tree.enter place component = .ok next) :
    tree.nodeAt? place = some .directory ∧
      (next = place ∨ next = .outside ∨
        (∃ names, place = .inside names ∧ next = .inside names.dropLast) ∨
        ∃ names, place = .inside names ∧ next = .inside (names ++ [component])) := by
  unfold enter at h
  split at h
  · cases h
  · cases h
  · rename_i hdirectory
    refine ⟨hdirectory, ?_⟩
    split at h
    · exact .inl (Except.ok.inj h).symm
    split at h
    · split at h
      · exact .inr (.inr (.inl ⟨_, rfl, (Except.ok.inj h).symm⟩))
      · exact .inr (.inl (Except.ok.inj h).symm)
    split at h
    · cases h
    split at h
    · exact .inr (.inr (.inr ⟨_, rfl, (Except.ok.inj h).symm⟩))
    · cases h

theorem rooted_enter {tree : FileTree} {place next : Place} {component : String}
    (hplace : tree.Rooted place) (h : tree.enter place component = .ok next) :
    tree.Rooted next := by
  obtain ⟨hdirectory, rfl | rfl | ⟨names, rfl, rfl⟩ | ⟨names, rfl, rfl⟩⟩ :=
    enter_eq_ok h
  · exact hplace
  · exact nofun
  · intro shorter heq front hfront hne
    obtain rfl := Place.inside.inj heq
    have hlonger : front <+: names := hfront.trans (List.dropLast_prefix names)
    refine hplace names rfl front hlonger ?_
    rintro rfl
    exact hne (hfront.eq_of_length_le (List.length_dropLast ▸ Nat.sub_le _ 1))
  · intro longer heq front hfront hne
    obtain rfl := Place.inside.inj heq
    rcases List.prefix_concat_iff.1 hfront with rfl | hfront
    · exact absurd rfl hne
    · by_cases hself : front = names
      · rw [hself, hdirectory]
        rfl
      · exact hplace names rfl front hfront hself

theorem rooted_foldlM_enter {tree : FileTree} {place next : Place}
    {components : List String} (hplace : tree.Rooted place)
    (h : components.foldlM tree.enter place = .ok next) : tree.Rooted next := by
  induction components generalizing place with
  | nil =>
      obtain rfl : place = next := Except.ok.inj h
      exact hplace
  | cons component components ih =>
      rw [List.foldlM_cons] at h
      cases henter : tree.enter place component with
      | error fault => simp [henter, bind, Except.bind] at h
      | ok between =>
          rw [henter] at h
          exact ih (rooted_enter hplace henter) h

/-- A path leads to a place only past places at which something stands. -/
theorem rooted_follow {tree : FileTree} {path : String} {place : Place}
    (h : tree.follow path = .ok place) : tree.Rooted place := by
  unfold follow at h
  split at h
  · cases h
  split at h
  · cases h
  split at h
  · cases h
  refine rooted_foldlM_enter ?_ h
  split
  · exact nofun
  · intro names heq front hfront hne
    obtain rfl := Place.inside.inj heq
    exact absurd (List.prefix_nil.1 hfront) hne

/-! ## Putting a file -/

theorem lookup_put_self (tree : FileTree) (names : List String) (node : Node) :
    (tree.put names node).nodes.lookup names = some node := by
  simp [put]

theorem lookup_put_of_ne (tree : FileTree) {names other : List String}
    (h : other ≠ names) (node : Node) :
    (tree.put names node).nodes.lookup other = tree.nodes.lookup other := by
  have hfilter : ∀ nodes : List (List String × Node),
      (nodes.filter fun entry => entry.1 != names).lookup other =
        nodes.lookup other := by
    intro nodes
    induction nodes with
    | nil => rfl
    | cons entry rest ih =>
        obtain ⟨key, found⟩ := entry
        by_cases hkey : key = names
        · have hother : (other == key) = false := beq_false_of_ne (hkey ▸ h)
          rw [List.filter_cons_of_neg (by simpa using hkey), List.lookup_cons, hother]
          exact ih
        · rw [List.filter_cons_of_pos (by simpa using hkey), List.lookup_cons,
            List.lookup_cons, ih]
  have hother : (other == names) = false := beq_false_of_ne h
  show ((names, node) :: _).lookup other = _
  rw [List.lookup_cons, hother]
  exact hfilter tree.nodes

theorem nodeAt?_of_lookup_some {tree : FileTree} {names : List String} {node : Node}
    (h : tree.nodes.lookup names = some node) :
    tree.nodeAt? (.inside names) = some node := by
  simp [nodeAt?, h]

theorem nodeAt?_of_lookup_none {tree : FileTree} {names : List String}
    (h : tree.nodes.lookup names = none) :
    tree.nodeAt? (.inside names) =
      if names.isEmpty || tree.nodes.any (fun entry => names.isPrefixOf entry.1) then
        some .directory
      else none := by
  simp [nodeAt?, h]

/-- Nodes below a place other than the names, or above it, if the place is on
the way to the names. -/
theorem any_put (tree : FileTree) {names other : List String} (node : Node) :
    ((tree.put names node).nodes.any fun entry => other.isPrefixOf entry.1) =
      (other.isPrefixOf names || tree.nodes.any fun entry =>
        other.isPrefixOf entry.1) := by
  rw [Bool.eq_iff_iff]
  simp only [put, List.any_cons, List.any_filter, Bool.or_eq_true, List.any_eq_true,
    Bool.and_eq_true, bne_iff_ne]
  constructor
  · rintro (hnames | ⟨entry, hentry, -, hbelow⟩)
    · exact .inl hnames
    · exact .inr ⟨entry, hentry, hbelow⟩
  · rintro (hnames | ⟨entry, hentry, hbelow⟩)
    · exact .inl hnames
    · by_cases hkey : entry.1 = names
      · exact .inl (hkey ▸ hbelow)
      · exact .inr ⟨entry, hentry, hkey, hbelow⟩

/-- Where the way is there already, nothing changes at the other places. -/
theorem nodeAt?_put {tree : FileTree} {names : List String}
    (hrooted : tree.Rooted (.inside names)) (node : Node) {place : Place}
    (h : place ≠ .inside names) :
    (tree.put names node).nodeAt? place = tree.nodeAt? place := by
  cases place with
  | outside => rfl
  | inside other =>
      have hne : other ≠ names := fun heq => h (congrArg _ heq)
      have hput := lookup_put_of_ne tree hne node
      cases hlookup : tree.nodes.lookup other with
      | some found =>
          rw [hlookup] at hput
          rw [nodeAt?_of_lookup_some hput, nodeAt?_of_lookup_some hlookup]
      | none =>
          rw [hlookup] at hput
          rw [nodeAt?_of_lookup_none hput, nodeAt?_of_lookup_none hlookup, any_put]
          cases hother : other.isPrefixOf names with
          | false => rfl
          | true =>
              -- a place on the way was a directory before
              have hsome :=
                hrooted names rfl other (List.isPrefixOf_iff_prefix.1 hother) hne
              rw [nodeAt?_of_lookup_none hlookup] at hsome
              split at hsome
              · rename_i hdirectory
                rw [if_pos hdirectory, Bool.true_or, Bool.or_true, if_pos rfl]
              · cases hsome

theorem nodeAt?_put_self (tree : FileTree) (names : List String) (node : Node) :
    (tree.put names node).nodeAt? (.inside names) = some node :=
  nodeAt?_of_lookup_some (lookup_put_self tree names node)

/-! ## Paths after a file was put -/

section Put

variable {tree : FileTree} {names : List String}
  (hrooted : tree.Rooted (.inside names))
  (hnode : tree.nodeAt? (.inside names) ≠ some .directory) (bytes : ByteArray)

include hrooted hnode

/-- No path passes the place of a file, before or after. -/
theorem toOption_enter_put (place : Place) (component : String) :
    ((tree.put names (.file bytes)).enter place component).toOption =
      (tree.enter place component).toOption := by
  by_cases hplace : place = .inside names
  · subst hplace
    unfold enter
    rw [nodeAt?_put_self]
    cases hfound : tree.nodeAt? (.inside names) with
    | none => rfl
    | some node =>
        cases node with
        | file before => rfl
        | directory => exact absurd hfound hnode
  · unfold enter
    rw [nodeAt?_put hrooted _ hplace]

theorem toOption_foldlM_enter_put (components : List String) (place : Place) :
    (components.foldlM (tree.put names (.file bytes)).enter place).toOption =
      (components.foldlM tree.enter place).toOption := by
  induction components generalizing place with
  | nil => rfl
  | cons component components ih =>
      have hstep := toOption_enter_put hrooted hnode bytes place component
      rw [List.foldlM_cons, List.foldlM_cons]
      cases hbefore : tree.enter place component with
      | error fault =>
          cases hafter : (tree.put names (.file bytes)).enter place component with
          | error other => rfl
          | ok next => simp [hbefore, hafter, Except.toOption] at hstep
      | ok next =>
          cases hafter : (tree.put names (.file bytes)).enter place component with
          | error other => simp [hbefore, hafter, Except.toOption] at hstep
          | ok next' =>
              obtain rfl : next' = next := by
                simpa [hbefore, hafter, Except.toOption] using hstep
              exact ih next'

theorem toOption_follow_put (path : String) :
    ((tree.put names (.file bytes)).follow path).toOption =
      (tree.follow path).toOption := by
  unfold follow
  split
  · rfl
  split
  · rfl
  split
  · rfl
  exact toOption_foldlM_enter_put hrooted hnode bytes _ _

end Put

/-- What stands at a place as the bytes of a file. -/
def bytesAt (tree : FileTree) (place : Place) : Option (List UInt8) :=
  match tree.nodeAt? place with
  | some (.file bytes) => some bytes.data.toList
  | _ => none

theorem content_eq_bind (tree : FileTree) (path : String) :
    tree.content path = (tree.follow path).toOption.bind tree.bytesAt := by
  unfold content read
  cases tree.follow path with
  | error fault => rfl
  | ok place =>
      dsimp only
      rw [show (Except.ok place : Except FileFault Place).toOption =
        some place from rfl, Option.bind_some, bytesAt]
      cases tree.nodeAt? place with
      | none => rfl
      | some node => cases node <;> rfl

section Put

variable {tree : FileTree} {names : List String}
  (hrooted : tree.Rooted (.inside names))
  (hnode : tree.nodeAt? (.inside names) ≠ some .directory) (bytes : ByteArray)
  {path : String}

include hrooted hnode

/-- The paths that lead to a file find the bytes that are put there. -/
theorem content_put (h : tree.follow path = .ok (.inside names)) :
    (tree.put names (.file bytes)).content path = some bytes.data.toList := by
  rw [content_eq_bind, toOption_follow_put hrooted hnode, h]
  show (tree.put names (.file bytes)).bytesAt (.inside names) = _
  rw [bytesAt, nodeAt?_put_self]

/-- All other paths find what they found before. -/
theorem content_put_of_ne (h : tree.follow path ≠ .ok (.inside names)) :
    (tree.put names (.file bytes)).content path = tree.content path := by
  rw [content_eq_bind, content_eq_bind, toOption_follow_put hrooted hnode]
  cases hfollow : tree.follow path with
  | error fault => rfl
  | ok place =>
      have hplace : place ≠ .inside names := fun heq => h (by rw [hfollow, heq])
      show (tree.put names (.file bytes)).bytesAt place = tree.bytesAt place
      rw [bytesAt, bytesAt, nodeAt?_put hrooted _ hplace]

end Put

/-! ## Operations -/

/-- Where a file can be put. -/
theorem place_eq_ok {tree : FileTree} {path : String} {names : List String}
    (h : tree.place path = .ok names) :
    tree.follow path = .ok (.inside names) ∧
      tree.nodeAt? (.inside names) ≠ some .directory := by
  unfold place at h
  dsimp only at h
  split at h
  · cases h
  split at h
  · cases h
  · cases h
  · rename_i found hfollow
    split at h
    · cases h
    · rename_i hbare
      have hpath : withoutSlash path = path := by simpa using hbare
      rw [hpath] at hfollow
      split at h
      · cases h
      · rename_i hdirectory
        obtain rfl := Except.ok.inj h
        exact ⟨hfollow, hdirectory⟩

/-- Two paths that never lead to one file. -/
def Apart (path other : String) : Prop :=
  ∀ (tree : FileTree) (names : List String),
    tree.follow path = .ok (.inside names) → tree.follow other ≠ .ok (.inside names)

/-- A file that is created is empty. -/
theorem content_create {tree tree' : FileTree} {path : String} {names : List String}
    (h : tree.create path = .ok (names, tree')) : tree'.content path = some [] := by
  unfold create at h
  cases hplace : tree.place path with
  | error fault => simp [hplace, Except.map] at h
  | ok found =>
      rw [hplace] at h
      obtain ⟨rfl, rfl⟩ := Prod.mk.inj (Except.ok.inj h)
      obtain ⟨hfollow, hnode⟩ := place_eq_ok hplace
      exact content_put (rooted_follow hfollow) hnode _ hfollow

/-- What is added to one file does not show in another. -/
theorem content_append {tree tree' : FileTree} {file path : String} {bytes : List UInt8}
    (h : tree.append file bytes = .ok tree') (hapart : Apart file path) :
    tree'.content path = tree.content path := by
  unfold append at h
  cases hplace : tree.place file with
  | error fault => simp [hplace, Except.map] at h
  | ok names =>
      rw [hplace] at h
      obtain ⟨hfollow, hnode⟩ := place_eq_ok hplace
      have hother : tree.follow path ≠ .ok (.inside names) := hapart tree names hfollow
      have hput : ∀ content : ByteArray,
          (tree.put names (.file content)).content path = tree.content path :=
        fun content => content_put_of_ne (rooted_follow hfollow) hnode content hother
      obtain rfl := Except.ok.inj h
      dsimp only
      split
      · exact hput _
      · exact hput _

/-- Putting no bytes over those of a file leaves it as it is. -/
theorem content_overwrite_nil (tree : FileTree) (names : List String) (start : Nat)
    (path : String) :
    (tree.overwrite names start []).content path = tree.content path := by
  unfold overwrite
  split
  · rename_i before hlookup
    have hcopy :
        [].toByteArray.copySlice 0 before start [].toByteArray.size = before := by
      apply ByteArray.ext
      simp [ByteArray.copySlice, Array.extract_append_extract]
    have hnode : tree.nodeAt? (.inside names) = some (.file before) :=
      nodeAt?_of_lookup_some hlookup
    have hrooted : tree.Rooted (.inside names) := by
      intro found heq front hfront hne
      obtain rfl := Place.inside.inj heq
      obtain ⟨above, below, hnodes, -⟩ := List.lookup_eq_some_iff.1 hlookup
      have hbelow : (tree.nodes.any fun entry => front.isPrefixOf entry.1) = true := by
        rw [hnodes, List.any_eq_true]
        exact ⟨(names, .file before), by simp, List.isPrefixOf_iff_prefix.2 hfront⟩
      cases hfound : tree.nodes.lookup front with
      | some node => rw [nodeAt?_of_lookup_some hfound]; rfl
      | none =>
          rw [nodeAt?_of_lookup_none hfound, hbelow, Bool.or_true, if_pos rfl]; rfl
    have hfile : tree.nodeAt? (.inside names) ≠ some .directory := by
      rw [hnode]
      nofun
    dsimp only
    rw [hcopy]
    by_cases hfollow : tree.follow path = .ok (.inside names)
    · rw [content_put hrooted hfile before hfollow, content_eq_bind, hfollow]
      show _ = tree.bytesAt (.inside names)
      rw [bytesAt, hnode]
    · exact content_put_of_ne hrooted hfile before hfollow
  · rfl

/-! ## Names in the working directory -/

/-- A name that can be that of a file in the working directory. -/
structure IsPlainName (name : String) : Prop where
  ne_empty : name ≠ ""
  ne_here : name ≠ "."
  ne_above : name ≠ ".."
  no_slash : '/' ∉ name.toList
  no_null : '\x00' ∉ name.toList
  short : name.utf8ByteSize ≤ maxName

namespace IsPlainName

variable {name : String} {tree : FileTree}

theorem components_eq (h : IsPlainName name) : components name = [name] := by
  have hpieces : pieces (· == '/') name.toList = [name.toList] := by
    rw [pieces_eq_splitOnP]
    refine List.splitOnP_eq_singleton fun c hc => ?_
    exact beq_false_of_ne fun heq => h.no_slash (heq ▸ hc)
  rw [components, hpieces, List.map_singleton, String.ofList_toList]

theorem withoutSlash_eq (h : IsPlainName name) : withoutSlash name = name := by
  have hlast : name.toList.reverse.dropWhile (· == '/') = name.toList.reverse := by
    refine List.dropWhile_eq_self_iff.2 fun hpos hslash => h.no_slash ?_
    rw [← beq_iff_eq.1 hslash]
    exact List.mem_reverse.1 (List.getElem_mem hpos)
  rw [withoutSlash, hlast, List.reverse_reverse, String.ofList_toList]

theorem not_startsWith (h : IsPlainName name) : name.startsWith "/" = false := by
  rw [Bool.eq_false_iff]
  intro hstart
  exact h.no_slash ((String.startsWith_string_iff.1 hstart).subset (by simp))

/-- The name is looked for in the working directory. -/
theorem follow_eq (h : IsPlainName name) :
    tree.follow name = tree.enter (.inside []) name := by
  have hnull : name.toList.contains '\x00' = false := by simpa using h.no_null
  have hempty : name.isEmpty = false := by simpa using h.ne_empty
  have hshort : ¬ maxPath < name.utf8ByteSize :=
    Nat.not_lt.2 (h.short.trans (by decide))
  unfold FileTree.follow
  rw [h.components_eq, h.not_startsWith, hempty, hnull]
  simp only [Bool.false_eq_true, if_false, hshort, List.foldlM_cons, List.foldlM_nil,
    bind_pure]

theorem follow (h : IsPlainName name)
    (hroot : tree.nodeAt? (.inside []) = some .directory) :
    tree.follow name = .ok (.inside [name]) := by
  rw [h.follow_eq]
  unfold enter
  simp [hroot, h.ne_empty, h.ne_here, h.ne_above, Nat.not_lt.2 h.short]

/-- Different names do not lead to one file. -/
theorem apart (h : IsPlainName name) {other : String} (hother : IsPlainName other)
    (hne : name ≠ other) : Apart name other := by
  have hroot : ∀ (tree : FileTree) {name : String} {names : List String},
      IsPlainName name → tree.follow name = .ok (.inside names) → names = [name] := by
    intro tree name names hname hfollow
    have hdirectory : tree.nodeAt? (.inside []) = some .directory :=
      (enter_eq_ok (hname.follow_eq.symm.trans hfollow)).1
    rw [hname.follow hdirectory] at hfollow
    exact (Place.inside.inj (Except.ok.inj hfollow)).symm
  intro tree names hfollow hfollow'
  have heq : [name] = [other] :=
    (hroot tree h hfollow).symm.trans (hroot tree hother hfollow')
  exact hne (List.singleton_inj.1 heq)

theorem content (h : IsPlainName name)
    (hroot : tree.nodeAt? (.inside []) = some .directory) :
    tree.content name = tree.bytesAt (.inside [name]) := by
  rw [content_eq_bind, h.follow hroot]
  rfl

theorem read_of_none (h : IsPlainName name)
    (hroot : tree.nodeAt? (.inside []) = some .directory)
    (hnone : tree.nodeAt? (.inside [name]) = none) :
    tree.read name = .error .notFound := by
  unfold read
  rw [h.follow hroot]
  dsimp only
  rw [hnone]

theorem place (h : IsPlainName name)
    (hroot : tree.nodeAt? (.inside []) = some .directory)
    (hnode : tree.nodeAt? (.inside [name]) ≠ some .directory) :
    tree.place name = .ok [name] := by
  have hslash : (name == "") = false := beq_false_of_ne h.ne_empty
  unfold FileTree.place
  simp only [h.withoutSlash_eq, hslash, Bool.and_false, h.follow hroot,
    bne_self_eq_false, Bool.false_eq_true, if_false]

theorem create (h : IsPlainName name)
    (hroot : tree.nodeAt? (.inside []) = some .directory)
    (hnode : tree.nodeAt? (.inside [name]) ≠ some .directory) :
    tree.create name = .ok ([name], tree.put [name] (.file .empty)) := by
  rw [FileTree.create, h.place hroot hnode]
  rfl

/-- Nothing is added to a file that is not there: it is created. -/
theorem append_nil (h : IsPlainName name)
    (hroot : tree.nodeAt? (.inside []) = some .directory)
    (hnone : tree.nodeAt? (.inside [name]) = none) :
    tree.append name [] = .ok (tree.put [name] (.file .empty)) := by
  have hnode : tree.nodeAt? (.inside [name]) ≠ some .directory := by
    rw [hnone]
    nofun
  have hlookup : tree.nodes.lookup [name] = none := by
    cases hfound : tree.nodes.lookup [name] with
    | none => rfl
    | some node => rw [nodeAt?_of_lookup_some hfound] at hnone; cases hnone
  rw [FileTree.append, h.place hroot hnode]
  simp only [Except.map, hlookup]
  rfl

end IsPlainName

end CounterTables.FileTree
