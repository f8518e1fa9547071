/-
  Ambient.Proofs.Grouping

  Grouping by keys. The groups are those of the distinct keys in the order in which they first
  appear, and each holds the values of its key in the order in which they come. Where keys that
  cannot be told apart by an image stand between names, a value is still found in the group of its
  name.
-/
import Ambient.Grouping
import Ambient.Proofs.Distinct

namespace Ambient

namespace Json

/-- A name is the same key as nothing but itself. -/
@[simp] theorem same_str_iff (key : Json) (name : String) :
    key.same (.str name) = true ↔ key = .str name := by
  cases key <;> simp [same, sameNumber, asInt?]

end Json

namespace Grouping

variable {α : Type}

theorem ofList_append_singleton (entries : List (Json × α)) (entry : Json × α) :
    ofList (entries ++ [entry]) = insert (ofList entries) entry.1 entry.2 := by
  simp [ofList, List.foldl_append]

/-! ## One more value -/

/-- A key that is the same as that of no group gets one at the end. -/
theorem insert_of_forall {groups : List (Json × List α)} {key : Json}
    (h : ∀ group ∈ groups, group.1.same key = false) (value : α) :
    insert groups key value = groups ++ [(key, [value])] := by
  induction groups with
  | nil => rfl
  | cons group rest ih =>
    rw [insert, h group (by simp), ih fun g hg => h g (by simp [hg])]
    rfl

/-- The value goes to the end of the one group of its key, and no other group changes. -/
theorem insert_of_exists {keys : List Json} {key : Json} (values : Json → List α)
    (hone : keys.Pairwise fun a b => a.same key = true → b.same key = false)
    (h : ∃ k ∈ keys, k.same key = true) (value : α) :
    insert (keys.map fun k => (k, values k)) key value =
      keys.map fun k => (k, if k.same key then values k ++ [value] else values k) := by
  induction keys with
  | nil => simp at h
  | cons first rest ih =>
    obtain ⟨hfirst, hrest⟩ := List.pairwise_cons.mp hone
    rw [List.map_cons, List.map_cons, insert]
    by_cases hsame : first.same key = true
    · rw [if_pos hsame, if_pos hsame]
      -- no later group has this key
      refine congrArg _ (List.map_congr_left fun k hk => ?_)
      rw [hfirst k hk hsame]
      rfl
    · rw [if_neg hsame, if_neg hsame]
      refine congrArg _ (ih hrest ?_)
      obtain ⟨k, hk, hk'⟩ := h
      rcases List.mem_cons.mp hk with rfl | hmem
      · exact absurd hk' hsame
      · exact ⟨k, hmem, hk'⟩

/-! ## All values -/

/-- The groups of values: the distinct keys in order, each with its values in order. -/
theorem ofList_eq {β : Type} {image : Json → β} {entries : List (Json × α)}
    (h : Distinct.Tells Json.same image (entries.map (·.1))) :
    ofList entries =
      ((entries.map (·.1)).eraseDupsBy Json.same).map fun key =>
        (key, (entries.filter (key.same ·.1)).map (·.2)) := by
  -- the fold takes the entries one by one from the start, so the last one is split off
  induction entries using List.reverseRecOn with
  | nil => rfl
  | append_singleton entries entry ih =>
    obtain ⟨key, value⟩ := entry
    rw [List.map_append, List.map_singleton] at h ⊢
    have hentries : Distinct.Tells Json.same image (entries.map (·.1)) := h.of_subset (by simp)
    have hkey : key ∈ entries.map (·.1) ++ [key] := by simp
    have hmem : ∀ k ∈ (entries.map (·.1)).eraseDupsBy Json.same,
        k ∈ entries.map (·.1) ++ [key] :=
      fun k hk => List.mem_append_left _ (Distinct.mem_of_mem hk)
    rw [ofList_append_singleton, ih hentries, Distinct.append_singleton]
    split
    · -- the key has a group, and only that group grows
      rename_i hany
      obtain ⟨k, hk, hsame⟩ := List.any_eq_true.mp hany
      have hone := List.pairwise_map.mp (Distinct.nodup_images hentries)
      rw [insert_of_exists _ ?_ ⟨k, hk, by rw [h.symm (hmem k hk) hkey, hsame]⟩]
      · refine List.map_congr_left fun k _ => ?_
        cases hk : k.same key <;> simp [hk]
      · refine hone.imp_of_mem fun ha hb hne hsame => ?_
        rw [← Bool.not_eq_true]
        intro hsame'
        refine hne ?_
        rw [(h _ (hmem _ ha) key hkey).mp hsame, (h _ (hmem _ hb) key hkey).mp hsame']
    · -- the key is new: no group is touched, and a new one comes last
      rename_i hnone
      have hother : ∀ k ∈ (entries.map (·.1)).eraseDupsBy Json.same, k.same key = false := by
        intro k hk
        rw [h.symm (hmem k hk) hkey, ← Bool.not_eq_true]
        exact fun hsame => hnone (List.any_eq_true.mpr ⟨k, hk, hsame⟩)
      have hself : key.same key = true := (h key hkey key hkey).mpr rfl
      have hunused : entries.filter (key.same ·.1) = [] := by
        rw [List.filter_eq_nil_iff]
        intro e he hsame
        have he' : e.1 ∈ entries.map (·.1) := List.mem_map_of_mem he
        -- the key of the entry is that of some group
        obtain ⟨k, hk, himage⟩ := Distinct.exists_mem hentries he'
        refine absurd (hother k hk) ?_
        rw [Bool.not_eq_false, h k (hmem k hk) key hkey, himage]
        exact ((h key hkey e.1 (List.mem_append_left _ he')).mp hsame).symm
      rw [insert_of_forall, List.map_append, List.map_singleton]
      · congr 1
        · refine List.map_congr_left fun k hk => ?_
          simp [hother k hk]
        · simp [hunused, hself]
      · intro group hgroup
        obtain ⟨k, hk, rfl⟩ := List.mem_map.mp hgroup
        exact hother k hk

/-- The groups of values with names. -/
theorem ofList_str (entries : List (String × α)) :
    ofList (entries.map fun e => (Json.str e.1, e.2)) =
      (entries.map (·.1)).eraseDups.map fun name =>
        (Json.str name, (entries.filter (·.1 == name)).map (·.2)) := by
  have hkeys : (entries.map fun e => (Json.str e.1, e.2)).map (·.1) =
      (entries.map (·.1)).map Json.str := by simp [Function.comp_def]
  -- names are the same key only if they are equal
  have htells : Distinct.Tells Json.same id ((entries.map (·.1)).map Json.str) := by
    intro a _ b hb
    obtain ⟨name, -, rfl⟩ := List.mem_map.mp hb
    exact Json.same_str_iff a name
  rw [ofList_eq (hkeys ▸ htells), hkeys, Distinct.map, List.map_map]
  have hsame : ∀ a b : String, (Json.str a).same (.str b) = (a == b) := by
    intro a b
    simp [Json.same]
  simp only [hsame]
  refine List.map_congr_left fun name _ => ?_
  have hcomm : ∀ e : String × α, (name == e.1) = (e.1 == name) := fun _ => BEq.comm
  simp [List.filter_map, Function.comp_def, hsame, hcomm]

/-- Values of one name are one group. -/
theorem ofList_one (name : String) {values : List α} (h : values ≠ []) :
    ofList (values.map fun value => (Json.str name, value)) = [(.str name, values)] := by
  induction values using List.reverseRecOn with
  | nil => exact absurd rfl h
  | append_singleton values last ih =>
    rw [List.map_append, List.map_singleton, ofList_append_singleton]
    cases values with
    | nil => rfl
    | cons first rest =>
      rw [ih (by simp), insert, if_pos ((Json.same_str_iff _ _).mpr rfl)]

/-! ## Images of values -/

theorem insert_map {β : Type} (f : α → β) (groups : List (Json × List α)) (key : Json) (value : α) :
    insert (groups.map fun group => (group.1, group.2.map f)) key (f value) =
      (insert groups key value).map fun group => (group.1, group.2.map f) := by
  induction groups with
  | nil => rfl
  | cons group rest ih =>
    rw [List.map_cons, insert, insert]
    split
    · rw [List.map_cons, List.map_append, List.map_singleton]
    · rw [List.map_cons, ih]

/-- The groups of images of values are the images of their groups. -/
theorem ofList_map {β : Type} (f : α → β) (entries : List (Json × α)) :
    ofList (entries.map fun entry => (entry.1, f entry.2)) =
      (ofList entries).map fun group => (group.1, group.2.map f) := by
  induction entries using List.reverseRecOn with
  | nil => rfl
  | append_singleton entries entry ih =>
    rw [List.map_append, List.map_singleton, ofList_append_singleton, ofList_append_singleton, ih,
      insert_map]

/-! ## Numbers of values -/

theorem length_insert (groups : List (Json × List α)) (key : Json) (value : α) :
    ((insert groups key value).flatMap (·.2)).length = (groups.flatMap (·.2)).length + 1 := by
  induction groups with
  | nil => rfl
  | cons group rest ih =>
    rw [insert]
    split
    · simp only [List.flatMap_cons, List.length_append, List.length_singleton]
      omega
    · simp only [List.flatMap_cons, List.length_append, ih]
      omega

/-- Each value is in one group. -/
theorem length_ofList (entries : List (Json × α)) :
    ((ofList entries).flatMap (·.2)).length = entries.length := by
  induction entries using List.reverseRecOn with
  | nil => rfl
  | append_singleton entries entry ih =>
    rw [ofList_append_singleton, length_insert, ih, List.length_append, List.length_singleton]

/-! ## Names among other keys -/

/-- The value is in the group of its name. -/
theorem mem_insert_self (groups : List (Json × List α)) (name : String) (value : α) :
    ∃ values, (.str name, values) ∈ insert groups (.str name) value ∧ value ∈ values := by
  induction groups with
  | nil => exact ⟨[value], by simp [insert]⟩
  | cons group rest ih =>
    obtain ⟨key, old⟩ := group
    by_cases hsame : key.same (.str name) = true
    · have hkey := (Json.same_str_iff key name).mp hsame
      refine ⟨old ++ [value], ?_, by simp⟩
      rw [insert, if_pos hsame, hkey]
      exact List.mem_cons_self
    · obtain ⟨values, hmem, hvalue⟩ := ih
      refine ⟨values, ?_, hvalue⟩
      rw [insert, if_neg hsame]
      exact List.mem_cons_of_mem _ hmem

/-- What is in a group stays in the group of that key. -/
theorem mem_insert_of_mem {groups : List (Json × List α)} {key : Json} {old : List α}
    (h : (key, old) ∈ groups) (other : Json) (value : α) :
    ∃ values, (key, values) ∈ insert groups other value ∧ ∀ v ∈ old, v ∈ values := by
  induction groups with
  | nil => simp at h
  | cons group rest ih =>
    obtain ⟨k, vs⟩ := group
    rw [insert]
    -- the value goes to the first group of its key, which is this one or another
    rcases List.mem_cons.mp h with he | hrest
    · cases he
      by_cases hsame : key.same other = true
      · rw [if_pos hsame]
        exact ⟨old ++ [value], List.mem_cons_self, fun v hv => List.mem_append_left _ hv⟩
      · rw [if_neg hsame]
        exact ⟨old, List.mem_cons_self, fun v hv => hv⟩
    · by_cases hsame : k.same other = true
      · rw [if_pos hsame]
        exact ⟨old, List.mem_cons_of_mem _ hrest, fun v hv => hv⟩
      · obtain ⟨values, hmem, hsub⟩ := ih hrest
        rw [if_neg hsame]
        exact ⟨values, List.mem_cons_of_mem _ hmem, hsub⟩

/-- Each value with a name is in the group of that name. -/
theorem mem_ofList {entries : List (Json × α)} {name : String} {value : α}
    (h : (.str name, value) ∈ entries) :
    ∃ values, (.str name, values) ∈ ofList entries ∧ value ∈ values := by
  induction entries using List.reverseRecOn with
  | nil => simp at h
  | append_singleton entries entry ih =>
    rw [ofList_append_singleton]
    rcases List.mem_append.mp h with hold | hnew
    · -- a later value leaves the group where it is, perhaps longer
      obtain ⟨values, hmem, hvalue⟩ := ih hold
      obtain ⟨more, hmore, hsub⟩ := mem_insert_of_mem hmem entry.1 entry.2
      exact ⟨more, hmore, hsub value hvalue⟩
    · rw [← List.mem_singleton.mp hnew]
      exact mem_insert_self _ name value

end Grouping

end Ambient
