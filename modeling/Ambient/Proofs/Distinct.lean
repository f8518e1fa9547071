/-
  Ambient.Proofs.Distinct

  Distinct items in the order in which they first come. What comes again is told by a comparison;
  where the comparison tells by an image (`Tells`), the images of the distinct items are the images
  of all items, each once.
-/
import Mathlib.Data.List.Induction

namespace Ambient.Distinct

variable {α β : Type} {same : α → α → Bool}

/-! ## One more item -/

private theorem loop_append_singleton (items seen : List α) (item : α) :
    List.eraseDupsBy.loop same (items ++ [item]) seen =
      if (List.eraseDupsBy.loop same items seen).any (same item)
      then List.eraseDupsBy.loop same items seen
      else List.eraseDupsBy.loop same items seen ++ [item] := by
  induction items generalizing seen with
  | nil =>
    simp only [List.nil_append, List.eraseDupsBy.loop, List.any_reverse]
    split <;> simp_all
  | cons first rest ih =>
    rw [List.cons_append, List.eraseDupsBy.loop, List.eraseDupsBy.loop]
    split
    · exact ih seen
    · exact ih (first :: seen)

/-- An item that is the same as one before it adds nothing, and any other comes last. -/
theorem append_singleton (items : List α) (item : α) :
    (items ++ [item]).eraseDupsBy same =
      if (items.eraseDupsBy same).any (same item) then items.eraseDupsBy same
      else items.eraseDupsBy same ++ [item] :=
  loop_append_singleton items [] item

theorem mem_of_mem {items : List α} {item : α} (h : item ∈ items.eraseDupsBy same) :
    item ∈ items := by
  induction items using List.reverseRecOn with
  | nil => simp at h
  | append_singleton items last ih =>
    rw [append_singleton] at h
    split at h
    · exact List.mem_append_left _ (ih h)
    · rcases List.mem_append.mp h with hold | hnew
      · exact List.mem_append_left _ (ih hold)
      · exact List.mem_append_right _ hnew

/-- Items that are told apart are distinct already. -/
theorem eq_self {items : List α} (h : items.Pairwise fun a b => same b a = false) :
    items.eraseDupsBy same = items := by
  induction items using List.reverseRecOn with
  | nil => rfl
  | append_singleton items last ih =>
    obtain ⟨hitems, -, hlast⟩ := List.pairwise_append.mp h
    have hnone : ¬ (items.any (same last)) = true := by
      intro hany
      obtain ⟨a, ha, hsame⟩ := List.any_eq_true.mp hany
      rw [hlast a ha last (List.mem_singleton_self last)] at hsame
      cases hsame
    rw [append_singleton, ih hitems, if_neg hnone]

/-! ## Other comparisons -/

/-- Only the comparisons of the items with each other matter. -/
theorem congr_of {same' : α → α → Bool} {items : List α}
    (h : ∀ a ∈ items, ∀ b ∈ items, same a b = same' a b) :
    items.eraseDupsBy same = items.eraseDupsBy same' := by
  induction items using List.reverseRecOn with
  | nil => rfl
  | append_singleton items last ih =>
    have hitems := ih fun a ha b hb => h a (by simp [ha]) b (by simp [hb])
    have hany : (items.eraseDupsBy same').any (same last) =
        (items.eraseDupsBy same').any (same' last) := by
      rw [Bool.eq_iff_iff, List.any_eq_true, List.any_eq_true]
      refine exists_congr fun a => and_congr_right fun ha => ?_
      rw [h last (by simp) a (by simp [mem_of_mem ha])]
    rw [append_singleton, append_singleton, hitems, hany]

/-- Distinct images are the images of items that the comparison of their images tells apart. -/
theorem map (f : β → α) (items : List β) :
    (items.map f).eraseDupsBy same =
      (items.eraseDupsBy fun a b => same (f a) (f b)).map f := by
  induction items using List.reverseRecOn with
  | nil => rfl
  | append_singleton items last ih =>
    rw [List.map_append, List.map_singleton, append_singleton, append_singleton, ih, List.any_map]
    rw [apply_ite (List.map f), List.map_append, List.map_singleton]
    rfl

/-! ## Comparison by an image -/

/-- The comparison of some items tells whether they have one image. -/
def Tells (same : α → α → Bool) (image : α → β) (items : List α) : Prop :=
  ∀ a ∈ items, ∀ b ∈ items, same a b = true ↔ image a = image b

variable {image : α → β} {items : List α}

theorem Tells.of_subset {more : List α} (h : Tells same image more) (hsub : items ⊆ more) :
    Tells same image items :=
  fun a ha b hb => h a (hsub ha) b (hsub hb)

theorem Tells.symm (h : Tells same image items) {a b : α} (ha : a ∈ items) (hb : b ∈ items) :
    same a b = same b a := by
  rw [Bool.eq_iff_iff, h a ha b hb, h b hb a ha]
  exact eq_comm

/-- Each item has the image of one of the distinct items. -/
theorem exists_mem (h : Tells same image items) {item : α} (hitem : item ∈ items) :
    ∃ a ∈ items.eraseDupsBy same, image a = image item := by
  induction items using List.reverseRecOn with
  | nil => simp at hitem
  | append_singleton items last ih =>
    have hitems : Tells same image items := h.of_subset (by simp)
    rw [append_singleton]
    rcases List.mem_append.mp hitem with hold | hnew
    · obtain ⟨a, ha, heq⟩ := ih hitems hold
      split
      · exact ⟨a, ha, heq⟩
      · exact ⟨a, List.mem_append_left _ ha, heq⟩
    · cases List.mem_singleton.mp hnew
      split
      · -- one of those before is the same
        rename_i hany
        obtain ⟨a, ha, hsame⟩ := List.any_eq_true.mp hany
        exact ⟨a, ha, ((h item (by simp) a (by simp [mem_of_mem ha])).mp hsame).symm⟩
      · exact ⟨item, by simp, rfl⟩

/-- No two of the distinct items have one image. -/
theorem nodup_images (h : Tells same image items) :
    ((items.eraseDupsBy same).map image).Nodup := by
  induction items using List.reverseRecOn with
  | nil => simp
  | append_singleton items last ih =>
    have hitems := ih (h.of_subset (by simp))
    rw [append_singleton]
    split
    · exact hitems
    · rename_i hany
      rw [List.map_append, List.map_singleton]
      refine List.nodup_append.mpr ⟨hitems, by simp, fun x hx y hy heq => hany ?_⟩
      -- an item with the image of the last would be the same
      obtain ⟨a, ha, rfl⟩ := List.mem_map.mp hx
      rw [List.mem_singleton.mp hy] at heq
      exact List.any_eq_true.mpr
        ⟨a, ha, (h last (by simp) a (by simp [mem_of_mem ha])).mpr heq.symm⟩

/-- The distinct items are told apart. -/
theorem pairwise_apart (h : Tells same image items) :
    (items.eraseDupsBy same).Pairwise fun a b => same a b = false := by
  refine (List.pairwise_map.mp (nodup_images h)).imp_of_mem fun ha hb hne => ?_
  rw [← Bool.not_eq_true]
  exact fun hsame => hne ((h _ (mem_of_mem ha) _ (mem_of_mem hb)).mp hsame)

theorem mem_images (h : Tells same image items) {x : β} :
    x ∈ (items.eraseDupsBy same).map image ↔ x ∈ items.map image := by
  simp only [List.mem_map]
  constructor
  · rintro ⟨a, ha, rfl⟩
    exact ⟨a, mem_of_mem ha, rfl⟩
  · rintro ⟨a, ha, rfl⟩
    exact exists_mem h ha

/-- Lists with the same images have as many distinct items, and these have the same images. -/
theorem perm_images {others : List α} (h : Tells same image items) (h' : Tells same image others)
    (himages : ∀ x, x ∈ items.map image ↔ x ∈ others.map image) :
    ((items.eraseDupsBy same).map image).Perm ((others.eraseDupsBy same).map image) := by
  refine (List.perm_ext_iff_of_nodup (nodup_images h) (nodup_images h')).mpr fun x => ?_
  rw [mem_images h, mem_images h', himages]

end Ambient.Distinct
