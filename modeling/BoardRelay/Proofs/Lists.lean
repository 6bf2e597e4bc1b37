/-
  BoardRelay.Proofs.Lists
  ────────────────────────────────
  Lists in which one item is replaced: who stays, and how sums, counts and
  what the items list themselves change by what the one item gains and loses.
-/
import Mathlib.Algebra.GroupWithZero.Nat
import Mathlib.Algebra.Order.BigOperators.Group.List
import Mathlib.Algebra.Order.Group.Nat
import Mathlib.Data.List.Perm.Basic

namespace BoardRelay

variable {α β : Type} {items : List α} {position : Nat} {item other : α}

/-! ## §1. One item replaced. -/

theorem mem_set_or_eq (hitem : items[position]? = some item) (hother : other ∈ items)
    (replacement : α) : other ∈ items.set position replacement ∨ other = item := by
  obtain ⟨index, hindex⟩ := List.getElem?_of_mem hother
  by_cases heq : position = index
  · subst heq
    exact .inr (Option.some.inj (hindex.symm.trans hitem))
  · refine .inl (List.mem_iff_getElem?.mpr ⟨index, ?_⟩)
    rwa [List.getElem?_set_ne heq]

/-- What is in a changed list is the new item, or was there before, elsewhere. -/
theorem getElem?_set_cases {index : Nat}
    (h : (items.set position other)[index]? = some item) :
    index = position ∧ item = other ∨ index ≠ position ∧ items[index]? = some item := by
  by_cases heq : position = index
  · subst heq
    obtain ⟨hindex, hitem⟩ := List.getElem?_eq_some_iff.mp h
    exact .inl ⟨rfl, hitem.symm.trans (List.getElem_set_self hindex)⟩
  · rw [List.getElem?_set_ne heq] at h
    exact .inr ⟨Ne.symm heq, h⟩

theorem map_set_of_eq {f : α → β} (hitem : items[position]? = some item)
    (heq : f other = f item) : (items.set position other).map f = items.map f := by
  obtain ⟨hposition, rfl⟩ := List.getElem?_eq_some_iff.mp hitem
  rw [List.map_set, heq, ← List.map_set, List.set_getElem_self]

/-- Lists put together change by what one of them gains and loses. -/
theorem perm_flatten_set {lists : List (List α)} {before after : List α} (gain loss : List α)
    (hbefore : lists[position]? = some before) (hafter : (after ++ loss).Perm (before ++ gain)) :
    ((lists.set position after).flatten ++ loss).Perm (lists.flatten ++ gain) := by
  -- Induction on the lists: the one that is set is the first, or the first stays in front.
  induction lists generalizing position with
  | nil => cases hbefore
  | cons first lists ih =>
    cases position with
    | zero =>
      cases hbefore
      rw [List.set_cons_zero, List.flatten_cons, List.flatten_cons]
      calc List.Perm (after ++ lists.flatten ++ loss) (after ++ loss ++ lists.flatten) := by
            rw [List.append_assoc, List.append_assoc]
            exact List.perm_append_comm.append_left after
        List.Perm _ (before ++ gain ++ lists.flatten) := hafter.append_right _
        List.Perm _ (before ++ lists.flatten ++ gain) := by
            rw [List.append_assoc, List.append_assoc]
            exact List.perm_append_comm.append_left before
    | succ position =>
      rw [List.set_cons_succ, List.flatten_cons, List.flatten_cons, List.append_assoc,
        List.append_assoc]
      exact (ih hbefore).append_left first

/-! ## §2. Sums and counts. -/

/-- What keys list together gains what the list of one key gains in front. -/
theorem perm_flatMap_update {keys : List α} {key : α} {f g : α → List β} {gain : List β}
    (hkey : key ∈ keys) (hnodup : keys.Nodup) (hself : g key = gain ++ f key)
    (hothers : ∀ other, other ≠ key → g other = f other) :
    (gain ++ keys.flatMap f).Perm (keys.flatMap g) := by
  obtain ⟨before, after, rfl⟩ := List.append_of_mem hkey
  obtain ⟨-, hafter, hbefore⟩ := List.nodup_append.mp hnodup
  -- without repetition the key is in neither half, so both map as before
  have hne : ∀ other ∈ before, other ≠ key := fun other hother =>
    hbefore other hother key List.mem_cons_self
  have hne' : ∀ other ∈ after, other ≠ key := by
    rintro other hother rfl
    exact (List.nodup_cons.mp hafter).1 hother
  rw [List.flatMap_append, List.flatMap_append, List.flatMap_cons, List.flatMap_cons, hself,
    List.flatMap_congr fun other hother => hothers other (hne other hother),
    List.flatMap_congr fun other hother => hothers other (hne' other hother), List.append_assoc]
  exact List.perm_append_comm_assoc _ _ _

/-- A sum over a list changes by what the one item counts. -/
theorem sum_map_set (f : α → Nat) (hitem : items[position]? = some item) (other : α) :
    ((items.set position other).map f).sum + f item = (items.map f).sum + f other := by
  -- Induction on the list, up to the item that is changed.
  induction items generalizing position with
  | nil => cases hitem
  | cons first items ih =>
    cases position with
    | zero =>
      cases hitem
      rw [List.set_cons_zero, List.map_cons, List.map_cons, List.sum_cons, List.sum_cons]
      omega
    | succ position =>
      have ih := ih hitem
      rw [List.set_cons_succ, List.map_cons, List.map_cons, List.sum_cons, List.sum_cons]
      omega

theorem sum_map_set_le {f : α → Nat} {less : Nat} (hitem : items[position]? = some item)
    (hless : f other + less ≤ f item) :
    ((items.set position other).map f).sum + less ≤ (items.map f).sum := by
  have hsum := sum_map_set f hitem other
  omega

/-- So does the number of items of a kind. -/
theorem countP_set (p : α → Bool) (hitem : items[position]? = some item) (other : α) :
    (items.set position other).countP p + (p item).toNat = items.countP p + (p other).toNat := by
  obtain ⟨hposition, rfl⟩ := List.getElem?_eq_some_iff.mp hitem
  rw [List.countP_set hposition]
  cases hbefore : p items[position] with
  | false => cases p other <;> rfl
  | true =>
    have hpos : 0 < items.countP p :=
      List.countP_pos_iff.mpr ⟨_, List.getElem_mem hposition, hbefore⟩
    have hcancel : items.countP p - 1 + 1 = items.countP p := Nat.sub_add_cancel hpos
    cases p other with
    | false => exact hcancel
    | true => exact congrArg (· + 1) hcancel

theorem countP_lt_countP {p q : α → Bool} (h : ∀ other ∈ items, p other = true → q other = true)
    (hitem : item ∈ items) (hp : p item = false) (hq : q item = true) :
    items.countP p < items.countP q := by
  -- the list around the item that only one of the two counts
  obtain ⟨before, after, rfl⟩ := List.append_of_mem hitem
  have hbefore : before.countP p ≤ before.countP q :=
    List.countP_mono_left fun other hother => h other (List.mem_append_left _ hother)
  have hafter : after.countP p ≤ after.countP q :=
    List.countP_mono_left fun other hother =>
      h other (List.mem_append_right _ (List.mem_cons_of_mem _ hother))
  rw [List.countP_append, List.countP_append, List.countP_cons, List.countP_cons, hp, hq]
  simp only [Bool.false_eq_true, if_false, if_true]
  omega

end BoardRelay
