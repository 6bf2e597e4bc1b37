/-
  BoardRelay.Proofs.Clock.Agenda
  ────────────────────────────────
  Agendas.  A new entry joins the others in order of time
  (`Agenda.pairwise_insertEntry`), wherever its place is.
-/
import BoardRelay.Clock.Agenda

namespace BoardRelay.Clock.Agenda

variable {α : Type}

/-- An agenda with a new entry has the old ones and this one. -/
theorem perm_insertEntry (entry : Nat × α) (entries : List (Nat × α)) :
    (insertEntry entry entries).Perm (entry :: entries) := by
  -- Induction on the entries that the new one is carried past.
  induction entries with
  | nil => exact .refl _
  | cons other entries ih =>
    rw [insertEntry]
    split
    · exact (ih.cons other).trans (List.Perm.swap _ _ _)
    · exact .refl _

theorem mem_insertEntry {entry other : Nat × α} {entries : List (Nat × α)} :
    other ∈ insertEntry entry entries ↔ other = entry ∨ other ∈ entries :=
  (perm_insertEntry entry entries).mem_iff.trans List.mem_cons

/-- An agenda stays in order of time. -/
theorem pairwise_insertEntry {entry : Nat × α} {entries : List (Nat × α)}
    (h : entries.Pairwise fun earlier later => earlier.1 ≤ later.1) :
    (insertEntry entry entries).Pairwise fun earlier later => earlier.1 ≤ later.1 := by
  induction entries with
  | nil => exact List.pairwise_singleton _ _
  | cons first entries ih =>
    obtain ⟨hfirst, hrest⟩ := List.pairwise_cons.mp h
    rw [insertEntry]
    split
    · -- the first entry stays first: it is not later than the new one, nor than the rest
      next hle =>
      refine List.pairwise_cons.mpr ⟨fun other hother => ?_, ih hrest⟩
      rcases mem_insertEntry.mp hother with rfl | hold
      · exact hle
      · exact hfirst other hold
    · -- the new entry comes first, and what the first was not later than, it is not later than
      -- either
      next hlt =>
      refine List.pairwise_cons.mpr ⟨fun other hother => ?_, h⟩
      rcases List.mem_cons.mp hother with rfl | hold
      · exact Nat.le_of_not_le hlt
      · exact Nat.le_trans (Nat.le_of_not_le hlt) (hfirst other hold)

/-- An entry is not found among those that it is none of. -/
theorem filter_insertEntry_of_neg {p : Nat × α → Bool} {entry : Nat × α} (h : ¬ p entry)
    (entries : List (Nat × α)) :
    (insertEntry entry entries).filter p = entries.filter p := by
  induction entries with
  | nil => exact List.filter_cons_of_neg h
  | cons first entries ih =>
    rw [insertEntry]
    split
    · rw [List.filter_cons, List.filter_cons, ih]
    · exact List.filter_cons_of_neg h

/-- Of the entries that an entry is one of, it has the same place among all and
among those alone. -/
theorem filter_insertEntry_of_pos {p : Nat × α → Bool} {entry : Nat × α} (h : p entry)
    {entries : List (Nat × α)}
    (hsorted : entries.Pairwise fun earlier later => earlier.1 ≤ later.1) :
    (insertEntry entry entries).filter p = insertEntry entry (entries.filter p) := by
  induction entries with
  | nil => exact List.filter_cons_of_pos h
  | cons first entries ih =>
    obtain ⟨hfirst, hrest⟩ := List.pairwise_cons.mp hsorted
    rw [insertEntry]
    by_cases hle : first.1 ≤ entry.1
    · rw [if_pos hle, List.filter_cons, List.filter_cons, ih hrest]
      split
      · rw [insertEntry, if_pos hle]
      · rfl
    · rw [if_neg hle, List.filter_cons_of_pos h]
      -- all that is left comes later than the entry
      have hlater : ∀ other ∈ first :: entries, ¬ other.1 ≤ entry.1 := by
        intro other hother hearly
        rcases List.mem_cons.mp hother with rfl | hmem
        · exact hle hearly
        · exact hle (Nat.le_trans (hfirst other hmem) hearly)
      cases hfilter : (first :: entries).filter p with
      | nil => rfl
      | cons other others =>
        have hother : other ∈ first :: entries :=
          (List.mem_filter.mp (hfilter ▸ List.mem_cons_self)).1
        rw [insertEntry, if_neg (hlater other hother)]

end BoardRelay.Clock.Agenda
