/-
  BoardRelay.Proofs.Delivery.Converted
  ────────────────────────────────
  Where converted files stand.  A video and its converted form have one name
  but for the ending (`stagedName_video`), so converted forms share a path just
  when the videos do, and no converted file is in the way of a staged one or
  of one that is being written.
-/
import BoardRelay.Proofs.Staging.Place

namespace BoardRelay

namespace Staging

/-! ## §1. Names. -/

section Ending

variable {ending : List Char} (h : '/' ∉ ending)

include h

/-- No two slashes lie astride the beginning of an ending without slashes. -/
theorem isPrefixOf_slashes_append (text : List Char) (c : Char) :
    ['/', '/'].isPrefixOf (c :: (text ++ ending)) = ['/', '/'].isPrefixOf (c :: text) := by
  cases text with
  | cons d text => simp [List.isPrefixOf]
  | nil =>
    cases ending with
    | nil => rfl
    | cons d ending =>
      have hd : '/' ≠ d := fun heq => h (heq ▸ List.mem_cons_self)
      simp [List.isPrefixOf, hd]

/-- An ending without slashes does not move what follows the last double
slash. -/
theorem afterLast?_append (text : List Char) : Text.afterLast? ['/', '/'] (text ++ ending) =
    (Text.afterLast? ['/', '/'] text).map (· ++ ending) := by
  -- Induction on the text in front: the ending has no slash, so it neither brings a double slash
  -- nor ends one.
  induction text with
  | nil =>
    cases hafter : Text.afterLast? ['/', '/'] ([] ++ ending) with
    | none => rfl
    | some rest =>
      obtain ⟨before, hbefore⟩ := afterLast?_eq_some hafter
      rw [List.nil_append] at hbefore
      exact absurd (by simp [hbefore]) h
  | cons c text ih =>
    rw [List.cons_append, Text.afterLast?, Text.afterLast?, ih, isPrefixOf_slashes_append h]
    cases Text.afterLast? ['/', '/'] text with
    | some rest => rfl
    | none =>
      by_cases hslashes : ['/', '/'].isPrefixOf (c :: text) = true
      · obtain ⟨rest, hrest⟩ := List.isPrefixOf_iff_prefix.mp hslashes
        cases hrest
        simp
      · simp [hslashes]

end Ending

/-- A video and its converted form have one name but for the ending. -/
theorem stagedName_video {locator : String} (h : isVideo locator = true) :
    ∃ front, '/' ∉ front ∧ stagedName locator = String.ofList (front ++ "webm".toList) ∧
      stagedName (convertedLocator locator) = String.ofList (front ++ "mp4".toList) := by
  obtain ⟨stem, hstem⟩ := List.isSuffixOf_iff_suffix.mp h
  have hconverted : (convertedLocator locator).toList = stem ++ convertedEnding := by
    rw [convertedLocator, ← hstem, String.toList_ofList]
    simp
  -- what follows the last double slash, without slashes
  have hname : ∀ {locator : String} {ending : List Char}, '/' ∉ ending →
      locator.toList = stem ++ ending → stagedName locator = String.ofList
        ((((Text.afterLast? ['/', '/'] stem).getD stem).filter (· != '/') ++
          ending).erase '.') := by
    intro locator ending hending hlocator
    have hfilter : ending.filter (· != '/') = ending := by
      rw [List.filter_eq_self]
      intro c hc
      rw [bne_iff_ne]
      rintro rfl
      exact hending hc
    rw [stagedName, hlocator, afterLast?_append hending]
    cases Text.afterLast? ['/', '/'] stem with
    | none => simp [hfilter]
    | some rest => simp [hfilter]
  generalize hfront : ((Text.afterLast? ['/', '/'] stem).getD stem).filter (· != '/') = front
    at hname
  have hslash : '/' ∉ front := by
    rw [← hfront]
    simp
  rw [hname (by decide) hstem.symm, hname (by decide) hconverted, List.erase_append,
    List.erase_append]
  -- the first dot is in front of the ending, or begins it
  by_cases hdot : '.' ∈ front
  · rw [if_pos hdot, if_pos hdot]
    refine ⟨front.erase '.' ++ ['.'], ?_, ?_, ?_⟩
    · simpa using hslash
    · rw [List.append_assoc]
      rfl
    · rw [List.append_assoc]
      rfl
  · rw [if_neg hdot, if_neg hdot]
    exact ⟨front, hslash, rfl, rfl⟩

/-- What is converted is no video. -/
theorem isVideo_convertedLocator (locator : String) :
    isVideo (convertedLocator locator) = false := by
  rw [← Bool.not_eq_true]
  intro h
  obtain ⟨before, hbefore⟩ := List.isSuffixOf_iff_suffix.mp h
  have hlast := congrArg List.getLast? hbefore
  rw [convertedLocator, String.toList_ofList, List.getLast?_append, List.getLast?_append] at hlast
  cases hlast

/-! ## §2. Paths. -/

/-- Whether a path is that of a converted file in a directory. -/
def IsConverted (root path : Disk.Path) : Prop :=
  ∃ front, path = root.entry (String.ofList (front ++ "mp4".toList))

namespace Area

/-- A converted file stands directly in the directory of the area, under its
name. -/
theorem converted_eq_entry {locator : String} (h : isVideo locator = true) (area : Area) :
    area.place (convertedLocator locator) =
      area.root.entry (stagedName (convertedLocator locator)) := by
  obtain ⟨front, hslash, -, hname⟩ := stagedName_video h
  rw [place, hname]
  -- the name has no slash, is not empty and is neither of the two dots, so it is one plain entry
  refine Disk.Path.join_ofText ?_ ?_ ?_ ?_ area.root
  · simpa using hslash
  · simp
  · intro heq
    have hlast := congrArg List.getLast? heq
    simp at hlast
  · intro heq
    have hlast := congrArg List.getLast? heq
    simp at hlast

/-- Its path is that of a converted file. -/
theorem isConverted_place {locator : String} (h : isVideo locator = true) (area : Area) :
    IsConverted area.root (area.place (convertedLocator locator)) := by
  obtain ⟨front, -, -, hname⟩ := stagedName_video h
  exact ⟨front, by rw [area.converted_eq_entry h, hname]⟩

/-- Converted forms share a path just when the videos do. -/
theorem converted_eq_iff {locator other : String} (h : isVideo locator = true)
    (hother : isVideo other = true) (area : Area) :
    area.place (convertedLocator locator) = area.place (convertedLocator other) ↔
      area.place locator = area.place other := by
  rw [area.place_eq_iff h hother, area.converted_eq_entry h, area.converted_eq_entry hother]
  obtain ⟨front, -, hname, hform⟩ := stagedName_video h
  obtain ⟨front', -, hname', hform'⟩ := stagedName_video hother
  -- both names have the same front, so one ending may be exchanged for the other
  have hcancel : ∀ ending : List Char, String.ofList (front ++ ending) =
      String.ofList (front' ++ ending) ↔ front = front' := fun ending => by
    rw [String.ofList_inj, List.append_cancel_right_eq]
  rw [hname, hname', hform, hform', hcancel, ← hcancel "mp4".toList]
  exact ⟨name_eq_of_entry_eq, congrArg area.root.entry⟩

end Area

variable {root path part : Disk.Path} {number : Nat}

theorem IsConverted.isEntry (h : IsConverted root path) : Disk.IsEntry root path := by
  obtain ⟨front, hpath⟩ := h
  exact ⟨_, hpath⟩

/-- No converted file has the name of a staged video. -/
theorem IsConverted.ne_staged (h : IsConverted root path) {staged : Disk.Path}
    (hstaged : IsStaged root staged) : path ≠ staged := by
  obtain ⟨front, rfl⟩ := h
  obtain ⟨name, rfl, hlast⟩ := hstaged
  intro heq
  rw [← name_eq_of_entry_eq heq, String.toList_ofList, List.getLast?_append] at hlast
  cases hlast

/-- No converted file has the name of a file being written: there a letter t
is before the number. -/
theorem IsConverted.ne_part (h : IsConverted root path) (hpart : IsPart root number part) :
    path ≠ part := by
  obtain ⟨front, rfl⟩ := h
  obtain ⟨name, rfl⟩ := hpart
  intro heq
  -- without the digits at its end the one name ends in a `t`, the other in a `p`
  have hname := congrArg (fun name : String => (name.toList.reverse.dropWhile Char.isDigit).head?)
    (name_eq_of_entry_eq heq)
  have hdigits : ∀ c ∈ (Nat.toDigits 10 number).reverse, c.isDigit = true := fun c hc =>
    isDigit_toDigits (List.mem_reverse.mp hc)
  have hpart : (name ++ ".part").toList.reverse = 't' :: (name ++ ".par").toList.reverse := by
    simp
  rw [toList_partName, List.reverse_append, List.dropWhile_append_of_pos hdigits, hpart,
    String.toList_ofList, List.reverse_append] at hname
  revert hname
  simp

end Staging

end BoardRelay
