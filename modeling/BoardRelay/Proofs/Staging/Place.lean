/-
  BoardRelay.Proofs.Staging.Place
  ────────────────────────────────
  Where the files of a staging area stand.  The name of a staged video ends in
  a letter and that of a file being written in a digit, so the two never meet;
  and names of one directory lead to places of their own.
-/
import BoardRelay.Proofs.Disk.Entries
import BoardRelay.Proofs.Json.Scalar
import BoardRelay.Proofs.Staging.Calls

namespace BoardRelay

namespace Staging

/-! ## §1. Names. -/

/-- What follows the last part stands behind it. -/
theorem afterLast?_eq_some {part text rest : List Char}
    (h : Text.afterLast? part text = some rest) : ∃ before, text = before ++ part ++ rest := by
  -- Induction on the text: the part is found later, or here if it is not.
  induction text generalizing rest with
  | nil =>
    rw [Text.afterLast?] at h
    cases part with
    | nil =>
      cases h
      exact ⟨[], rfl⟩
    | cons c part => cases h
  | cons c text ih =>
    rw [Text.afterLast?] at h
    cases hlater : Text.afterLast? part text with
    | some later =>
      rw [hlater] at h
      cases h
      obtain ⟨before, rfl⟩ := ih hlater
      exact ⟨c :: before, rfl⟩
    | none =>
      rw [hlater] at h
      by_cases hhere : part.isPrefixOf (c :: text) = true
      · rw [if_pos hhere] at h
        cases h
        obtain ⟨rest, hrest⟩ := List.isPrefixOf_iff_prefix.mp hhere
        exact ⟨[], by rw [← hrest, List.drop_left, List.nil_append]⟩
      · rw [if_neg hhere] at h
        cases h

/-- What follows the last double slash of a video's locator ends as it does. -/
theorem getLast?_tail {locator : String} (h : isVideo locator = true) :
    ((Text.afterLast? ['/', '/'] locator.toList).getD locator.toList).getLast? = some 'm' := by
  have hlast : locator.toList.getLast? = some 'm' := by
    obtain ⟨before, hbefore⟩ := List.isSuffixOf_iff_suffix.mp h
    rw [← hbefore, List.getLast?_append]
    rfl
  cases htail : Text.afterLast? ['/', '/'] locator.toList with
  | none => rwa [Option.getD_none]
  | some tail =>
    obtain ⟨before, hbefore⟩ := afterLast?_eq_some htail
    rw [hbefore, List.getLast?_append] at hlast
    rw [Option.getD_some]
    cases hend : tail.getLast? with
    | none =>
      -- with nothing after it, the double slash would end the locator
      rw [hend, List.getLast?_append] at hlast
      cases hlast
    | some c => rwa [hend, Option.some_or] at hlast

/-- The name of a staged video ends in a letter and has no slash. -/
theorem stagedName_eq {locator : String} (h : isVideo locator = true) :
    ∃ name, stagedName locator = String.ofList (name ++ ['m']) ∧ '/' ∉ name := by
  -- only the last character is needed: the `m` of the suffix is neither a slash nor a dot
  obtain ⟨front, hfront⟩ := List.getLast?_eq_some_iff.mp (getLast?_tail h)
  have hslash : '/' ∉ front.filter (· != '/') := by simp
  refine ⟨(front.filter (· != '/')).erase '.', ?_, fun hmem => hslash (List.mem_of_mem_erase hmem)⟩
  -- the first dot, if any is left, stands in front of it
  have herase : ((front.filter (· != '/')) ++ ['m']).erase '.' =
      (front.filter (· != '/')).erase '.' ++ ['m'] := by
    rw [List.erase_append]
    by_cases hdot : '.' ∈ front.filter (· != '/')
    · rw [if_pos hdot]
    · rw [if_neg hdot, List.erase_of_not_mem hdot]
      rfl
  show String.ofList ((List.filter _ ((Text.afterLast? _ _).getD _)).erase '.') = _
  rw [hfront, List.filter_append, ← herase]
  rfl

theorem toList_partName (name : String) (number : Nat) :
    (partName name number).toList = (name ++ ".part").toList ++ Nat.toDigits 10 number := by
  rw [partName, String.toList_append]
  exact congrArg _ Nat.toList_repr

theorem isDigit_toDigits {number : Nat} {c : Char} (h : c ∈ Nat.toDigits 10 number) :
    c.isDigit = true :=
  Nat.isDigit_of_mem_toDigits (b := 10) (by decide) (by decide) h

/-- The name of a file being written ends in a digit. -/
theorem getLast?_partName (name : String) (number : Nat) :
    ∃ c, (partName name number).toList.getLast? = some c ∧ c.isDigit = true := by
  have hne : Nat.toDigits 10 number ≠ [] := Nat.toDigits_ne_nil
  refine ⟨(Nat.toDigits 10 number).getLast hne, ?_, isDigit_toDigits (List.getLast_mem hne)⟩
  rw [toList_partName, List.getLast?_append, List.getLast?_eq_some_getLast hne, Option.some_or]

/-- The digits that a file being written ends in are its number. -/
theorem digits_partName (name : String) (number : Nat) :
    (partName name number).toList.reverse.takeWhile Char.isDigit =
      (Nat.toDigits 10 number).reverse := by
  -- the last letter before the digits stops them
  have hpart : (name ++ ".part").toList.reverse = 't' :: (name ++ ".par").toList.reverse := by
    simp
  rw [toList_partName, List.reverse_append, hpart, List.takeWhile_append_of_pos]
  · simp
  · intro c hc
    exact isDigit_toDigits (List.mem_reverse.mp hc)

/-- Files of different numbers are written under different names. -/
theorem number_eq_of_partName_eq {name other : String} {number otherNumber : Nat}
    (h : partName name number = partName other otherNumber) : number = otherNumber := by
  have hdigits := congrArg (fun text : String => text.toList.reverse.takeWhile Char.isDigit) h
  simp only [digits_partName, List.reverse_inj] at hdigits
  rw [← Json.digitsValue_toDigits number, hdigits, Json.digitsValue_toDigits]

/-! ## §2. Paths of a staging area. -/

/-- Whether a path is that of a staged video in a directory. -/
def IsStaged (root path : Disk.Path) : Prop :=
  ∃ name, path = root.entry name ∧ name.toList.getLast? = some 'm'

/-- Whether a path is that of a file being written in a directory, by the
number of the write. -/
def IsPart (root : Disk.Path) (number : Nat) (path : Disk.Path) : Prop :=
  ∃ name, path = root.entry (partName name number)

namespace Area

/-- Areas of one directory have the same places. -/
theorem place_of_root {area after : Area} (h : after.root = area.root) (locator : String) :
    after.place locator = area.place locator := by
  rw [place, h, place]

/-- A video is staged under its name, in the directory of the area. -/
theorem place_eq_entry {locator : String} (h : isVideo locator = true) (area : Area) :
    area.place locator = area.root.entry (stagedName locator) := by
  obtain ⟨name, hname, hslash⟩ := stagedName_eq h
  rw [place, hname]
  refine Disk.Path.join_ofText ?_ ?_ ?_ ?_ area.root
  · simpa using hslash
  · simp
  · intro heq
    have hlast := congrArg List.getLast? heq
    simp at hlast
  · intro heq
    have hlast := congrArg List.getLast? heq
    simp at hlast

/-- The place of a video is that of a staged file. -/
theorem isStaged_place {locator : String} (h : isVideo locator = true) (area : Area) :
    IsStaged area.root (area.place locator) := by
  refine ⟨stagedName locator, area.place_eq_entry h, ?_⟩
  obtain ⟨name, hname, -⟩ := stagedName_eq h
  rw [hname, String.toList_ofList, List.getLast?_concat]

/-- A file is written beside its place, under the number of the write. -/
theorem isPart_part {locator : String} (h : isVideo locator = true) (area : Area) :
    IsPart area.root area.begun (area.part locator) := by
  obtain ⟨name, hplace, -⟩ := area.isStaged_place h
  exact ⟨name, by rw [part, hplace, beginFile, Disk.Path.fileName?_entry, Option.getD_some,
    Disk.Path.withFileName_entry]⟩

end Area

variable {root path part : Disk.Path} {number : Nat}

theorem IsStaged.isEntry (h : IsStaged root path) : Disk.IsEntry root path := by
  obtain ⟨name, hname, -⟩ := h
  exact ⟨name, hname⟩

theorem IsPart.isEntry (h : IsPart root number part) : Disk.IsEntry root part := by
  obtain ⟨name, hname⟩ := h
  exact ⟨_, hname⟩

/-- Entries of one directory have their names. -/
theorem name_eq_of_entry_eq {name other : String} (h : root.entry name = root.entry other) :
    name = other := by
  have hname := congrArg Disk.Path.fileName? h
  rwa [Disk.Path.fileName?_entry, Disk.Path.fileName?_entry, Option.some.injEq] at hname

/-- Videos share a path just when they share a name. -/
theorem Area.place_eq_iff {locator other : String} (h : isVideo locator = true)
    (hother : isVideo other = true) (area : Area) :
    area.place locator = area.place other ↔ stagedName locator = stagedName other := by
  rw [area.place_eq_entry h, area.place_eq_entry hother]
  exact ⟨name_eq_of_entry_eq, congrArg area.root.entry⟩

/-- No staged video has the name of a file being written. -/
theorem IsStaged.ne_part (h : IsStaged root path) (hpart : IsPart root number part) :
    path ≠ part := by
  obtain ⟨name, rfl, hlast⟩ := h
  obtain ⟨other, rfl⟩ := hpart
  intro heq
  obtain ⟨c, hdigit, hc⟩ := getLast?_partName other number
  rw [← name_eq_of_entry_eq heq, hlast] at hdigit
  cases hdigit
  revert hc
  decide

/-- The name of a file being written tells the number of the write. -/
theorem IsPart.number_eq (h : IsPart root number part) {other : Nat}
    (hother : IsPart root other part) : number = other := by
  obtain ⟨name, rfl⟩ := h
  obtain ⟨otherName, heq⟩ := hother
  exact number_eq_of_partName_eq (name_eq_of_entry_eq heq)

end Staging

end BoardRelay
