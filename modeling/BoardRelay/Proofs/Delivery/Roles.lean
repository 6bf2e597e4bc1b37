/-
  BoardRelay.Proofs.Delivery.Roles
  ────────────────────────────────
  The files that the delivery of a video has to do with: the video as it is
  being written, the staged video, and its converted form.  Each has a name in
  the staging area (`Role.path_eq_entry`), and files in different roles have
  different ones, whichever videos they belong to (`Role.ne_of_is`), so no
  write to one of them is seen at another (`roles_never_meet`).
-/
import BoardRelay.Proofs.Delivery.Converted

namespace BoardRelay.Staging

/-! ## §1. Names and paths. -/

/-- What a file of a delivery is there for. -/
inductive Role where
  /-- The video as it was fetched. -/
  | staged
  | converted
  /-- The video while it is being written. -/
  | part
  deriving Repr, DecidableEq

/-- Whether a text names an entry of a directory. -/
structure IsName (name : List Char) : Prop where
  ne_nil : name ≠ []
  no_slash : '/' ∉ name
  ne_dot : name ≠ ['.']
  ne_dots : name ≠ ['.', '.']

/-- A text that ends in a letter or a digit is no dots. -/
theorem IsName.of_getLast? {name : List Char} {c : Char} (hlast : name.getLast? = some c)
    (hdot : c ≠ '.') (hslash : '/' ∉ name) : IsName name := by
  refine ⟨?_, hslash, ?_, ?_⟩
  all_goals
    rintro rfl
    simp [eq_comm] at hlast
  all_goals exact hdot hlast

namespace Role

/-- The name of a file, by the locator of its video and the number of the
write. -/
def name (number : Nat) (locator : String) : Role → String
  | .staged => stagedName locator
  | .converted => stagedName (convertedLocator locator)
  | .part => partName (stagedName locator) number

/-- Where a file of an area stands. -/
def path (area : Area) (number : Nat) (locator : String) : Role → Disk.Path
  | .staged => area.place locator
  | .converted => area.place (convertedLocator locator)
  | .part => { area with begun := number }.part locator

/-- Whether a path is that of a file in a role. -/
def Is (root : Disk.Path) (number : Nat) (path : Disk.Path) : Role → Prop
  | .staged => IsStaged root path
  | .converted => IsConverted root path
  | .part => IsPart root number path

variable {locator other : String}

/-- Files in every role have proper names: none is empty, has a slash in it or
consists of dots. -/
theorem isName_name (h : isVideo locator = true) (number : Nat) (role : Role) :
    IsName (role.name number locator).toList := by
  obtain ⟨front, hslash, hstaged, hconverted⟩ := stagedName_video h
  -- a staged video ends in m, its converted form in 4, and one being written in a digit
  cases role with
  | staged =>
    refine .of_getLast? (c := 'm') ?_ (by decide) ?_
    · simp [name, hstaged]
    · simpa [name, hstaged] using hslash
  | converted =>
    refine .of_getLast? (c := '4') ?_ (by decide) ?_
    · simp [name, hconverted]
    · simpa [name, hconverted] using hslash
  | part =>
    obtain ⟨c, hlast, hdigit⟩ := getLast?_partName (stagedName locator) number
    refine .of_getLast? hlast ?_ ?_
    · rintro rfl
      revert hdigit
      decide
    · show '/' ∉ (partName (stagedName locator) number).toList
      rw [toList_partName, List.mem_append]
      rintro (hname | hnumber)
      · simp [hstaged, hslash] at hname
      · have hdigit := isDigit_toDigits hnumber
        revert hdigit
        decide

/-- In every role a file stands directly in the directory of the area, under
its name. -/
theorem path_eq_entry (h : isVideo locator = true) (area : Area) (number : Nat) (role : Role) :
    role.path area number locator = area.root.entry (role.name number locator) := by
  cases role with
  | staged => exact area.place_eq_entry h
  | converted => exact area.converted_eq_entry h
  | part =>
    show ({ area with begun := number } : Area).part locator = _
    rw [Area.part, Area.place_eq_entry h, Area.beginFile, Disk.Path.fileName?_entry,
      Option.getD_some, Disk.Path.withFileName_entry]
    rfl

/-- The path of a file in a role is one of that role. -/
theorem is_path (h : isVideo locator = true) (area : Area) (number : Nat) (role : Role) :
    role.Is area.root number (role.path area number locator) := by
  cases role with
  | staged => exact area.isStaged_place h
  | converted => exact area.isConverted_place h
  | part => exact Area.isPart_part h { area with begun := number }

/-! ## §2. Files in different roles. -/

/-- One path is not that of files in two roles. -/
theorem ne_of_is {role role' : Role} (hne : role ≠ role') {root path path' : Disk.Path}
    {number number' : Nat} (h : role.Is root number path) (h' : role'.Is root number' path') :
    path ≠ path' := by
  -- one lemma for each pair of roles, in either order
  cases role <;> cases role'
  case staged.staged => exact absurd rfl hne
  case staged.converted => exact (IsConverted.ne_staged h' h).symm
  case staged.part => exact IsStaged.ne_part h h'
  case converted.staged => exact IsConverted.ne_staged h h'
  case converted.converted => exact absurd rfl hne
  case converted.part => exact IsConverted.ne_part h h'
  case part.staged => exact (IsStaged.ne_part h' h).symm
  case part.converted => exact (IsConverted.ne_part h' h).symm
  case part.part => exact absurd rfl hne

end Role

/-- The files of any two videos, or of one, stand directly in the directory of
the area under proper names.  In different roles they have different names and
paths, whatever the numbers of the writes, and what is written to one of them
leaves the other to be read as before. -/
theorem roles_never_meet {locator other : String} (h : isVideo locator = true)
    (hother : isVideo other = true) (area : Area) (number otherNumber : Nat) :
    (∀ role : Role, IsName (role.name number locator).toList ∧
      role.path area number locator = area.root.entry (role.name number locator)) ∧
    ∀ role role' : Role, role ≠ role' →
      role.name number locator ≠ role'.name otherNumber other ∧
      role.path area number locator ≠ role'.path area otherNumber other ∧
      ∀ (disk next : Disk) (written content : Text.Bytes),
        disk.write (role.path area number locator) written = .ok next →
        (next.read (role'.path area otherNumber other) = .ok content ↔
          disk.read (role'.path area otherNumber other) = .ok content) := by
  refine ⟨fun role => ⟨role.isName_name h number, role.path_eq_entry h area number⟩, ?_⟩
  intro role role' hne
  have hpath := role.path_eq_entry h area number
  have hpath' := role'.path_eq_entry hother area otherNumber
  have hapart : role.path area number locator ≠ role'.path area otherNumber other :=
    Role.ne_of_is hne (role.is_path h area number) (role'.is_path hother area otherNumber)
  -- files of one name would have one path
  refine ⟨fun hname => hapart ?_, hapart, fun disk next written content hwrite => ?_⟩
  · rw [hpath, hpath', hname]
  · refine (Disk.changesOnly_write hwrite).read_iff ⟨_, hpath'⟩ ?_ ?_
    · intro path hmem
      rw [List.mem_singleton.mp hmem]
      exact ⟨_, hpath⟩
    · exact fun hmem => hapart (List.mem_singleton.mp hmem).symm

/-- A locator whose only dot is that of its ending, right behind a double
slash, and one whose converted form has a name that ends in 4, as the name of
the fourth file being written does. -/
theorem bare_ending_never_meets :
    isVideo "https://.webm" = true ∧ isVideo "x//a/.mp4.webm" = true ∧
      Role.name 4 "https://.webm" .staged = "webm" ∧
      Role.name 4 "x//a/.mp4.webm" .converted = "amp4.mp4" ∧
      Role.name 4 "https://.webm" .part = "webm.part4" ∧
      ∀ area : Area, Role.path area 4 "https://.webm" .part ≠
        Role.path area 4 "x//a/.mp4.webm" .converted := by
  refine ⟨by decide, by decide, by decide, by decide, by decide, fun area => ?_⟩
  exact ((roles_never_meet (by decide) (by decide) area 4 4).2 .part .converted (by decide)).2.1

end BoardRelay.Staging
