/-
  BoardRelay.Proofs.Disk.Entries
  ────────────────────────────────
  Files of one directory.  Their names lead to places of their own
  (`place_ne_of_name_ne`), and an operation on files changes what stands at
  its paths and nothing else (`ChangesOnly`), so it leaves every other file
  of the directory to be read as before.
-/
import BoardRelay.Proofs.Disk.Operations
import BoardRelay.Proofs.Text.Search

namespace BoardRelay.Disk

/-! ## §1. Names in a directory. -/

/-- The path of a name in a directory. -/
def Path.entry (path : Path) (name : String) : Path :=
  ⟨path.absolute, path.steps ++ [.into name], .plain⟩

theorem Path.fileName?_entry (path : Path) (name : String) :
    (path.entry name).fileName? = some name := by
  simp [Path.fileName?, Path.entry]

theorem Path.withFileName_entry (path : Path) (name other : String) :
    (path.entry name).withFileName other = path.entry other := by
  rw [withFileName, fileName?_entry]
  simp [entry]

theorem namesFile_entry (path : Path) (name : String) : namesFile (path.entry name) = true := by
  rw [namesFile, Path.fileName?_entry]
  rfl

/-- A text without slashes is a name, unless it is a dot, two or none. -/
theorem Path.join_ofText {name : List Char} (hslash : '/' ∉ name) (hempty : name ≠ [])
    (hdot : name ≠ ['.']) (hup : name ≠ ['.', '.']) (path : Path) :
    path.join (Path.ofText (String.ofList name)) = path.entry (String.ofList name) := by
  have hrelative : (String.ofList name).startsWith "/" = false := by
    rw [String.startsWith_string_eq_false_iff, String.toList_ofList (l := name)]
    intro hstart
    exact hslash (hstart.subset List.mem_cons_self)
  have hname : Path.ofText (String.ofList name) =
      ⟨false, [.into (String.ofList name)], .plain⟩ := by
    simp [Path.ofText, Text.pieces_eq_singleton hslash, stepsOf, hrelative, hempty, hdot, hup]
  rw [hname]
  rfl

/-- A name leads from wherever its directory is, into it. -/
theorem locate_entry {disk : Disk} {path : Path} {name : String} {place : Place}
    (h : disk.locate (path.entry name) = .ok place) :
    ∃ directory, disk.walk (disk.origin path) path.steps = .ok directory ∧
      place = directory ++ [name] := by
  obtain ⟨-, -, hwalk⟩ := locate_eq_ok_iff.mp h
  obtain ⟨directory, hdirectory, hnode⟩ := walk_concat_eq_ok hwalk
  refine ⟨directory, hdirectory, ?_⟩
  have hlast : disk.walk (disk.origin (path.entry name)) (path.steps ++ [.into name]) =
      .ok place := hwalk
  rw [walk_append, hdirectory] at hlast
  obtain ⟨-, hplace⟩ := stepFrom_into_eq_ok_iff.mp ((walk_single hnode).symm.trans hlast)
  exact hplace

/-- Two names of one directory lead to two places. -/
theorem place_ne_of_name_ne {disk : Disk} {path : Path} {name other : String}
    {place otherPlace : Place} (hplace : disk.locate (path.entry name) = .ok place)
    (hother : disk.locate (path.entry other) = .ok otherPlace) (hne : name ≠ other) :
    place ≠ otherPlace := by
  obtain ⟨directory, hdirectory, rfl⟩ := locate_entry hplace
  -- both names lead from the same directory
  obtain ⟨directory', hdirectory', rfl⟩ := locate_entry hother
  rw [hdirectory] at hdirectory'
  cases hdirectory'
  simpa using hne

/-- Whether a path is that of a name in a directory. -/
def IsEntry (directory path : Path) : Prop :=
  ∃ name, path = directory.entry name

theorem IsEntry.namesFile {directory path : Path} (h : IsEntry directory path) :
    namesFile path = true := by
  obtain ⟨name, rfl⟩ := h
  exact namesFile_entry directory name

/-- Two paths of one directory lead to two places. -/
theorem IsEntry.place_ne {directory path other : Path} (h : IsEntry directory path)
    (hother : IsEntry directory other) (hne : path ≠ other) {disk : Disk}
    {place otherPlace : Place} (hplace : disk.locate path = .ok place)
    (hotherPlace : disk.locate other = .ok otherPlace) : place ≠ otherPlace := by
  obtain ⟨name, rfl⟩ := h
  obtain ⟨otherName, rfl⟩ := hother
  refine place_ne_of_name_ne hplace hotherPlace ?_
  rintro rfl
  exact hne rfl

/-! ## §2. What an operation changes. -/

/-- Whether a disk has become another by a change to what stands at some
paths, none of it a directory before or after. -/
structure ChangesOnly (paths : List Path) (disk next : Disk) : Prop where
  current : next.current = disk.current
  directory (place : Place) :
    next.node? place = some .directory ↔ disk.node? place = some .directory
  node {place : Place} (h : ∀ path ∈ paths, disk.locate path ≠ .ok place) :
    next.node? place = disk.node? place

variable {disk next : Disk} {paths : List Path} {path : Path}

theorem changesOnly_refl (paths : List Path) (disk : Disk) : ChangesOnly paths disk disk :=
  ⟨rfl, fun _ => Iff.rfl, fun _ => rfl⟩

theorem ChangesOnly.mono (h : ChangesOnly paths disk next) {more : List Path}
    (hmore : paths ⊆ more) : ChangesOnly more disk next :=
  ⟨h.current, h.directory, fun hnot => h.node fun path hpath => hnot path (hmore hpath)⟩

/-- A change to files takes no directory away. -/
theorem ChangesOnly.keeps (h : ChangesOnly paths disk next) : disk.KeepsDirectories next :=
  ⟨h.current, fun {place} => (h.directory place).mpr⟩

theorem ChangesOnly.kept (h : ChangesOnly paths disk next) : next.KeepsDirectories disk :=
  ⟨h.current.symm, fun {place} => (h.directory place).mp⟩

/-- Every path leads where it did. -/
theorem ChangesOnly.locate_iff (h : ChangesOnly paths disk next) {place : Place} :
    next.locate path = .ok place ↔ disk.locate path = .ok place :=
  ⟨locate_keeps h.kept, locate_keeps h.keeps⟩

/-- What is changed in two steps is changed at the paths of either. -/
theorem ChangesOnly.trans (h : ChangesOnly paths disk next) {more : List Path} {last : Disk}
    (h' : ChangesOnly more next last) : ChangesOnly (paths ++ more) disk last := by
  refine ⟨h'.current.trans h.current, fun place => (h'.directory place).trans (h.directory place),
    fun {place} hnot => ?_⟩
  rw [h'.node fun path hpath => mt h.locate_iff.mp (hnot path (List.mem_append_right _ hpath)),
    h.node fun path hpath => hnot path (List.mem_append_left _ hpath)]

/-- What stands at a place is at one of the paths, or stood there before. -/
theorem ChangesOnly.node_cases (h : ChangesOnly paths disk next) (place : Place) :
    (∃ path ∈ paths, disk.locate path = .ok place) ∨ next.node? place = disk.node? place := by
  by_cases hpaths : ∃ path ∈ paths, disk.locate path = .ok place
  · exact .inl hpaths
  · exact .inr (h.node fun path hpath hplace => hpaths ⟨path, hpath, hplace⟩)

/-- A file of a directory is read as before after a change to others. -/
theorem ChangesOnly.read_iff (h : ChangesOnly paths disk next) {directory : Path}
    (hpath : IsEntry directory path) (hpaths : ∀ other ∈ paths, IsEntry directory other)
    (hnot : path ∉ paths) {content : Text.Bytes} :
    next.read path = .ok content ↔ disk.read path = .ok content := by
  simp only [read_eq_ok_iff, h.locate_iff]
  -- where the path leads has not changed, and no changed path leads there too
  refine exists_congr fun place => and_congr_right fun hplace => ?_
  rw [h.node]
  intro other hother hsame
  refine hpath.place_ne (hpaths other hother) ?_ hplace hsame rfl
  rintro rfl
  exact hnot hother

/-- A write changes what stands at its path, and nothing else. -/
theorem changesOnly_write {content : Text.Bytes} (h : disk.write path content = .ok next) :
    ChangesOnly [path] disk next := by
  refine ⟨?_, directory_write_iff h, ?_⟩
  all_goals obtain ⟨place, hplace, -, -, rfl⟩ := write_eq_ok_iff.mp h
  · rfl
  · intro other hother
    refine node?_put_of_ne disk _ ?_
    rintro rfl
    exact hother path List.mem_cons_self hplace

/-- A file that is there after one was written is that one, or was there
before. -/
theorem file_of_write {written : Text.Bytes} (h : disk.write path written = .ok next)
    {place : Place} {content : Text.Bytes} (hfile : next.node? place = some (.file content)) :
    disk.locate path = .ok place ∨ disk.node? place = some (.file content) := by
  rcases (changesOnly_write h).node_cases place with ⟨other, hother, hplace⟩ | hsame
  · rw [List.mem_singleton.mp hother] at hplace
    exact .inl hplace
  · exact .inr (hsame.symm.trans hfile)

/-- The removal of a file changes what stood at its path, and nothing else. -/
theorem changesOnly_remove (h : disk.remove path = .ok next) : ChangesOnly [path] disk next := by
  obtain ⟨place, content, hplace, hnode, -, rfl⟩ := remove_eq_ok_iff.mp h
  refine ⟨rfl, directory_erase_iff (ne_directory hnode), fun {other} hother => ?_⟩
  refine node?_erase_of_ne disk ?_
  rintro rfl
  exact hother path List.mem_cons_self hplace

/-- Nothing stands where a file was removed. -/
theorem node?_remove (h : disk.remove path = .ok next) {place : Place}
    (hplace : disk.locate path = .ok place) : next.node? place = none := by
  obtain ⟨_, content, hlocate, hnode, -, rfl⟩ := remove_eq_ok_iff.mp h
  cases hplace.symm.trans hlocate
  exact node?_erase disk (ne_root (ne_directory hnode))

/-- Whether a file can be made at a path. -/
def Takes (disk : Disk) (path : Path) : Prop :=
  ∃ next, disk.write path [] = .ok next

/-- A file can be made where a path names one, leads to a place, and no
directory is there. -/
theorem takes_iff : disk.Takes path ↔ ∃ place, disk.locate path = .ok place ∧
    disk.node? place ≠ some .directory ∧ namesFile path = true := by
  constructor
  · rintro ⟨next, hwrite⟩
    obtain ⟨place, hplace, hfree, hnames, -⟩ := write_eq_ok_iff.mp hwrite
    exact ⟨place, hplace, hfree, hnames⟩
  · rintro ⟨place, hplace, hfree, hnames⟩
    exact ⟨_, write_eq_ok_iff.mpr ⟨place, hplace, hfree, hnames, rfl⟩⟩

/-- What can be made at all can be made with any content. -/
theorem Takes.write (h : disk.Takes path) (content : Text.Bytes) :
    ∃ next, disk.write path content = .ok next := by
  obtain ⟨place, hplace, hfree, hnames⟩ := takes_iff.mp h
  exact ⟨_, write_eq_ok_iff.mpr ⟨place, hplace, hfree, hnames, rfl⟩⟩

/-- Where a file can be made depends on directories only. -/
theorem ChangesOnly.takes_iff (h : ChangesOnly paths disk next) :
    next.Takes path ↔ disk.Takes path := by
  simp only [Disk.takes_iff, h.locate_iff, ne_eq, h.directory]

variable {source target : Path}

/-- A file that is there can be moved to where one can be made. -/
theorem Takes.rename (h : disk.Takes target) {content : Text.Bytes}
    (hread : disk.read source = .ok content) : ∃ next, disk.rename source target = .ok next := by
  obtain ⟨place, hplace, hfree, hnames⟩ := takes_iff.mp h
  obtain ⟨origin, horigin, hnode, -⟩ := read_eq_ok_iff.mp hread
  exact ⟨_, rename_eq_ok_iff.mpr ⟨origin, place, content, horigin, hplace, hnode, hnames, hfree,
    rfl⟩⟩

/-- A file that is moved changes what stands at the two paths. -/
theorem changesOnly_rename (h : disk.rename source target = .ok next) :
    ChangesOnly [source, target] disk next := by
  obtain ⟨origin, place, content, hsource, htarget, hnode, -, hfree, rfl⟩ :=
    rename_eq_ok_iff.mp h
  have hfile := ne_directory hnode
  -- taking the file away makes room, but no directory
  have hgone : (disk.erase origin).node? place ≠ some .directory :=
    fun hdirectory => hfree ((directory_erase_iff hfile place).mp hdirectory)
  refine ⟨rfl, fun other => ?_, fun {other} hother => ?_⟩
  · rw [directory_put_iff hgone, directory_erase_iff hfile]
  · rw [node?_put_of_ne, node?_erase_of_ne]
    · rintro rfl
      exact hother source List.mem_cons_self hsource
    · rintro rfl
      exact hother target (List.mem_cons_of_mem _ List.mem_cons_self) htarget

/-- What is moved to another place of the directory is gone from its own. -/
theorem node?_rename_source (h : disk.rename source target = .ok next) {directory : Path}
    (hsource : IsEntry directory source) (htarget : IsEntry directory target)
    (hne : source ≠ target) {place : Place} (hplace : disk.locate source = .ok place) :
    next.node? place = none := by
  obtain ⟨origin, other, content, horigin, hother, hnode, -, -, rfl⟩ := rename_eq_ok_iff.mp h
  cases hplace.symm.trans horigin
  rw [node?_put_of_ne _ _ (hsource.place_ne htarget hne horigin hother)]
  exact node?_erase disk (ne_root (ne_directory hnode))

/-- A file that is there after another was moved is that one, or was there
before. -/
theorem file_of_rename (h : disk.rename source target = .ok next) {directory : Path}
    (hsource : IsEntry directory source) (htarget : IsEntry directory target)
    (hne : source ≠ target) {place : Place} {content : Text.Bytes}
    (hfile : next.node? place = some (.file content)) :
    disk.locate source ≠ .ok place ∧
      (disk.locate target = .ok place ∨ disk.node? place = some (.file content)) := by
  have hgone : disk.locate source ≠ .ok place := by
    intro hplace
    rw [node?_rename_source h hsource htarget hne hplace] at hfile
    cases hfile
  refine ⟨hgone, ?_⟩
  -- only the two paths of the rename have changed, and the source has no file any more
  rcases (changesOnly_rename h).node_cases place with ⟨path, hpath, hplace⟩ | hsame
  · rcases List.mem_cons.mp hpath with rfl | hpath
    · exact absurd hplace hgone
    · rw [List.mem_singleton.mp hpath] at hplace
      exact .inl hplace
  · exact .inr (hsame.symm.trans hfile)

end BoardRelay.Disk
