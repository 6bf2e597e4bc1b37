/-
  BoardRelay.Proofs.Disk.Operations
  ────────────────────────────────
  When an operation on files goes through, and what it leaves.  A path is
  found by its directories only (`locate_keeps`), so an operation that takes
  no directory away leaves every place where it was.
-/
import BoardRelay.Disk.Basic

namespace BoardRelay.Disk

/-! ## §1. What stands at a place. -/

/-- Entries of other keys are found as before. -/
theorem lookup_filter_ne {α β : Type} [BEq α] [LawfulBEq α] (entries : List (α × β))
    {key other : α} (h : other ≠ key) :
    (entries.filter fun entry => entry.1 != key).lookup other = entries.lookup other := by
  induction entries with
  | nil => rfl
  | cons entry entries ih =>
    obtain ⟨at_, value⟩ := entry
    by_cases hkey : at_ = key
    · rw [List.filter_cons_of_neg (by simp [hkey]), ih, List.lookup_cons,
        beq_false_of_ne (hkey ▸ h)]
    · rw [List.filter_cons_of_pos (by simp [hkey]), List.lookup_cons, List.lookup_cons, ih]

theorem node?_put (disk : Disk) {place : Place} (node : Node) (h : place ≠ []) :
    (disk.put place node).node? place = some node := by
  rw [node?, if_neg (by simp [h]), put, List.lookup_cons_self]

/-- What stands elsewhere stays. -/
theorem node?_put_of_ne (disk : Disk) {place other : Place} (node : Node) (h : other ≠ place) :
    (disk.put place node).node? other = disk.node? other := by
  unfold node? put
  rw [List.lookup_cons, beq_false_of_ne h, lookup_filter_ne disk.nodes h]

theorem node?_erase_of_ne (disk : Disk) {place other : Place} (h : other ≠ place) :
    (disk.erase place).node? other = disk.node? other := by
  unfold node? erase
  rw [lookup_filter_ne disk.nodes h]

/-- Where something was erased, nothing stands. -/
theorem node?_erase (disk : Disk) {place : Place} (h : place ≠ []) :
    (disk.erase place).node? place = none := by
  rw [node?, if_neg (by simp [h]), erase, List.lookup_eq_none_iff]
  intro entry hentry
  rw [bne_iff_ne]
  exact (bne_iff_ne.mp (List.mem_filter.mp hentry).2).symm

/-- A place that is no directory is not the root. -/
theorem ne_root {disk : Disk} {place : Place} (h : disk.node? place ≠ some .directory) :
    place ≠ [] := by
  rintro rfl
  exact h rfl

/-- Where a file stands, no directory does. -/
theorem ne_directory {disk : Disk} {place : Place} {content : Text.Bytes}
    (h : disk.node? place = some (.file content)) : disk.node? place ≠ some .directory := by
  rw [h]
  nofun

/-- Directories stay where a file is erased. -/
theorem directory_erase_iff {disk : Disk} {place : Place} (h : disk.node? place ≠ some .directory)
    (other : Place) :
    (disk.erase place).node? other = some .directory ↔ disk.node? other = some .directory := by
  by_cases hsame : other = place
  · rw [hsame, node?_erase disk (ne_root h)]
    exact ⟨nofun, fun hdirectory => absurd hdirectory h⟩
  · rw [node?_erase_of_ne disk hsame]

theorem directory_put_iff {disk : Disk} {place : Place} (h : disk.node? place ≠ some .directory)
    (content : Text.Bytes) (other : Place) :
    (disk.put place (.file content)).node? other = some .directory ↔
      disk.node? other = some .directory := by
  by_cases hsame : other = place
  · rw [hsame, node?_put disk _ (ne_root h)]
    exact ⟨nofun, fun hdirectory => absurd hdirectory h⟩
  · rw [node?_put_of_ne disk _ hsame]

/-! ## §2. Where a path leads. -/

/-- Whether another disk has all directories of a disk, and is seen from the
same one. -/
structure KeepsDirectories (disk other : Disk) : Prop where
  current : other.current = disk.current
  directory {place : Place} : disk.node? place = some .directory →
    other.node? place = some .directory

theorem KeepsDirectories.trans {disk other third : Disk} (h : disk.KeepsDirectories other)
    (h' : other.KeepsDirectories third) : disk.KeepsDirectories third :=
  ⟨h'.current.trans h.current, fun hnode => h'.directory (h.directory hnode)⟩

/-- Whatever is put where no directory is, all directories are kept. -/
theorem keeps_put {disk : Disk} {place : Place} (node : Node)
    (h : disk.node? place ≠ some .directory) : disk.KeepsDirectories (disk.put place node) := by
  refine ⟨rfl, fun {other} hother => ?_⟩
  have hne : other ≠ place := by
    rintro rfl
    exact h hother
  rw [node?_put_of_ne disk node hne, hother]

theorem keeps_erase {disk : Disk} {place : Place} (h : disk.node? place ≠ some .directory) :
    disk.KeepsDirectories (disk.erase place) := by
  refine ⟨rfl, fun {other} hother => ?_⟩
  have hne : other ≠ place := by
    rintro rfl
    exact h hother
  rw [node?_erase_of_ne disk hne, hother]

/-- Where a step leads from a directory. -/
def stepFrom (place : Place) : Step → Except Fault Place
  | .up => .ok place.dropLast
  | .into name => if maxNameLength < name.utf8ByteSize then .error .nameTooLong
    else .ok (place ++ [name])

theorem stepFrom_into_eq_ok_iff {place next : Place} {name : String} :
    stepFrom place (.into name) = .ok next ↔
      ¬ maxNameLength < name.utf8ByteSize ∧ next = place ++ [name] := by
  rw [stepFrom]
  by_cases hlong : maxNameLength < name.utf8ByteSize
  · simp [hlong]
  · simp [hlong, eq_comm]

/-- The first step of a walk needs a directory to start from. -/
theorem walk_cons (disk : Disk) (place : Place) (step : Step) (steps : List Step) :
    disk.walk place (step :: steps) =
      match disk.node? place with
      | none => .error .notFound
      | some (.file _) => .error .notDirectory
      | some .directory => (stepFrom place step).bind fun next => disk.walk next steps := by
  rw [walk.eq_def]
  dsimp only
  cases disk.node? place with
  | none => rfl
  | some node =>
    cases node with
    | file content => rfl
    | directory =>
      cases step with
      | up => rfl
      | into name =>
        show (if _ then _ else _) = Except.bind (if _ then _ else _) _
        -- both sides refuse a name that is too long
        by_cases hlong : maxNameLength < name.utf8ByteSize
        · rw [if_pos hlong, if_pos hlong]
          rfl
        · rw [if_neg hlong, if_neg hlong]
          rfl

/-- A walk goes on from a directory, as far as its first step leads somewhere. -/
theorem walk_cons_eq_ok_iff {disk : Disk} {place target : Place} {step : Step}
    {steps : List Step} : disk.walk place (step :: steps) = .ok target ↔
      disk.node? place = some .directory ∧
        ∃ next, stepFrom place step = .ok next ∧ disk.walk next steps = .ok target := by
  -- a step can be taken from a directory only
  rw [walk_cons]
  cases disk.node? place with
  | none => simp
  | some node =>
    cases node with
    | file content => simp
    | directory =>
      cases stepFrom place step with
      | error fault => simp [Except.bind]
      | ok next => simp [Except.bind]

theorem walk_single {disk : Disk} {place : Place} {step : Step}
    (h : disk.node? place = some .directory) : disk.walk place [step] = stepFrom place step := by
  rw [walk_cons, h]
  cases stepFrom place step with
  | error fault => rfl
  | ok next => rfl

/-- **A walk only needs directories**, so it leads to the same place on every
disk that keeps them. -/
theorem walk_keeps {disk other : Disk} (hkeeps : disk.KeepsDirectories other) {steps : List Step}
    {place target : Place} (h : disk.walk place steps = .ok target) :
    other.walk place steps = .ok target := by
  induction steps generalizing place with
  | nil => exact h
  | cons step steps ih =>
    obtain ⟨hnode, next, hstep, hrest⟩ := walk_cons_eq_ok_iff.mp h
    exact walk_cons_eq_ok_iff.mpr ⟨hkeeps.directory hnode, next, hstep, ih hrest⟩

/-- Steps after others are walked from where those lead. -/
theorem walk_append (disk : Disk) (steps others : List Step) (place : Place) :
    disk.walk place (steps ++ others) =
      (disk.walk place steps).bind fun middle => disk.walk middle others := by
  -- Induction on the steps in front; a fault in one of them ends both walks.
  induction steps generalizing place with
  | nil => rfl
  | cons step steps ih =>
    rw [List.cons_append, walk_cons, walk_cons]
    cases disk.node? place with
    | none => rfl
    | some node =>
      cases node with
      | file content => rfl
      | directory =>
        cases hstep : stepFrom place step with
        | error fault => rfl
        | ok next => exact ih next

/-- The last step of a walk is taken from a directory. -/
theorem walk_concat_eq_ok {disk : Disk} {place target : Place} {steps : List Step} {last : Step}
    (h : disk.walk place (steps ++ [last]) = .ok target) :
    ∃ middle, disk.walk place steps = .ok middle ∧ disk.node? middle = some .directory := by
  rw [walk_append] at h
  cases hmiddle : disk.walk place steps with
  | error fault =>
    rw [hmiddle] at h
    cases h
  | ok middle =>
    rw [hmiddle] at h
    have hlast : disk.walk middle [last] = .ok target := h
    exact ⟨middle, rfl, (walk_cons_eq_ok_iff.mp hlast).1⟩

/-- No step leads more than one name deeper. -/
theorem length_walk_le {disk : Disk} {steps : List Step} {place target : Place}
    (h : disk.walk place steps = .ok target) : target.length ≤ place.length + steps.length := by
  induction steps generalizing place with
  | nil =>
    cases h
    exact Nat.le_refl _
  | cons step steps ih =>
    obtain ⟨-, next, hstep, hrest⟩ := walk_cons_eq_ok_iff.mp h
    -- a step up leads less deep, one into a name one deeper
    have hnext : next.length ≤ place.length + 1 := by
      cases step with
      | up =>
        cases hstep
        rw [List.length_dropLast]
        omega
      | into name =>
        obtain ⟨-, rfl⟩ := stepFrom_into_eq_ok_iff.mp hstep
        exact Nat.le_of_eq List.length_append
    have hlength := ih hrest
    rw [List.length_cons]
    omega

/-- Where the steps of a path begin. -/
def origin (disk : Disk) (path : Path) : Place :=
  if path.absolute then [] else disk.current

/-- A path that is not empty and has no null in it leads where its steps do. -/
theorem locate_eq_ok_iff {disk : Disk} {path : Path} {place : Place} :
    disk.locate path = .ok place ↔ path.text.toList.contains '\x00' = false ∧
      path.isEmpty = false ∧ disk.walk (disk.origin path) path.steps = .ok place := by
  unfold locate origin
  cases path.text.toList.contains '\x00' with
  | true => simp
  | false =>
    cases path.isEmpty with
    | true => simp
    | false => simp

/-- **So a path leads to the same place on every disk that keeps the
directories.** -/
theorem locate_keeps {disk other : Disk} (hkeeps : disk.KeepsDirectories other) {path : Path}
    {place : Place} (h : disk.locate path = .ok place) : other.locate path = .ok place := by
  rw [locate_eq_ok_iff] at h ⊢
  refine ⟨h.1, h.2.1, walk_keeps hkeeps ?_⟩
  rw [origin, hkeeps.current]
  exact h.2.2

/-- Where a path to a neighbour leads to a place, so does a path, unless its
name is one that no directory takes. -/
theorem locate_neighbour {disk : Disk} {path : Path} {steps : List Step}
    {name neighbour : String} {place : Place} (hsteps : path.steps = steps ++ [.into name])
    (h : disk.locate ⟨path.absolute, steps ++ [.into neighbour], .plain⟩ = .ok place) :
    disk.locate path = .error .nulInName ∨ disk.locate path = .error .nameTooLong ∨
      ∃ place, disk.locate path = .ok place := by
  obtain ⟨-, -, hwalk⟩ := locate_eq_ok_iff.mp h
  -- Both paths lead into the same directory; only their last steps differ.
  obtain ⟨middle, hmiddle, hnode⟩ := walk_concat_eq_ok hwalk
  have hsome : path.isEmpty = false := by
    simp [Path.isEmpty, hsteps]
  have horigin : disk.walk (if path.absolute then [] else disk.current) steps = .ok middle :=
    hmiddle
  unfold locate
  cases path.text.toList.contains '\x00' with
  | true => exact .inl rfl
  | false =>
    refine .inr ?_
    rw [hsome, hsteps, walk_append, horigin]
    show disk.walk middle [.into name] = _ ∨ ∃ place, disk.walk middle [.into name] = _
    rw [walk_single hnode, stepFrom]
    by_cases hlong : maxNameLength < name.utf8ByteSize
    · exact .inl (if_pos hlong)
    · exact .inr ⟨middle ++ [name], if_neg hlong⟩

/-! ## §3. When an operation goes through. -/

/-- A file is read where the path leads to it and ends like that of a file. -/
theorem read_eq_ok_iff {disk : Disk} {path : Path} {content : Text.Bytes} :
    disk.read path = .ok content ↔ ∃ place, disk.locate path = .ok place ∧
      disk.node? place = some (.file content) ∧ path.ending = .plain := by
  -- The path may lead nowhere, to nothing, to a directory, or to a file that its ending must
  -- allow.
  unfold read
  cases hlocate : disk.locate path with
  | error fault => simp [bind, Except.bind]
  | ok place =>
    cases hnode : disk.node? place with
    | none => simp [bind, Except.bind, hnode]
    | some node =>
      cases node with
      | directory => simp [bind, Except.bind, hnode]
      | file bytes => by_cases hending : path.ending = .plain <;>
          simp [bind, Except.bind, hnode, hending]

/-- Nothing is found where a path leads to an empty place, or gets lost on the
way. -/
theorem read_eq_notFound_iff {disk : Disk} {path : Path} :
    disk.read path = .error .notFound ↔ disk.locate path = .error .notFound ∨
      ∃ place, disk.locate path = .ok place ∧ disk.node? place = none := by
  -- Of the ways a read can fail, only two are told as a missing file.
  unfold read
  cases hlocate : disk.locate path with
  | error fault => simp [bind, Except.bind]
  | ok place =>
    cases hnode : disk.node? place with
    | none => simp [bind, Except.bind, hnode]
    | some node =>
      cases node with
      | directory => simp [bind, Except.bind, hnode]
      | file bytes => by_cases hending : path.ending = .plain <;>
          simp [bind, Except.bind, hnode, hending]

theorem isDirectory_iff {disk : Disk} {path : Path} :
    disk.isDirectory path = true ↔
      ∃ place, disk.locate path = .ok place ∧ disk.node? place = some .directory := by
  unfold isDirectory lookup?
  cases hlocate : disk.locate path with
  | error fault => simp
  | ok place => simp

/-- A file is written at the place of its path, unless a directory is there or
the path names no file. -/
theorem write_eq_ok_iff {disk next : Disk} {path : Path} {content : Text.Bytes} :
    disk.write path content = .ok next ↔ ∃ place, disk.locate path = .ok place ∧
      disk.node? place ≠ some .directory ∧ namesFile path = true ∧
      next = disk.put place (.file content) := by
  -- What is there may be nothing or a file; either way the path must be able to name one.
  unfold write
  cases hlocate : disk.locate path with
  | error fault => simp [bind, Except.bind]
  | ok place =>
    cases hnode : disk.node? place with
    | none =>
      cases hnames : namesFile path with
      | true => simp [bind, Except.bind, hnode, eq_comm]
      | false => by_cases hending : path.ending = .slash <;>
          simp [bind, Except.bind, hnode, hending]
    | some node =>
      cases node with
      | directory => simp [bind, Except.bind, hnode]
      | file bytes =>
        cases hnames : namesFile path with
        | true => simp [bind, Except.bind, hnode, eq_comm]
        | false => simp [bind, Except.bind, hnode]

/-- Only a file is removed, and it is gone from its place. -/
theorem remove_eq_ok_iff {disk next : Disk} {path : Path} :
    disk.remove path = .ok next ↔ ∃ place content, disk.locate path = .ok place ∧
      disk.node? place = some (.file content) ∧ namesFile path = true ∧
      next = disk.erase place := by
  unfold remove
  cases hlocate : disk.locate path with
  | error fault => simp [bind, Except.bind]
  | ok place =>
    cases hnode : disk.node? place with
    | none => simp [bind, Except.bind, hnode]
    | some node =>
      cases node with
      | directory => simp [bind, Except.bind, hnode]
      | file content =>
        cases hnames : namesFile path with
        | true => simp [bind, Except.bind, hnode, eq_comm]
        | false => simp [bind, Except.bind, hnode]

/-- Only a file is moved, and not onto a directory. -/
theorem rename_eq_ok_iff {disk next : Disk} {source target : Path} :
    disk.rename source target = .ok next ↔ ∃ origin place content,
      disk.locate source = .ok origin ∧ disk.locate target = .ok place ∧
      disk.node? origin = some (.file content) ∧ namesFile target = true ∧
      disk.node? place ≠ some .directory ∧
      next = (disk.erase origin).put place (.file content) := by
  unfold rename namesFile
  cases hsource : disk.locate source with
  | error fault => simp [bind, Except.bind]
  | ok origin =>
    cases htarget : disk.locate target with
    | error fault => simp [bind, Except.bind]
    | ok place =>
      cases hnode : disk.node? origin with
      | none => simp [bind, Except.bind, hnode]
      | some node =>
        cases node with
        | directory => simp [bind, Except.bind, hnode]
        | file content =>
          cases hname : target.fileName? with
          | none => simp [bind, Except.bind, hnode]
          | some name =>
            -- the ending is looked at before what stands at the target
            cases hending : target.ending with
            | slash => simp [bind, Except.bind, hnode]
            | dot =>
              cases hplace : disk.node? place with
              | none => simp [bind, Except.bind, hnode, hplace]
              | some there => cases there <;> simp [bind, Except.bind, hnode, hplace]
            | plain =>
              cases hplace : disk.node? place with
              | none => simp [bind, Except.bind, hnode, hplace, eq_comm (a := next)]
              | some there =>
                cases there with
                | directory => simp [bind, Except.bind, hnode, hplace]
                | file bytes => simp [bind, Except.bind, hnode, hplace, eq_comm (a := next)]

/-- A directory is made where nothing is. -/
theorem makeDirectory_eq_ok_iff {disk next : Disk} {path : Path} :
    disk.makeDirectory path = .ok next ↔ ∃ place, disk.locate path = .ok place ∧
      disk.node? place = none ∧ next = disk.put place .directory := by
  unfold makeDirectory
  cases hlocate : disk.locate path with
  | error fault => simp [bind, Except.bind]
  | ok place =>
    cases hnode : disk.node? place with
    | none => simp [bind, Except.bind, hnode, eq_comm]
    | some node => simp [bind, Except.bind, hnode]

theorem ending_of_namesFile {path : Path} (h : namesFile path = true) : path.ending = .plain := by
  rw [namesFile, Bool.and_eq_true, decide_eq_true_eq] at h
  exact h.2

/-- A file is read as it was written. -/
theorem read_write {disk next : Disk} {path : Path} {content : Text.Bytes}
    (h : disk.write path content = .ok next) : next.read path = .ok content := by
  obtain ⟨place, hlocate, hnode, hnames, rfl⟩ := write_eq_ok_iff.mp h
  rw [read_eq_ok_iff]
  exact ⟨place, locate_keeps (keeps_put _ hnode) hlocate, node?_put _ _ (ne_root hnode),
    ending_of_namesFile hnames⟩

/-- Writing a file makes no directory and takes none away. -/
theorem directory_write_iff {disk next : Disk} {path : Path} {content : Text.Bytes}
    (h : disk.write path content = .ok next) (place : Place) :
    next.node? place = some .directory ↔ disk.node? place = some .directory := by
  obtain ⟨written, -, hnode, -, rfl⟩ := write_eq_ok_iff.mp h
  exact directory_put_iff hnode content place

/-- Writing a file keeps all directories. -/
theorem keeps_write {disk next : Disk} {path : Path} {content : Text.Bytes}
    (h : disk.write path content = .ok next) : disk.KeepsDirectories next := by
  obtain ⟨place, -, hnode, -, rfl⟩ := write_eq_ok_iff.mp h
  exact keeps_put _ hnode

/-- A file that was written can be written again. -/
theorem write_again {disk next : Disk} {path : Path} {content : Text.Bytes}
    (h : disk.write path content = .ok next) (other : Text.Bytes) :
    ∃ after, next.write path other = .ok after := by
  obtain ⟨place, hlocate, hnode, hnames, -⟩ := write_eq_ok_iff.mp h
  exact ⟨_, write_eq_ok_iff.mpr ⟨place, locate_keeps (keeps_write h) hlocate,
    fun hdir => hnode ((directory_write_iff h place).mp hdir), hnames, rfl⟩⟩

/-- A file that is moved is read at the other path as it was read before. -/
theorem read_rename {disk next : Disk} {source target : Path} {content : Text.Bytes}
    (h : disk.rename source target = .ok next) (hread : disk.read source = .ok content) :
    next.read target = .ok content := by
  obtain ⟨origin, place, bytes, hsource, htarget, hnode, hnames, hfree, rfl⟩ :=
    rename_eq_ok_iff.mp h
  obtain ⟨origin', hsource', hnode', -⟩ := read_eq_ok_iff.mp hread
  rw [hsource] at hsource'
  cases hsource'
  rw [hnode] at hnode'
  cases hnode'
  have hfile := ne_directory hnode
  -- Neither taking the file away nor putting it down takes a directory away.
  have hgone : (disk.erase origin).node? place ≠ some .directory :=
    fun hdirectory => hfree ((directory_erase_iff hfile place).mp hdirectory)
  rw [read_eq_ok_iff]
  exact ⟨place, locate_keeps ((keeps_erase hfile).trans (keeps_put _ hgone)) htarget,
    node?_put _ _ (ne_root hfree), ending_of_namesFile hnames⟩

end BoardRelay.Disk
