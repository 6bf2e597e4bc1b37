/-
  BoardRelay.Proofs.Disk.Parents
  ────────────────────────────────
  Making the directories of a path.  It leaves a directory there
  (`makeDirectories_leaves`) and has nothing to do where one is
  (`makeDirectories_eq_self`); and where a path leads to something, the path
  above leads to a directory.
-/
import BoardRelay.Proofs.Disk.Operations

namespace BoardRelay.Disk

/-! ## §1. Making directories. -/

/-- A directory that was made is there. -/
theorem isDirectory_makeDirectory {disk made : Disk} {path : Path}
    (h : disk.makeDirectory path = .ok made) : made.isDirectory path = true := by
  obtain ⟨place, hlocate, hnode, rfl⟩ := makeDirectory_eq_ok_iff.mp h
  have hfree : disk.node? place ≠ some .directory := by
    rw [hnode]
    nofun
  rw [isDirectory_iff]
  exact ⟨place, locate_keeps (keeps_put _ hfree) hlocate, node?_put _ _ (ne_root hfree)⟩

/-- None is made where one is. -/
theorem makeDirectory_of_isDirectory {disk : Disk} {path : Path}
    (h : disk.isDirectory path = true) : disk.makeDirectory path = .error .alreadyExists := by
  obtain ⟨place, hlocate, hnode⟩ := isDirectory_iff.mp h
  simp only [makeDirectory, hlocate, bind, Except.bind, hnode]

/-- How directories come to be made: there is nothing to make, or only the
last is missing, or those above are made first. -/
theorem makeDirectoriesFrom_cases {path : Path} {depth : Nat} {disk made : Disk}
    (h : disk.makeDirectoriesFrom path depth = .ok made) :
    (made = disk ∧ (path.isEmpty = true ∨ disk.isDirectory path = true)) ∨
      disk.makeDirectory path = .ok made ∨
      ∃ above less middle, depth = less + 1 ∧ path.parent? = some above ∧
        disk.makeDirectoriesFrom above less = .ok middle ∧
        (middle.makeDirectory path = .ok made ∨
          made = middle ∧ middle.isDirectory path = true) := by
  -- A fault does not matter where the directory is there all the same.
  have hthere : ∀ {disk : Disk} {fault : Fault},
      (if disk.isDirectory path then .ok disk else .error fault) = Except.ok made →
        made = disk ∧ disk.isDirectory path = true := by
    intro disk fault h
    by_cases hdir : disk.isDirectory path = true
    · rw [if_pos hdir] at h
      cases h
      exact ⟨rfl, hdir⟩
    · rw [if_neg hdir] at h
      cases h
  unfold makeDirectoriesFrom at h
  by_cases hpath : path.isEmpty = true
  · rw [if_pos hpath] at h
    cases h
    exact .inl ⟨rfl, .inl hpath⟩
  · rw [if_neg hpath] at h
    split at h
    · rename_i hmade
      cases h
      exact .inr (.inl hmade)
    · split at h
      · rename_i less above habove
        cases hmiddle : disk.makeDirectoriesFrom above less with
        | error fault =>
          rw [hmiddle] at h
          cases h
        | ok middle =>
          rw [hmiddle] at h
          refine .inr (.inr ⟨above, less, middle, rfl, habove, hmiddle, ?_⟩)
          dsimp only [bind, Except.bind] at h
          split at h
          · rename_i hmade
            cases h
            exact .inl hmade
          · exact .inr (hthere h)
      · cases h
    · obtain ⟨rfl, hdir⟩ := hthere h
      exact .inl ⟨rfl, .inr hdir⟩

/-- What is made of a path is a directory. -/
theorem makeDirectories_leaves {disk made : Disk} {path : Path}
    (h : disk.makeDirectories path = .ok made) (hpath : path.isEmpty = false) :
    made.isDirectory path = true := by
  rcases makeDirectoriesFrom_cases h with
    ⟨rfl, hempty | hdir⟩ | hmade | ⟨_, _, middle, _, _, _, hlast⟩
  · rw [hpath] at hempty
    cases hempty
  · exact hdir
  · exact isDirectory_makeDirectory hmade
  · rcases hlast with hmade | ⟨rfl, hdir⟩
    · exact isDirectory_makeDirectory hmade
    · exact hdir

/-- Where there is a directory, nothing is made. -/
theorem makeDirectories_eq_self {disk : Disk} {path : Path}
    (h : path.isEmpty = true ∨ disk.isDirectory path = true) :
    disk.makeDirectories path = .ok disk := by
  unfold makeDirectories makeDirectoriesFrom
  by_cases hpath : path.isEmpty = true
  · rw [if_pos hpath]
  · have hdir := h.resolve_left hpath
    rw [if_neg hpath, makeDirectory_of_isDirectory hdir]
    show (if _ then _ else _) = _
    rw [if_pos hdir]

/-! ## §2. The path above. -/

/-- The path above has all steps but the last. -/
theorem steps_of_parent? {path above : Path} (h : path.parent? = some above) :
    ∃ steps last, path.steps = steps ++ [last] ∧ above = ⟨path.absolute, steps, .plain⟩ := by
  unfold Path.parent? at h
  by_cases hempty : path.steps.isEmpty = true
  · rw [if_pos hempty] at h
    cases h
  · rw [if_neg hempty] at h
    cases h
    have hne : path.steps ≠ [] := by simpa using hempty
    exact ⟨path.steps.dropLast, path.steps.getLast hne,
      (List.dropLast_concat_getLast hne).symm, rfl⟩

theorem steps_of_fileName? {path : Path} {name : String} (h : path.fileName? = some name) :
    ∃ steps, path.steps = steps ++ [.into name] := by
  unfold Path.fileName? at h
  rw [← List.getLast?_eq_some_iff]
  cases hlast : path.steps.getLast? with
  | none => simp only [hlast, reduceCtorEq] at h
  | some step =>
    cases step with
    | up => simp only [hlast, reduceCtorEq] at h
    | into other =>
      simp only [hlast, Option.some.injEq] at h
      rw [h]

/-- The text of the path above is part of the text of the path. -/
theorem mem_text_of_parent? {path above : Path} (h : path.parent? = some above) {c : Char}
    (hc : c ∈ above.text.toList) : c ∈ path.text.toList := by
  obtain ⟨steps, last, hsteps, rfl⟩ := steps_of_parent? h
  simp only [Path.text, String.append_empty, String.toList_append, List.mem_append] at hc
  rw [Path.text, hsteps]
  simp only [String.toList_append, List.mem_append]
  -- the text of the path above is its root and its steps, and the path goes on from there
  rcases hc with hroot | habove
  · exact .inl (.inl hroot)
  · cases steps with
    | nil =>
      rw [List.map_nil, String.intercalate_nil] at habove
      cases habove
    | cons first others =>
      rw [List.map_append, String.intercalate_append_of_ne_nil (by simp) (by simp)]
      simp only [String.toList_append, List.mem_append]
      exact .inl (.inr (.inl (.inl habove)))

/-- Where a path leads to a place, the path above leads to a directory. -/
theorem isDirectory_parent {disk : Disk} {path above : Path} {place : Place}
    (habove : path.parent? = some above) (h : disk.locate path = .ok place) :
    above.isEmpty = true ∨ disk.isDirectory above = true := by
  obtain ⟨hnul, -, hwalk⟩ := locate_eq_ok_iff.mp h
  by_cases hempty : above.isEmpty = true
  · exact .inl hempty
  · refine .inr (isDirectory_iff.mpr ?_)
    -- the parent's text is part of the path's, so it has no zero character either
    have hnul' : above.text.toList.contains '\x00' = false := by
      rw [← Bool.not_eq_true, List.contains_iff_mem] at hnul ⊢
      exact fun hc => hnul (mem_text_of_parent? habove hc)
    obtain ⟨steps, last, hsteps, rfl⟩ := steps_of_parent? habove
    rw [hsteps] at hwalk
    -- the walk to the path passes through the parent
    obtain ⟨middle, hmiddle, hnode⟩ := walk_concat_eq_ok hwalk
    exact ⟨middle, locate_eq_ok_iff.mpr ⟨hnul', by simpa using hempty, hmiddle⟩, hnode⟩

/-! ## §3. What making directories leaves alone. -/

/-- Making one directory changes nothing further down than its path leads. -/
theorem makeDirectory_far {disk made : Disk} {path : Path}
    (h : disk.makeDirectory path = .ok made) : made.current = disk.current ∧
      ∀ place, (disk.origin path).length + path.steps.length < place.length →
        made.node? place = disk.node? place := by
  obtain ⟨target, hlocate, -, rfl⟩ := makeDirectory_eq_ok_iff.mp h
  refine ⟨rfl, fun place hfar => node?_put_of_ne disk _ ?_⟩
  rintro rfl
  exact Nat.not_lt.mpr (length_walk_le (locate_eq_ok_iff.mp hlocate).2.2) hfar

/-- Making directories changes nothing below them. -/
theorem makeDirectoriesFrom_far {depth : Nat} {path : Path} {disk made : Disk}
    (h : disk.makeDirectoriesFrom path depth = .ok made) : made.current = disk.current ∧
      ∀ place, (disk.origin path).length + path.steps.length < place.length →
        made.node? place = disk.node? place := by
  -- Induction on how far above directories may be missing: those above are made in places less far
  -- down.
  induction depth generalizing path disk made with
  | zero =>
    rcases makeDirectoriesFrom_cases h with ⟨rfl, -⟩ | hmade | ⟨_, _, _, hdepth, -⟩
    · exact ⟨rfl, fun _ _ => rfl⟩
    · exact makeDirectory_far hmade
    · cases hdepth
  | succ depth ih =>
    rcases makeDirectoriesFrom_cases h with
      ⟨rfl, -⟩ | hmade | ⟨above, _, middle, hdepth, habove, hmiddle, hlast⟩
    · exact ⟨rfl, fun _ _ => rfl⟩
    · exact makeDirectory_far hmade
    · cases hdepth
      obtain ⟨hcurrent, hfar⟩ := ih hmiddle
      obtain ⟨steps, last, hsteps, rfl⟩ := steps_of_parent? habove
      -- What is far below a path is further below the path above.
      have hmiddle' : ∀ place, (disk.origin path).length + path.steps.length < place.length →
          middle.node? place = disk.node? place := by
        intro place hplace
        apply hfar
        rw [hsteps, List.length_append, List.length_singleton] at hplace
        show (disk.origin path).length + steps.length < place.length
        omega
      rcases hlast with hmade | ⟨rfl, -⟩
      · obtain ⟨hcurrent', hfar'⟩ := makeDirectory_far hmade
        refine ⟨hcurrent'.trans hcurrent, fun place hplace => ?_⟩
        rw [hfar' place (by rwa [origin, hcurrent]), hmiddle' place hplace]
      · exact ⟨hcurrent, hmiddle'⟩

/-! ## §4. Names that lead down a tree. -/

/-- Whether whatever stands on a disk stands in a directory. -/
def Tree (disk : Disk) : Prop :=
  ∀ place node, disk.node? place = some node → disk.node? place.dropLast = some .directory

/-- On a tree, there is a directory above everything. -/
theorem Tree.directory {disk : Disk} (h : disk.Tree) {place : Place} (names : List String)
    (hnames : names ≠ []) {node : Node} (hnode : disk.node? (place ++ names) = some node) :
    disk.node? place = some .directory := by
  -- from what stands there up to the place, directory by directory
  induction hlength : names.length generalizing names node with
  | zero => exact absurd (List.length_eq_zero_iff.mp hlength) hnames
  | succ count ih =>
    have habove := h _ _ hnode
    rw [List.dropLast_append_of_ne_nil hnames] at habove
    by_cases hone : names.dropLast = []
    · rwa [hone, List.append_nil] at habove
    · refine ih names.dropLast hone habove ?_
      rw [List.length_dropLast, hlength, Nat.add_sub_cancel]

/-- On a tree, names lead to what stands below a place. -/
theorem Tree.walk {disk : Disk} (h : disk.Tree) {names : List String}
    (hshort : ∀ name ∈ names, ¬ maxNameLength < name.utf8ByteSize) {place : Place} {node : Node}
    (hnode : disk.node? (place ++ names) = some node) :
    disk.walk place (names.map .into) = .ok (place ++ names) := by
  induction names generalizing place with
  | nil => rw [List.append_nil, List.map_nil, Disk.walk]
  | cons name names ih =>
    have hsplit : place ++ name :: names = (place ++ [name]) ++ names := by simp
    rw [hsplit] at hnode ⊢
    have hname := hshort name List.mem_cons_self
    -- a node below is there, so every place on the way to it is a directory
    have hnext := ih (fun other hother => hshort other (List.mem_cons_of_mem _ hother)) hnode
    rw [← hsplit] at hnode
    exact walk_cons_eq_ok_iff.mpr ⟨h.directory (name :: names) (List.cons_ne_nil _ _) hnode,
      place ++ [name], stepFrom_into_eq_ok_iff.mpr ⟨hname, rfl⟩, hnext⟩

/-- Names lead down, one after the other. -/
theorem walk_names_eq {disk : Disk} {names : List String} {place target : Place}
    (h : disk.walk place (names.map .into) = .ok target) : target = place ++ names := by
  induction names generalizing place with
  | nil =>
    cases h
    rw [List.append_nil]
  | cons name names ih =>
    obtain ⟨-, next, hstep, hrest⟩ := walk_cons_eq_ok_iff.mp h
    rw [ih hrest, (stepFrom_into_eq_ok_iff.mp hstep).2, List.append_assoc, List.singleton_append]

theorem noNul_of_read {disk : Disk} {path : Path} (h : disk.read path = .error .notFound) :
    path.text.toList.contains '\x00' = false := by
  cases hnul : path.text.toList.contains '\x00' with
  | false => rfl
  | true =>
    rw [read, locate, if_pos hnul] at h
    cases h

/-- On a tree, nothing stands where names lead to nothing. -/
theorem Tree.node?_eq_none {disk : Disk} (htree : disk.Tree) {path : Path} {names : List String}
    (hsteps : path.steps = names.map .into) (hnames : names ≠ [])
    (hshort : ∀ name ∈ names, ¬ maxNameLength < name.utf8ByteSize)
    (h : disk.read path = .error .notFound) : disk.node? (disk.origin path ++ names) = none := by
  cases hnode : disk.node? (disk.origin path ++ names) with
  | none => rfl
  | some node =>
    have hsome : path.isEmpty = false := by
      simp [Path.isEmpty, hsteps, hnames]
    -- on a tree the names would lead to what stands there
    have hlocate : disk.locate path = .ok (disk.origin path ++ names) :=
      locate_eq_ok_iff.mpr ⟨noNul_of_read h, hsome, hsteps ▸ htree.walk hshort hnode⟩
    rcases read_eq_notFound_iff.mp h with hnone | ⟨place, hplace, hnone⟩
    · rw [hlocate] at hnone
      cases hnone
    · rw [hlocate] at hplace
      cases hplace
      rw [hnode] at hnone
      cases hnone

/-- On a tree, making the directories above names that lead to nothing brings
nothing into view. -/
theorem Tree.read_makeDirectories {disk made : Disk} (htree : disk.Tree) {path above : Path}
    {names : List String} (hsteps : path.steps = names.map .into)
    (hshort : ∀ name ∈ names, ¬ maxNameLength < name.utf8ByteSize)
    (h : disk.read path = .error .notFound) (habove : path.parent? = some above)
    (hmade : disk.makeDirectories above = .ok made) : made.read path = .error .notFound := by
  by_cases hempty : above.isEmpty = true
  · rw [makeDirectories_eq_self (.inl hempty)] at hmade
    cases hmade
    exact h
  · obtain ⟨steps, last, hlast, rfl⟩ := steps_of_parent? habove
    obtain ⟨place, hplace, hnode⟩ := isDirectory_iff.mp
      (makeDirectories_leaves hmade (by simpa using hempty))
    obtain ⟨hcurrent, hfar⟩ := makeDirectoriesFrom_far hmade
    -- The steps above are names too, and so is the last.
    obtain ⟨upper, lower, rfl, hupper, hlower⟩ :=
      List.map_eq_append_iff.mp (hsteps.symm.trans hlast)
    obtain ⟨name, rfl, rfl⟩ := List.map_eq_singleton_iff.mp hlower
    have horigin : made.origin path = disk.origin path := by
      rw [origin, hcurrent, origin]
    have hwalk : made.walk (disk.origin path) steps = .ok place :=
      horigin ▸ (locate_eq_ok_iff.mp hplace).2.2
    have hthere : place = disk.origin path ++ upper := walk_names_eq (hupper ▸ hwalk)
    -- The name itself lies below all that was made.
    have hnone : made.node? (place ++ [name]) = none := by
      rw [hthere, List.append_assoc,
        hfar _ (by
          show (disk.origin path).length + steps.length < _
          rw [← hupper]
          simp),
        htree.node?_eq_none hsteps (by simp) hshort h]
    have hlocate : made.locate path = .ok (place ++ [name]) := by
      refine locate_eq_ok_iff.mpr ⟨noNul_of_read h, by simp [Path.isEmpty, hlast], ?_⟩
      rw [horigin, hlast, walk_append, hwalk]
      show made.walk place [.into name] = _
      rw [walk_single hnode]
      exact stepFrom_into_eq_ok_iff.mpr ⟨hshort name (by simp), rfl⟩
    exact read_eq_notFound_iff.mpr (.inr ⟨_, hlocate, hnone⟩)

end BoardRelay.Disk
