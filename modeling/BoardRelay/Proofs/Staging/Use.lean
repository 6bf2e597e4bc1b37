/-
  BoardRelay.Proofs.Staging.Use
  ────────────────────────────────
  How much of the disk staged files use.  A holding is counted with the size
  of the first copy at its path, and a later copy replaces the file but not
  the size.  So the account covers the files as long as every path is staged
  with contents of one size (`staged_size_le_loaded`), and falls short of
  them once it is not (`restaged_exceeds_account`).
-/
import BoardRelay.Proofs.Staging.Holders

namespace BoardRelay

/-- The size of the file at a path. -/
def Disk.sizeAt (disk : Disk) (path : Disk.Path) : Nat :=
  match disk.read path with
  | .ok content => content.length
  | .error _ => 0

namespace Staging

/-! ## §1. What holdings are counted with. -/

namespace Area

/-- Whether a path is one where a video is staged. -/
def Stages (area : Area) (path : Disk.Path) : Prop :=
  ∃ locator, isVideo locator = true ∧ area.place locator = path

/-- What an area counts for a path. -/
def countedAt (area : Area) (path : Disk.Path) : Nat :=
  ((area.holding? path).map fun holding => holding.size.toNat).getD 0

/-- Counting paths, each once, comes to no more than all that is counted. -/
theorem Once.sum_countedAt_le {area : Area} (h : area.Once) {paths : List Disk.Path}
    (hnodup : paths.Nodup) : (paths.map area.countedAt).sum ≤ area.counted := by
  induction paths generalizing area with
  | nil => exact Nat.zero_le _
  | cons path paths ih =>
    obtain ⟨hnot, hnodup⟩ := List.nodup_cons.mp hnodup
    have hothers : paths.map (area.withoutHolding path).countedAt = paths.map area.countedAt := by
      refine List.map_congr_left fun other hother => ?_
      have hne : other ≠ path := by
        rintro rfl
        exact hnot hother
      rw [countedAt, holding?_withoutHolding_of_ne hne, countedAt]
    -- the path apart, the others are counted in what is left without it
    have hrest := ih (h.withoutHolding path) hnodup
    have hsum := h.sum_eq path fun holding => holding.size.toNat
    rw [hothers] at hrest
    rw [List.map_cons, List.sum_cons, countedAt]
    unfold counted at hrest ⊢
    omega

end Area

/-! ## §2. Contents of one size. -/

namespace Yard

variable {sizes : Disk.Path → UInt64} {yard start : Yard}

/-- Where every path has contents of one size, a holding is counted with the
size of the file that is there. -/
theorem Kept.sizeAt_eq
    (h : yard.Kept (fun path content => content.length = (sizes path).toNat) start)
    {path : Disk.Path} {holding : Holding} (hholding : yard.area.holding? path = some holding) :
    yard.disk.sizeAt path = holding.size.toNat := by
  have hsound := h.held hholding
  obtain ⟨first, hfirst, hcounted⟩ := hsound.counted
  obtain ⟨content, hcontent, hread⟩ := hsound.there
  have hsize : holding.size.toNat = (sizes path).toNat := by
    rw [hcounted, sizeOf, hfirst, UInt64.ofNat_toNat]
  rw [Disk.sizeAt, hread, hsize]
  exact hcontent

/-- A file of the directory that was not there at the start is held, or is
being written by a call. -/
theorem Kept.held_or_part {fit : Disk.Path → Text.Bytes → Prop} (h : yard.Kept fit start)
    {path : Disk.Path} (hentry : Disk.IsEntry yard.area.root path)
    (hbare : ∀ content, start.disk.read path ≠ .ok content) {content : Text.Bytes}
    (hread : yard.disk.read path = .ok content) : (yard.area.holding? path).isSome = true ∨
      ∃ number, number < yard.area.begun ∧ IsPart yard.area.root number path := by
  obtain ⟨place, hplace, hfile, hending⟩ := Disk.read_eq_ok_iff.mp hread
  rcases h.files hfile with hstart | ⟨other, hother, hheld | ⟨call, hcall, hpart⟩⟩
  · exact absurd (Disk.read_eq_ok_iff.mpr ⟨place, h.located.mp hplace, hstart, hending⟩)
      (hbare content)
  · -- another held path would lead to another place
    obtain ⟨holding, hholding⟩ := Option.isSome_iff_exists.mp hheld
    by_cases hsame : path = other
    · rw [hsame]
      exact .inl hheld
    · exact absurd rfl
        (hentry.place_ne (h.held hholding).staged.isEntry hsame hplace hother)
  · -- and so would another file beside one
    obtain ⟨position, hposition⟩ := List.getElem?_of_mem hcall
    obtain ⟨number, hbegun, hname⟩ := (h.sound hposition).part hpart
    by_cases hsame : path = other
    · rw [hsame]
      exact .inr ⟨number, hbegun, hname⟩
    · exact absurd rfl (hentry.place_ne hname.isEntry hsame hplace hother)

/-- A staged file that was not there at the start is held. -/
theorem Kept.isSome_of_read {fit : Disk.Path → Text.Bytes → Prop} (h : yard.Kept fit start)
    {path : Disk.Path} (hstages : yard.area.Stages path)
    (hbare : ∀ content, start.disk.read path ≠ .ok content) {content : Text.Bytes}
    (hread : yard.disk.read path = .ok content) : (yard.area.holding? path).isSome = true := by
  obtain ⟨locator, hvideo, rfl⟩ := hstages
  have hstaged := yard.area.isStaged_place hvideo
  rcases h.held_or_part hstaged.isEntry hbare hread with hheld | ⟨number, -, hname⟩
  · exact hheld
  · exact absurd rfl (hstaged.ne_part hname)

/-- What stands at a path of the area takes no more than is counted for it. -/
theorem Kept.sizeAt_le
    (h : yard.Kept (fun path content => content.length = (sizes path).toNat) start)
    {path : Disk.Path} (hstages : yard.area.Stages path)
    (hbare : ∀ content, start.disk.read path ≠ .ok content) :
    yard.disk.sizeAt path ≤ yard.area.countedAt path := by
  cases hread : yard.disk.read path with
  | error fault =>
    rw [Disk.sizeAt, hread]
    exact Nat.zero_le _
  | ok content =>
    obtain ⟨holding, hholding⟩ :=
      Option.isSome_iff_exists.mp (h.isSome_of_read hstages hbare hread)
    rw [h.sizeAt_eq hholding, Area.countedAt, hholding]
    exact Nat.le_refl _

end Yard

/-- In every run of calls on videos, whatever fails but the deletion of files,
in which all contents for one path have one size: the staged files, of which
none was there at the start, have no more bytes than are taken from the
budget, and so fewer than the budget or none. -/
theorem staged_size_le_loaded (root : Disk.Path) (budget : UInt64) (disk : Disk)
    (sizes : Disk.Path → UInt64) (events : List Event)
    (hbare : ∀ path, (Area.empty root budget).Stages path → ∀ content, disk.read path ≠ .ok content)
    (hcalm : (Yard.opening root budget disk).Calm
      (fun path content => content.length = (sizes path).toNat) events)
    (paths : List Disk.Path) (hnodup : paths.Nodup)
    (hpaths : ∀ path ∈ paths, (Area.empty root budget).Stages path) :
    let yard := (Yard.opening root budget disk).after events
    (paths.map yard.disk.sizeAt).sum ≤ yard.area.ledger.loaded.toNat ∧
      (yard.area.ledger.loaded = 0 ∨ yard.area.ledger.loaded < budget) := by
  intro yard
  have hkept := (Yard.kept_opening _ root budget disk).after hcalm
  have haccounted : yard.Accounted budget := (Yard.accounted_opening root budget disk).after events
  -- the root never moves, so what the first area would stage the last one stages
  have hstages : ∀ path ∈ paths, yard.area.Stages path := by
    intro path hpath
    obtain ⟨locator, hvideo, hplace⟩ := hpaths path hpath
    refine ⟨locator, hvideo, ?_⟩
    rw [Area.place, hkept.root_eq]
    exact hplace
  refine ⟨?_, ?_⟩
  · -- file by file at most the size counted, path by path at most the holdings, and those are
    -- loaded
    calc (paths.map yard.disk.sizeAt).sum ≤ (paths.map yard.area.countedAt).sum :=
        List.sum_le_sum fun path hpath =>
          hkept.sizeAt_le (hstages path hpath) (hbare path (hpaths path hpath))
      _ ≤ yard.area.counted := haccounted.once.sum_countedAt_le hnodup
      _ ≤ yard.area.ledger.loaded.toNat := by
        rw [haccounted.loaded_eq]
        exact Nat.le_add_right _ _
  · rw [← UInt64.toNat_inj, UInt64.lt_iff_toNat_lt]
    exact haccounted.loaded_lt

/-- A video is staged, and then staged again with another content. -/
def restaging (first second : Text.Bytes) : List Event :=
  let locator := "https://h.org/a.webm"
  let work (position : Nat) : Event := .work position (.error .truncated) none
  [.begin (.stage locator first), work 0, work 0, work 0, .begin (.stage locator second), work 1,
    work 1, work 1, work 1]

/-- The disk with the directory of the area has no files. -/
theorem areaDisk_bare (path : Disk.Path) (content : Text.Bytes) :
    areaDisk.read path ≠ .ok content := by
  intro hread
  obtain ⟨place, -, hfile, -⟩ := Disk.read_eq_ok_iff.mp hread
  have hnone : areaDisk.node? place ≠ some (.file content) := by
    unfold Disk.node? areaDisk
    split
    · nofun
    · rw [List.lookup_cons, List.lookup_nil]
      split <;> nofun
  exact hnone hfile

/-- Contents of one size are accounted for, though the second replaces the
first. -/
theorem restaged_alike_le_loaded :
    (Yard.opening areaRoot 1000 areaDisk).Calm (fun _ content => content.length = 2)
      (restaging [1, 2] [3, 4]) ∧
    ((Yard.opening areaRoot 1000 areaDisk).after (restaging [1, 2] [3, 4])).disk.sizeAt
        ((Area.empty areaRoot 1000).place "https://h.org/a.webm") ≤
      ((Yard.opening areaRoot 1000 areaDisk).after
        (restaging [1, 2] [3, 4])).area.ledger.loaded.toNat := by
  have hcalm : (Yard.opening areaRoot 1000 areaDisk).Calm (fun _ content => content.length = 2)
      (restaging [1, 2] [3, 4]) :=
    ⟨by decide +kernel, rfl, by decide +kernel, trivial, by decide +kernel, trivial,
      by decide +kernel, trivial, by decide +kernel, rfl, by decide +kernel, trivial,
      by decide +kernel, trivial, by decide +kernel, trivial, by decide +kernel, trivial, trivial⟩
  have hsum := (staged_size_le_loaded areaRoot 1000 areaDisk (fun _ => 2) (restaging [1, 2] [3, 4])
    (fun path _ => areaDisk_bare path) hcalm
    [(Area.empty areaRoot 1000).place "https://h.org/a.webm"] (by simp)
    (fun path hpath => ⟨_, by decide +kernel, (List.mem_singleton.mp hpath).symm⟩)).1
  rw [List.map_singleton, List.sum_singleton] at hsum
  exact ⟨hcalm, hsum⟩

/-- Staged again with a hundred bytes while it is held with ten, a file has a
hundred bytes, of which ten are taken from the budget. -/
theorem restaged_exceeds_account :
    let yard := (Yard.opening areaRoot 1000 areaDisk).after
      (restaging (List.replicate 10 0) (List.replicate 100 0))
    (Yard.opening areaRoot 1000 areaDisk).orderly
        (restaging (List.replicate 10 0) (List.replicate 100 0)) = true ∧
      (∀ call ∈ yard.calls, call.task.succeeded = true) ∧
      yard.disk.sizeAt (yard.area.place "https://h.org/a.webm") = 100 ∧
      yard.area.ledger.loaded = 10 := by
  decide +kernel

end Staging

end BoardRelay
