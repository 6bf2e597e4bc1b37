/-
  BoardRelay.Proofs.Staging.Files
  ────────────────────────────────
  The files of a staging area that nobody else touches.  As long as files
  that are there can be deleted, every held file is there with a content that
  was meant for its path, every written file waits beside its place for the
  one call that wrote it, and no other file is there that was not before
  (`Yard.Kept.after`).
-/
import BoardRelay.Proofs.Lists
import BoardRelay.Proofs.Staging.Account
import BoardRelay.Proofs.Staging.Place

namespace BoardRelay.Staging

/-! ## §1. What a task has on disk. -/

namespace Task

/-- The file that a task may have written beside its place. -/
def part? : Task → Option Disk.Path
  | .settling _ _ part => some part
  | .givingBack _ litter _ => litter
  | .clearing litter _ => some litter
  | _ => none

/-- Whether the next step of a task may remove a file. -/
def removes : Task → Bool
  | .clearing _ _ => true
  | .freeing _ => true
  | _ => false

/-- Whether the next step of a task may change the file at its place. -/
def reaches : Task → Bool
  | .settling _ _ _ => true
  | .freeing _ => true
  | _ => false

/-- The paths at which a turn may change the disk, by the place of the call
and its task before and after. -/
def touched (place : Disk.Path) (before after : Task) : List Disk.Path :=
  (if before.reaches then [place] else []) ++ (before.part?.toList ++ after.part?.toList)

/-- Whether a task is one that a wish comes to, with contents that fit the
path of the wish. -/
inductive Serves (fit : Disk.Path → Text.Bytes → Prop) (path : Disk.Path) (wish : Wish) :
    Task → Prop where
  | looking (hacquires : wish.acquires = true) : Serves fit path wish (.looking wish.locator)
  | fetching (hacquires : wish.acquires = true) : Serves fit path wish (.fetching wish.locator)
  | reserving {content : Text.Bytes} (hacquires : wish.acquires = true)
      (hfit : fit path content) : Serves fit path wish (.reserving wish.locator content)
  | writing {content : Text.Bytes} (hacquires : wish.acquires = true)
      (hfit : fit path content) : Serves fit path wish (.writing wish.locator content)
  | settling {content : Text.Bytes} {part : Disk.Path} (hacquires : wish.acquires = true)
      (hfit : fit path content) : Serves fit path wish (.settling wish.locator content part)
  | givingBack {size : UInt64} {result : Result}
      (hresult : wish.acquires = true → result.isOk = true) :
    Serves fit path wish (.givingBack size none result)
  | owing {size : UInt64} {litter : Disk.Path} {result : Result}
      (hacquires : wish.acquires = true) (hresult : result.isOk = false) :
    Serves fit path wish (.givingBack size (some litter) result)
  | clearing {litter : Disk.Path} {result : Result} (hacquires : wish.acquires = true)
      (hresult : result.isOk = false) : Serves fit path wish (.clearing litter result)
  | freeing (hfrees : wish.acquires = false) : Serves fit path wish (.freeing wish.locator)
  | done {result : Result} : Serves fit path wish (.done result)

/-- Whether a task serves a wish for a video, and the file that it may have
written beside its place is one of its own. -/
structure Sound (fit : Disk.Path → Text.Bytes → Prop) (area : Area) (disk : Disk) (wish : Wish)
    (task : Task) : Prop where
  video : isVideo wish.locator = true
  serves : task.Serves fit (area.place wish.locator) wish
  part {part : Disk.Path} : task.part? = some part →
    ∃ number, number < area.begun ∧ IsPart area.root number part
  written {locator : String} {content : Text.Bytes} {part : Disk.Path} :
    task = .settling locator content part → disk.read part = .ok content

end Task

/-- Whether a holding is that of a file which is there, with a content and a
size that fit its path. -/
structure Holding.Sound (fit : Disk.Path → Text.Bytes → Prop) (root : Disk.Path) (disk : Disk)
    (path : Disk.Path) (holding : Holding) : Prop where
  staged : IsStaged root path
  holders : 0 < holding.holders
  counted : ∃ first, fit path first ∧ holding.size = sizeOf first
  there : ∃ content, fit path content ∧ disk.read path = .ok content

/-! ## §2. One turn. -/

theorem Area.isSome_withHolding_self (area : Area) (path : Disk.Path) (holding : Holding) :
    ((area.withHolding path holding).holding? path).isSome = true := by
  rw [holding?_withHolding]
  rfl

theorem Area.isSome_withHolding {area : Area} {path other : Disk.Path} (holding : Holding)
    (h : (area.holding? other).isSome = true) :
    ((area.withHolding path holding).holding? other).isSome = true := by
  by_cases heq : other = path
  · rw [heq]
    exact area.isSome_withHolding_self path holding
  · rwa [holding?_withHolding_of_ne heq]

/-- A holding stays sound as long as its file is read as before. -/
theorem Holding.Sound.of_read {fit : Disk.Path → Text.Bytes → Prop} {root path : Disk.Path}
    {disk disk' : Disk} {holding : Holding} (h : holding.Sound fit root disk path)
    (hread : ∀ content, disk'.read path = .ok content ↔ disk.read path = .ok content) :
    holding.Sound fit root disk' path := by
  obtain ⟨content, hfit, hthere⟩ := h.there
  exact ⟨h.staged, h.holders, h.counted, content, hfit, (hread content).mpr hthere⟩

section Removal

variable {disk left : Disk} {path : Disk.Path} {struck : Option Disk.Fault}

/-- The removal of a file changes nothing but that file. -/
theorem Removal.changesOnly (h : Removal struck disk path left) :
    Disk.ChangesOnly [path] disk left := by
  cases h with
  | gone hremove => exact Disk.changesOnly_remove hremove
  | kept => exact Disk.changesOnly_refl _ _

/-- No file is left where one was to be removed, if no fault struck. -/
theorem Removal.no_file (h : Removal none disk path left) (hnames : Disk.namesFile path = true)
    {place : Disk.Place} (hplace : disk.locate path = .ok place) (content : Text.Bytes) :
    left.node? place ≠ some (.file content) := by
  intro hfile
  cases h with
  | gone hremove =>
    rw [Disk.node?_remove hremove hplace] at hfile
    cases hfile
  | kept hfault =>
    obtain ⟨fault, herror⟩ := hfault rfl
    rw [Disk.remove_eq_ok_iff.mpr ⟨place, content, hplace, hfile, hnames, rfl⟩] at herror
    cases herror

/-- A removal that is not hindered leaves no file. -/
theorem Removal.no_content (h : Removal none disk path left) (hnames : Disk.namesFile path = true)
    (content : Text.Bytes) : left.read path ≠ .ok content := by
  intro hread
  obtain ⟨place, hplace, hfile, -⟩ := Disk.read_eq_ok_iff.mp hread
  exact h.no_file hnames (h.changesOnly.locate_iff.mp hplace) content hfile

/-- A file that is there after a removal was there before, at another path. -/
theorem Removal.file_cases (h : Removal none disk path left) (hnames : Disk.namesFile path = true)
    {place : Disk.Place} {content : Text.Bytes} (hfile : left.node? place = some (.file content)) :
    disk.locate path ≠ .ok place ∧ disk.node? place = some (.file content) := by
  have hgone : disk.locate path ≠ .ok place := fun hplace => h.no_file hnames hplace content hfile
  refine ⟨hgone, ?_⟩
  rcases h.changesOnly.node_cases place with ⟨other, hother, hplace⟩ | hsame
  · rw [List.mem_singleton.mp hother] at hplace
    exact absurd hplace hgone
  · exact hsame.symm.trans hfile

end Removal

namespace Task

variable {fit : Disk.Path → Text.Bytes → Prop} {wish : Wish} {offer : Option Text.Bytes}
  {struck : Option Disk.Fault} {area area' : Area} {disk disk' : Disk} {task task' : Task}

theorem Moves.root_eq (h : Moves offer struck area disk task task' area' disk') :
    area'.root = area.root := by
  cases h <;> rfl

theorem Moves.begun_le (h : Moves offer struck area disk task task' area' disk') :
    area.begun ≤ area'.begun := by
  cases h with
  | unwritten => exact Nat.le_succ _
  | written => exact Nat.le_succ _
  | _ => exact Nat.le_refl _

theorem Moves.place_eq (h : Moves offer struck area disk task task' area' disk')
    (locator : String) : area'.place locator = area.place locator :=
  Area.place_of_root h.root_eq locator

/-- A step leads a task on towards the same wish. -/
theorem Moves.serves (h : Moves offer struck area disk task task' area' disk')
    {path : Disk.Path} (hserves : task.Serves fit path wish)
    (hoffer : ∀ content, offer = some content → task = .fetching wish.locator →
      fit path content) : task'.Serves fit path wish := by
  cases h with
  | rests => exact hserves
  | missing =>
    cases hserves with
    | looking hacquires => exact .fetching hacquires
  | fetched hsome =>
    cases hserves with
    | fetching hacquires => exact .reserving hacquires (hoffer _ hsome rfl)
  | reserved =>
    cases hserves with
    | reserving hacquires hfit => exact .writing hacquires hfit
  | unwritten =>
    cases hserves with
    | writing hacquires hfit => exact .owing hacquires rfl
  | written =>
    cases hserves with
    | writing hacquires hfit => exact .settling hacquires hfit
  | unmoved =>
    cases hserves with
    | settling hacquires hfit => exact .owing hacquires rfl
  | shared => exact .givingBack fun _ => rfl
  | owesClearing =>
    cases hserves with
    | owing hacquires hresult => exact .clearing hacquires hresult
  -- the last holder gives its size back whether or not the file could be removed
  | leftLast =>
    cases hserves with
    | freeing hfrees =>
      refine .givingBack fun hacquires => ?_
      rw [hfrees] at hacquires
      cases hacquires
  | _ => exact .done

/-- A file beside its place was there, or is written under a new number. -/
theorem Moves.part?_eq (h : Moves offer struck area disk task task' area' disk')
    (hsound : task.Sound fit area disk wish) {part : Disk.Path} (hpart : task'.part? = some part) :
    task.part? = some part ∨ IsPart area.root area.begun part ∧ area.begun < area'.begun := by
  cases h with
  | rests => exact .inl hpart
  -- a call gets its temporary place as it starts to write, with the number that the area then
  -- spends
  | unwritten =>
    cases hsound.serves with
    | writing =>
      cases hpart
      exact .inr ⟨area.isPart_part hsound.video, Nat.lt_succ_self _⟩
  | written =>
    cases hsound.serves with
    | writing =>
      cases hpart
      exact .inr ⟨area.isPart_part hsound.video, Nat.lt_succ_self _⟩
  | unmoved => exact .inl hpart
  | owesClearing => exact .inl hpart
  | _ => cases hpart

/-- What a turn can change on disk. -/
theorem Moves.changesOnly (h : Moves offer struck area disk task task' area' disk')
    (hserves : task.Serves fit (area.place wish.locator) wish) :
    Disk.ChangesOnly (touched (area.place wish.locator) task task') disk disk' := by
  -- the steps that write, rename or remove; no other reaches the disk
  cases h with
  | unwritten hleft =>
    rcases hleft with rfl | ⟨written, hwrite⟩
    · exact Disk.changesOnly_refl _ _
    · exact (Disk.changesOnly_write hwrite).mono (by simp [touched, part?])
  | written hwrite => exact (Disk.changesOnly_write hwrite).mono (by simp [touched, part?])
  | shared hrename =>
    cases hserves with
    | settling =>
      exact (Disk.changesOnly_rename hrename).mono (by simp [touched, reaches, part?])
  | settled hrename =>
    cases hserves with
    | settling =>
      exact (Disk.changesOnly_rename hrename).mono (by simp [touched, reaches, part?])
  | cleared hleft => exact hleft.changesOnly.mono (by simp [touched, part?])
  | discarded _ hleft =>
    cases hserves with
    | freeing => exact hleft.changesOnly.mono (by simp [touched, reaches])
  | leftLast _ _ _ hleft =>
    cases hserves with
    | freeing => exact hleft.changesOnly.mono (by simp [touched, reaches])
  | _ => exact Disk.changesOnly_refl _ _

/-- A turn changes no holding but that of the call's own place. -/
theorem Moves.holding?_of_ne (h : Moves offer struck area disk task task' area' disk')
    (hserves : task.Serves fit (area.place wish.locator) wish) {path : Disk.Path}
    (hne : path ≠ area.place wish.locator) : area'.holding? path = area.holding? path := by
  -- a step that changes the holdings does so at the place of its own locator
  cases h with
  | found =>
    cases hserves with
    | looking => exact Area.holding?_withHolding_of_ne hne _ area
  | shared =>
    cases hserves with
    | settling => exact Area.holding?_withHolding_of_ne hne _ area
  | settled =>
    cases hserves with
    | settling => exact Area.holding?_withHolding_of_ne hne _ area
  | left =>
    cases hserves with
    | freeing => exact Area.holding?_withHolding_of_ne hne _ area
  | leftLast =>
    cases hserves with
    | freeing => exact Area.holding?_withoutHolding_of_ne hne area
  | _ => rfl

/-- A turn touches the call's own place, and files beside it. -/
theorem Moves.mem_touched (h : Moves offer struck area disk task task' area' disk')
    (hsound : task.Sound fit area disk wish) {path : Disk.Path}
    (hpath : path ∈ touched (area.place wish.locator) task task') :
    path = area.place wish.locator ∧ task.reaches = true ∨
      ∃ number, IsPart area.root number path := by
  simp only [touched, List.mem_append, Option.mem_toList] at hpath
  -- the place itself, the temporary place before the step, the one after it
  rcases hpath with hplace | hpart | hpart
  · split at hplace
    · exact .inl ⟨List.mem_singleton.mp hplace, ‹_›⟩
    · cases hplace
  · obtain ⟨number, -, hpart⟩ := hsound.part hpart
    exact .inr ⟨number, hpart⟩
  · rcases h.part?_eq hsound hpart with hpart | ⟨hpart, -⟩
    · obtain ⟨number, -, hpart⟩ := hsound.part hpart
      exact .inr ⟨number, hpart⟩
    · exact .inr ⟨area.begun, hpart⟩

/-- What a step touches stands directly in the directory of the area. -/
theorem Moves.isEntry (h : Moves offer struck area disk task task' area' disk')
    (hsound : task.Sound fit area disk wish) {path : Disk.Path}
    (hpath : path ∈ touched (area.place wish.locator) task task') :
    Disk.IsEntry area.root path := by
  rcases h.mem_touched hsound hpath with ⟨rfl, -⟩ | ⟨number, hpart⟩
  · exact (area.isStaged_place hsound.video).isEntry
  · exact hpart.isEntry

/-- A staged file is read after a turn as before, unless it is at the call's
own place and the call reaches for it. -/
theorem Moves.read_iff (h : Moves offer struck area disk task task' area' disk')
    (hsound : task.Sound fit area disk wish) {path : Disk.Path} (hstaged : IsStaged area.root path)
    (hquiet : path = area.place wish.locator → task.reaches = false) (content : Text.Bytes) :
    disk'.read path = .ok content ↔ disk.read path = .ok content := by
  refine (h.changesOnly hsound.serves).read_iff hstaged.isEntry
    (fun other hother => h.isEntry hsound hother) fun hmem => ?_
  rcases h.mem_touched hsound hmem with ⟨hplace, hreaches⟩ | ⟨number, hpart⟩
  · rw [hquiet hplace] at hreaches
    cases hreaches
  · exact hstaged.ne_part hpart rfl

/-- The holding of the call's own place stays sound: whoever moves a file
there brings a content that fits. -/
theorem Moves.holding_sound (h : Moves offer struck area disk task task' area' disk')
    (hsound : task.Sound fit area disk wish)
    (hheld : ∀ holding, area.holding? (area.place wish.locator) = some holding →
      holding.Sound fit area.root disk (area.place wish.locator))
    {holding : Holding} (hholding : area'.holding? (area.place wish.locator) = some holding) :
    holding.Sound fit area.root disk' (area.place wish.locator) := by
  have hstaged := area.isStaged_place hsound.video
  have hquiet := fun hreaches : task.reaches = false =>
    h.read_iff hsound hstaged fun _ => hreaches
  cases h with
  -- one more holder of a file that stays as it is
  | found hbefore =>
    cases hsound.serves with
    | looking =>
      cases (Area.holding?_withHolding _ _ area).symm.trans hholding
      have hold := hheld _ hbefore
      exact ⟨hold.staged, Nat.succ_pos _, hold.counted, hold.there⟩
  -- the file is replaced, and what was renamed over it fits the place as well
  | shared hrename hbefore =>
    have hread := Disk.read_rename hrename (hsound.written rfl)
    cases hsound.serves with
    | settling hacquires hfit =>
      cases (Area.holding?_withHolding _ _ area).symm.trans hholding
      have hold := hheld _ hbefore
      exact ⟨hold.staged, Nat.succ_pos _, hold.counted, _, hfit, hread⟩
  | settled hrename =>
    have hread := Disk.read_rename hrename (hsound.written rfl)
    cases hsound.serves with
    | settling hacquires hfit =>
      cases (Area.holding?_withHolding _ _ area).symm.trans hholding
      exact ⟨hstaged, Nat.one_pos, ⟨_, hfit, rfl⟩, _, hfit, hread⟩
  -- one holder fewer, and still one left
  | left _ hbefore hothers =>
    cases hsound.serves with
    | freeing =>
      cases (Area.holding?_withHolding _ _ area).symm.trans hholding
      have hold := hheld _ hbefore
      exact ⟨hold.staged, Nat.sub_pos_of_lt hothers, hold.counted, hold.there⟩
  | leftLast =>
    cases hsound.serves with
    | freeing => cases (Area.holding?_withoutHolding _ area).symm.trans hholding
  -- a file that nobody holds is removed
  | discarded hunheld =>
    cases hsound.serves with
    | freeing => cases (hunheld hsound.video).symm.trans hholding
  | rests => exact hheld _ hholding
  | unmoved => exact hheld _ hholding
  | _ => exact (hheld _ hholding).of_read (hquiet rfl)

/-- A file that is there after a turn was there before, and who had it has it
still; or it is held now, or the call has it beside its place. -/
theorem Moves.file_cases (h : Moves offer struck area disk task task' area' disk')
    (hsound : task.Sound fit area disk wish) (hcalm : task.removes = true → struck = none)
    {place : Disk.Place} {content : Text.Bytes} (hfile : disk'.node? place = some (.file content)) :
    (disk.node? place = some (.file content) ∧ ∀ path, disk.locate path = .ok place →
        ((area.holding? path).isSome = true → (area'.holding? path).isSome = true) ∧
        (task.part? = some path → task'.part? = some path)) ∨
      ∃ path, disk.locate path = .ok place ∧
        ((area'.holding? path).isSome = true ∨ task'.part? = some path) := by
  -- a file that is moved to its place is gone from beside it
  have hmoved : ∀ {part : Disk.Path}, task.part? = some part →
      disk.rename part (area.place wish.locator) = .ok disk' →
        (disk.node? place = some (.file content) ∧
          ∀ path, disk.locate path = .ok place → task.part? ≠ some path) ∨
        disk.locate (area.place wish.locator) = .ok place := by
    intro part hpart hrename
    obtain ⟨number, -, hname⟩ := hsound.part hpart
    have hstaged := area.isStaged_place hsound.video
    obtain ⟨hgone, htarget | hbefore⟩ := Disk.file_of_rename hrename hname.isEntry hstaged.isEntry
      (hstaged.ne_part hname).symm hfile
    · exact .inr htarget
    · refine .inl ⟨hbefore, fun path hpath heq => ?_⟩
      cases hpart.symm.trans heq
      exact hgone hpath
  cases h with
  | found => exact .inl ⟨hfile, fun path _ => ⟨area.isSome_withHolding _, nofun⟩⟩
  | left => exact .inl ⟨hfile, fun path _ => ⟨area.isSome_withHolding _, nofun⟩⟩
  | unwritten hleft =>
    rcases hleft with rfl | ⟨written, hwrite⟩
    · exact .inl ⟨hfile, fun path _ => ⟨id, nofun⟩⟩
    · rcases Disk.file_of_write hwrite hfile with hpart | hbefore
      · exact .inr ⟨_, hpart, .inr rfl⟩
      · exact .inl ⟨hbefore, fun path _ => ⟨id, nofun⟩⟩
  | written hwrite =>
    rcases Disk.file_of_write hwrite hfile with hpart | hbefore
    · exact .inr ⟨_, hpart, .inr rfl⟩
    · exact .inl ⟨hbefore, fun path _ => ⟨id, nofun⟩⟩
  | shared hrename =>
    cases hsound.serves with
    | settling =>
      rcases hmoved rfl hrename with ⟨hbefore, hnot⟩ | htarget
      · exact .inl ⟨hbefore, fun path hpath =>
          ⟨area.isSome_withHolding _, fun hpart => absurd hpart (hnot path hpath)⟩⟩
      · exact .inr ⟨_, htarget, .inl (area.isSome_withHolding_self _ _)⟩
  | settled hrename =>
    cases hsound.serves with
    | settling =>
      rcases hmoved rfl hrename with ⟨hbefore, hnot⟩ | htarget
      · exact .inl ⟨hbefore, fun path hpath =>
          ⟨area.isSome_withHolding _, fun hpart => absurd hpart (hnot path hpath)⟩⟩
      · exact .inr ⟨_, htarget, .inl (area.isSome_withHolding_self _ _)⟩
  -- what was to be removed is gone, since no fault struck
  | cleared hleft =>
    cases hcalm rfl
    obtain ⟨number, -, hpart⟩ := hsound.part rfl
    obtain ⟨hgone, hbefore⟩ := hleft.file_cases hpart.isEntry.namesFile hfile
    refine .inl ⟨hbefore, fun path hpath => ⟨id, fun hpart => ?_⟩⟩
    cases hpart
    exact absurd hpath hgone
  | discarded hunheld hleft =>
    cases hcalm rfl
    cases hsound.serves with
    | freeing =>
      have hstaged := area.isStaged_place hsound.video
      obtain ⟨-, hbefore⟩ := hleft.file_cases hstaged.isEntry.namesFile hfile
      exact .inl ⟨hbefore, fun path _ => ⟨id, nofun⟩⟩
  | leftLast hvideo hholding hlast hleft =>
    cases hcalm rfl
    cases hsound.serves with
    | freeing =>
      have hstaged := area.isStaged_place hsound.video
      obtain ⟨hgone, hbefore⟩ := hleft.file_cases hstaged.isEntry.namesFile hfile
      refine .inl ⟨hbefore, fun path hpath => ⟨fun hsome => ?_, nofun⟩⟩
      have hne : path ≠ area.place wish.locator := by
        rintro rfl
        exact hgone hpath
      rwa [Area.holding?_withoutHolding_of_ne hne]
  | _ => exact .inl ⟨hfile, fun path _ => ⟨id, id⟩⟩

/-- What a call has beside its place is what it wrote. -/
theorem Moves.sound (h : Moves offer struck area disk task task' area' disk')
    (hsound : task.Sound fit area disk wish)
    (hoffer : ∀ content, offer = some content → task = .fetching wish.locator →
      fit (area.place wish.locator) content) : task'.Sound fit area' disk' wish := by
  refine ⟨hsound.video, ?_, fun {part} hpart => ?_, ?_⟩
  · rw [h.place_eq]
    exact h.serves hsound.serves hoffer
  · rw [h.root_eq]
    rcases h.part?_eq hsound hpart with hpart | ⟨hpart, hbegun⟩
    · obtain ⟨number, hnumber, hpart⟩ := hsound.part hpart
      exact ⟨number, Nat.lt_of_lt_of_le hnumber h.begun_le, hpart⟩
    · exact ⟨area.begun, hbegun, hpart⟩
  · -- a call that settles has its content in the temporary file, from the write on
    intro locator content part hsettling
    cases h with
    | rests => exact hsound.written hsettling
    | written hwrite =>
      cases hsettling
      exact Disk.read_write hwrite
    | _ => cases hsettling

end Task

/-! ## §3. Runs that nobody disturbs. -/

/-- Whether an event disturbs nothing: wishes are for videos, files that are
there can be deleted, and nobody else changes the disk. -/
def Event.calm (yard : Yard) : Event → Bool
  | .begin wish => isVideo wish.locator
  | .work position _ struck =>
    struck.isNone || !(yard.calls[position]?.any fun call => call.task.removes)
  | .meanwhile _ => false
  | _ => true

/-- Whether the content that an event brings fits the path it is for. -/
def Event.Brings (fit : Disk.Path → Text.Bytes → Prop) (yard : Yard) : Event → Prop
  | .begin (.stage locator content) => fit (yard.area.place locator) content
  | .work position (.ok content) _ => ∀ call, yard.calls[position]? = some call →
      ∀ locator, call.task = .fetching locator → fit (yard.area.place locator) content
  | _ => True

theorem Event.brings_true (event : Event) (yard : Yard) : event.Brings (fun _ _ => True) yard := by
  cases event with
  | begin wish => cases wish <;> exact trivial
  | work position fetched struck =>
    cases fetched with
    | error e => exact trivial
    | ok content => exact fun _ _ _ _ => trivial
  | _ => exact trivial

/-- A calm event does not hinder a removal. -/
theorem Event.struck_of_calm {yard : Yard} {event : Event} {position : Nat} {call : Call}
    (h : event.calm yard = true) (hposition : event.position? = some position)
    (hcall : yard.calls[position]? = some call) (hremoves : call.task.removes = true) :
    event.struck = none := by
  cases event with
  | work position fetched struck =>
    cases hposition
    rw [calm, hcall, Option.any_some, hremoves, Bool.not_true, Bool.or_false] at h
    exact Option.isNone_iff_eq_none.mp h
  | _ => rfl

theorem Event.fit_of_brings {fit : Disk.Path → Text.Bytes → Prop} {yard : Yard} {event : Event}
    {position : Nat} {call : Call} (h : event.Brings fit yard)
    (hposition : event.position? = some position) (hcall : yard.calls[position]? = some call)
    {content : Text.Bytes} (hfetched : event.fetched? = some content) {locator : String}
    (hfetching : call.task = .fetching locator) : fit (yard.area.place locator) content := by
  cases event with
  | work position fetched struck =>
    cases hposition
    cases fetched with
    | error e => cases hfetched
    | ok bytes =>
      cases hfetched
      exact h call hcall locator hfetching
  | _ => cases hfetched

namespace Yard

/-- Whether no event of a run disturbs, and all contents fit. -/
def Calm (fit : Disk.Path → Text.Bytes → Prop) : List Event → Yard → Prop
  | [], _ => True
  | event :: events, yard =>
    event.calm yard = true ∧ event.Brings fit yard ∧ Calm fit events (yard.handle event)

/-- Whether a yard keeps its files: calls write files of their own, held files
are there, and all others were there at the start. -/
structure Kept (fit : Disk.Path → Text.Bytes → Prop) (yard start : Yard) : Prop where
  root_eq : yard.area.root = start.area.root
  located {path : Disk.Path} {place : Disk.Place} :
    yard.disk.locate path = .ok place ↔ start.disk.locate path = .ok place
  sound {position : Nat} {call : Call} : yard.calls[position]? = some call →
    call.task.Sound fit yard.area yard.disk call.wish
  apart {position index : Nat} {call other : Call} {part : Disk.Path} :
    yard.calls[position]? = some call → yard.calls[index]? = some other →
    call.task.part? = some part → other.task.part? = some part → index = position
  held {path : Disk.Path} {holding : Holding} : yard.area.holding? path = some holding →
    holding.Sound fit yard.area.root yard.disk path
  files {place : Disk.Place} {content : Text.Bytes} :
    yard.disk.node? place = some (.file content) →
      start.disk.node? place = some (.file content) ∨ ∃ path, yard.disk.locate path = .ok place ∧
        ((yard.area.holding? path).isSome = true ∨
          ∃ call ∈ yard.calls, call.task.part? = some path)

/-- What a yard keeps even when files that are there cannot be deleted: calls
write files of their own, and held files are there. -/
structure Filled (fit : Disk.Path → Text.Bytes → Prop) (yard start : Yard) : Prop where
  root_eq : yard.area.root = start.area.root
  located {path : Disk.Path} {place : Disk.Place} :
    yard.disk.locate path = .ok place ↔ start.disk.locate path = .ok place
  sound {position : Nat} {call : Call} : yard.calls[position]? = some call →
    call.task.Sound fit yard.area yard.disk call.wish
  apart {position index : Nat} {call other : Call} {part : Disk.Path} :
    yard.calls[position]? = some call → yard.calls[index]? = some other →
    call.task.part? = some part → other.task.part? = some part → index = position
  held {path : Disk.Path} {holding : Holding} : yard.area.holding? path = some holding →
    holding.Sound fit yard.area.root yard.disk path

variable {fit : Disk.Path → Text.Bytes → Prop} {yard start : Yard}

/-- All files that are there at the start are those that were there. -/
theorem kept_opening (fit : Disk.Path → Text.Bytes → Prop) (root : Disk.Path) (budget : UInt64)
    (disk : Disk) : (opening root budget disk).Kept fit (opening root budget disk) :=
  ⟨rfl, Iff.rfl, nofun, nofun, nofun, .inl⟩

theorem Kept.filled (h : yard.Kept fit start) : yard.Filled fit start :=
  ⟨h.root_eq, h.located, h.sound, h.apart, h.held⟩

/-- A call that begins has written nothing yet, so what is held stays there. -/
theorem Filled.began (h : yard.Filled fit start) {wish : Wish}
    (hvideo : isVideo wish.locator = true) (hbrings : (Event.begin wish).Brings fit yard) :
    ({ yard with calls := yard.calls ++ [.ofWish wish] } : Yard).Filled fit start := by
  have hnew : wish.task.Sound fit yard.area yard.disk wish := by
    cases wish with
    | save locator => exact ⟨hvideo, .looking rfl, nofun, nofun⟩
    | stage locator content => exact ⟨hvideo, .reserving rfl hbrings, nofun, nofun⟩
    | free locator => exact ⟨hvideo, .freeing rfl, nofun, nofun⟩
  have hnone : wish.task.part? = none := by cases wish <;> rfl
  -- only calls that were there already have files beside their places
  have hold : ∀ {position : Nat} {call : Call},
      (yard.calls ++ [Call.ofWish wish])[position]? = some call →
        yard.calls[position]? = some call ∨ call = .ofWish wish := by
    intro position call hcall
    rw [List.getElem?_append] at hcall
    split at hcall
    · exact .inl hcall
    · exact .inr (List.mem_singleton.mp (List.mem_of_getElem? hcall))
  refine ⟨h.root_eq, h.located, fun hcall => ?_, fun hcall hother hpart hother' => ?_, h.held⟩
  · rcases hold hcall with hcall | rfl
    · exact h.sound hcall
    · exact hnew
  · rcases hold hcall with hcall | rfl
    · rcases hold hother with hother | rfl
      · exact h.apart hcall hother hpart hother'
      · cases hnone.symm.trans hother'
    · cases hnone.symm.trans hpart

theorem Kept.began (h : yard.Kept fit start) {wish : Wish} (hvideo : isVideo wish.locator = true)
    (hbrings : (Event.begin wish).Brings fit yard) :
    ({ yard with calls := yard.calls ++ [.ofWish wish] } : Yard).Kept fit start := by
  obtain ⟨hroot, hlocated, hsound, hapart, hheld⟩ := h.filled.began hvideo hbrings
  refine ⟨hroot, hlocated, hsound, hapart, hheld, fun hfile => (h.files hfile).imp id ?_⟩
  rintro ⟨path, hpath, hheld | ⟨call, hcall, hpart⟩⟩
  · exact ⟨path, hpath, .inl hheld⟩
  · exact ⟨path, hpath, .inr ⟨call, List.mem_append_left _ hcall, hpart⟩⟩

section Turn

variable {offer : Option Text.Bytes} {struck : Option Disk.Fault} {position : Nat} {call : Call}
  {task : Task} {area : Area} {disk : Disk}

/-- No call has beside its place what another has, before a turn or after. -/
theorem Filled.part?_ne (h : yard.Filled fit start) (hcall : yard.calls[position]? = some call)
    (hmoves : Task.Moves offer struck yard.area yard.disk call.task task area disk) {index : Nat}
    {other : Call} (hother : yard.calls[index]? = some other) (hne : index ≠ position)
    {part : Disk.Path} (hpart : other.task.part? = some part) :
    call.task.part? ≠ some part ∧ task.part? ≠ some part := by
  have hbefore : call.task.part? ≠ some part := fun hsame => hne (h.apart hcall hother hsame hpart)
  refine ⟨hbefore, fun hsame => ?_⟩
  rcases hmoves.part?_eq (h.sound hcall) hsame with hold | ⟨hnew, -⟩
  · exact hbefore hold
  · -- the new file has a number that no file had before
    obtain ⟨number, hnumber, hname⟩ := (h.sound hother).part hpart
    exact Nat.ne_of_lt hnumber (hname.number_eq hnew)

/-- **A turn of one call does not disturb the others.** -/
theorem Filled.sound_other (h : yard.Filled fit start) (hcall : yard.calls[position]? = some call)
    (hmoves : Task.Moves offer struck yard.area yard.disk call.task task area disk) {index : Nat}
    {other : Call} (hother : yard.calls[index]? = some other) (hne : index ≠ position) :
    other.task.Sound fit area disk other.wish := by
  have hsound := h.sound hother
  refine ⟨hsound.video, ?_, fun hpart => ?_, ?_⟩
  · rw [hmoves.place_eq]
    exact hsound.serves
  · obtain ⟨number, hnumber, hpart⟩ := hsound.part hpart
    exact ⟨number, Nat.lt_of_lt_of_le hnumber hmoves.begun_le, hmoves.root_eq ▸ hpart⟩
  · -- what the other has written is neither at a place nor beside the mover's
    intro locator content part hsettling
    have hpart : other.task.part? = some part := by rw [hsettling]; rfl
    obtain ⟨number, -, hname⟩ := hsound.part hpart
    obtain ⟨hbefore, hafter⟩ := h.part?_ne hcall hmoves hother hne hpart
    have hplace := (yard.area.isStaged_place (h.sound hcall).video).ne_part hname
    refine ((hmoves.changesOnly (h.sound hcall).serves).read_iff hname.isEntry
      (fun path hpath => hmoves.isEntry (h.sound hcall) hpath) ?_).mpr (hsound.written hsettling)
    simp only [Task.touched, List.mem_append, Option.mem_toList]
    rintro (hmem | heq | heq)
    · split at hmem
      · exact hplace (List.mem_singleton.mp hmem).symm
      · cases hmem
    · exact hbefore heq
    · exact hafter heq

theorem Filled.held_turned (h : yard.Filled fit start) (hcall : yard.calls[position]? = some call)
    (hmoves : Task.Moves offer struck yard.area yard.disk call.task task area disk)
    {path : Disk.Path} {holding : Holding} (hholding : area.holding? path = some holding) :
    holding.Sound fit area.root disk path := by
  have hsound := h.sound hcall
  rw [hmoves.root_eq]
  -- at the call's own place the step tells; the files of other places are none that it touches
  by_cases hplace : path = yard.area.place call.wish.locator
  · subst hplace
    exact hmoves.holding_sound hsound (fun _ hbefore => h.held hbefore) hholding
  · rw [hmoves.holding?_of_ne hsound.serves hplace] at hholding
    have hheld := h.held hholding
    exact hheld.of_read (hmoves.read_iff hsound hheld.staged fun heq => absurd heq hplace)

/-- So what is held is there after every turn. -/
theorem Filled.turned (h : yard.Filled fit start) (hcall : yard.calls[position]? = some call)
    (hmoves : Task.Moves offer struck yard.area yard.disk call.task task area disk)
    (hoffer : ∀ content, offer = some content → call.task = .fetching call.wish.locator →
      fit (yard.area.place call.wish.locator) content) (taken : Int) (marked : Bool) :
    Filled fit ⟨area, disk, yard.calls.set position ⟨call.wish, task, taken, marked⟩⟩ start := by
  have hsound := h.sound hcall
  refine ⟨hmoves.root_eq.trans h.root_eq,
    (hmoves.changesOnly hsound.serves).locate_iff.trans h.located, fun hother => ?_,
    fun hone hother hpart hpart' => ?_, h.held_turned hcall hmoves⟩
  · -- the one who moves is sound by the step, all others since it spares them
    rcases getElem?_set_cases hother with ⟨rfl, rfl⟩ | ⟨hne, hother⟩
    · exact hmoves.sound hsound hoffer
    · exact h.sound_other hcall hmoves hother hne
  · rcases getElem?_set_cases hone with ⟨rfl, rfl⟩ | ⟨hne, hone'⟩
    · rcases getElem?_set_cases hother with ⟨rfl, -⟩ | ⟨hne, hother'⟩
      · rfl
      · exact absurd hpart (h.part?_ne hcall hmoves hother' hne hpart').2
    · rcases getElem?_set_cases hother with ⟨rfl, rfl⟩ | ⟨-, hother'⟩
      · exact absurd hpart' (h.part?_ne hcall hmoves hone' hne hpart).2
      · exact h.apart hone' hother' hpart hpart'

/-- **And every file that is there is held, or being written, or was there at
the start.** -/
theorem Kept.turned (h : yard.Kept fit start) (hcall : yard.calls[position]? = some call)
    (hmoves : Task.Moves offer struck yard.area yard.disk call.task task area disk)
    (hcalm : call.task.removes = true → struck = none)
    (hoffer : ∀ content, offer = some content → call.task = .fetching call.wish.locator →
      fit (yard.area.place call.wish.locator) content) (taken : Int) (marked : Bool) :
    Kept fit ⟨area, disk, yard.calls.set position ⟨call.wish, task, taken, marked⟩⟩ start := by
  obtain ⟨hroot, hlocated, hsounds, hapart, hheld⟩ :=
    h.filled.turned hcall hmoves hoffer taken marked
  have hsound := h.sound hcall
  refine ⟨hroot, hlocated, hsounds, hapart, hheld, ?_⟩
  -- a file that another call or a holding had before, it has still
  intro place content hfile
  have hlocate : ∀ {path : Disk.Path}, yard.disk.locate path = .ok place →
      disk.locate path = .ok place := (hmoves.changesOnly hsound.serves).locate_iff.mpr
  have hmem : Call.mk call.wish task taken marked ∈
      yard.calls.set position ⟨call.wish, task, taken, marked⟩ :=
    List.mem_set (List.getElem?_eq_some_iff.mp hcall).1 _
  rcases hmoves.file_cases hsound hcalm hfile with
    ⟨hbefore, hstill⟩ | ⟨path, hpath, hheld | hpart⟩
  · refine (h.files hbefore).imp id ?_
    rintro ⟨path, hpath, hheld | ⟨other, hother, hpart⟩⟩
    · exact ⟨path, hlocate hpath, .inl ((hstill path hpath).1 hheld)⟩
    · rcases mem_set_or_eq hcall hother _ with hother | rfl
      · exact ⟨path, hlocate hpath, .inr ⟨other, hother, hpart⟩⟩
      · exact ⟨path, hlocate hpath, .inr ⟨_, hmem, (hstill path hpath).2 hpart⟩⟩
  · exact .inr ⟨path, hlocate hpath, .inl hheld⟩
  · exact .inr ⟨path, hlocate hpath, .inr ⟨_, hmem, hpart⟩⟩

end Turn

/-- Every calm event keeps this. -/
theorem Kept.handle (h : yard.Kept fit start) {event : Event} (hcalm : event.calm yard = true)
    (hbrings : event.Brings fit yard) : (yard.handle event).Kept fit start := by
  have hmoves := yard.moves_handle event
  generalize yard.handle event = next at hmoves
  cases hmoves with
  | idle => exact h
  | began wish => exact h.began hcalm hbrings
  | disturbed disk => cases hcalm
  | turned hposition hcall hmoves =>
    exact h.turned hcall hmoves (event.struck_of_calm hcalm hposition hcall)
      (fun content hfetched hfetching =>
        event.fit_of_brings hbrings hposition hcall hfetched hfetching) _ _

theorem Kept.after (h : yard.Kept fit start) {events : List Event} (hcalm : yard.Calm fit events) :
    (yard.after events).Kept fit start := by
  induction events generalizing yard with
  | nil => exact h
  | cons event events ih =>
    obtain ⟨hevent, hbrings, hrest⟩ := hcalm
    exact ih (h.handle hevent hbrings) hrest

end Yard

end BoardRelay.Staging
