/-
  BoardRelay.Proofs.Staging.Calls
  ────────────────────────────────
  Many calls on one staging area.  Each is a task that makes its steps when
  its turn comes; any order of turns is a list of events, and so are the
  faults that strike a step, the end of someone's patience and what others
  do to the disk.  A party that makes several calls one after another is as
  many calls, the next begun when the one before is done.

  All that a turn can do is a rule of a relation (`Task.Moves`), and so is
  all that an event can do (`Yard.Moves`).
-/
import BoardRelay.Staging.Task

namespace BoardRelay.Staging

/-! ## §1. Calls. -/

/-- What is asked of a staging area. -/
inductive Wish where
  | save (locator : String)
  | stage (locator : String) (content : Text.Bytes)
  | free (locator : String)
  deriving DecidableEq

namespace Wish

/-- The locator that a wish is about. -/
def locator : Wish → String
  | .save locator => locator
  | .stage locator _ => locator
  | .free locator => locator

/-- Whether a wish is to hold a file, rather than to let one go. -/
def acquires : Wish → Bool
  | .free _ => false
  | _ => true

/-- The task of a wish before its first step. -/
def task : Wish → Task
  | .save locator => .looking locator
  | .stage locator content => .reserving locator content
  | .free locator => .freeing locator

end Wish

/-- A call on a staging area, with what its own steps have done. -/
structure Call where
  wish : Wish
  task : Task
  /-- The bytes that its steps have taken from the budget, less those that
  they have given back. -/
  taken : Int
  /-- Whether one of its steps has changed the holdings. -/
  marked : Bool
  deriving DecidableEq

namespace Call

/-- A call that has made no step. -/
def ofWish (wish : Wish) : Call :=
  ⟨wish, wish.task, 0, false⟩

/-- A call after a step of it. -/
def stepped (task : Task) (before after : Area) (call : Call) : Call :=
  { call with
    task
    taken := call.taken + (after.ledger.loaded.toNat - before.ledger.loaded.toNat)
    marked := call.marked || after.holdings != before.holdings }

end Call

/-- A write that a fault ends when some bytes are written. -/
def Task.breakOff (written : Nat) (fault : Disk.Fault) (task : Task) (area : Area)
    (disk : Disk) : Task × Area × Disk :=
  match task with
  | .writing locator content =>
    let (part, area) := area.beginFile (area.place locator)
    let left := (disk.write part (content.take written)).toOption.getD disk
    (.givingBack (sizeOf content) (some part) (.error (.disk fault)), area, left)
  | other => (other, area, disk)

/-! ## §2. Events. -/

/-- A staging area with the calls on it. -/
structure Yard where
  area : Area
  disk : Disk
  calls : List Call

/-- What may happen at a staging area. -/
inductive Event where
  | begin (wish : Wish)
  /-- A step of the call at a position, with what it fetches, should it fetch,
  and the fault that strikes what it does on disk. -/
  | work (position : Nat) (fetched : Except Http.Error Text.Bytes) (struck : Option Disk.Fault)
  | breakOff (position written : Nat) (fault : Disk.Fault)
  /-- The call at a position waits for space no longer. -/
  | giveUp (position : Nat)
  /-- Others change the disk. -/
  | meanwhile (disk : Disk)

/-- The content that a step fetches, should it fetch. -/
def Event.fetched? : Event → Option Text.Bytes
  | .work _ fetched _ => fetched.toOption
  | _ => none

/-- The fault that strikes a step. -/
def Event.struck : Event → Option Disk.Fault
  | .work _ _ struck => struck
  | _ => none

/-- The position of the call whose turn it is. -/
def Event.position? : Event → Option Nat
  | .work position _ _ => some position
  | .breakOff position _ _ => some position
  | .giveUp position => some position
  | _ => none

namespace Yard

/-- An area that nobody has called on yet. -/
def opening (root : Disk.Path) (budget : UInt64) (disk : Disk) : Yard :=
  ⟨Area.empty root budget, disk, []⟩

/-- The call at a position takes its turn. -/
def turn (position : Nat) (does : Task → Area → Disk → Task × Area × Disk) (yard : Yard) : Yard :=
  match yard.calls[position]? with
  | none => yard
  | some call =>
    let (task, area, disk) := does call.task yard.area yard.disk
    ⟨area, disk, yard.calls.set position (call.stepped task yard.area area)⟩

/-- What an event makes of a yard. -/
def handle (yard : Yard) : Event → Yard
  | .begin wish => { yard with calls := yard.calls ++ [.ofWish wish] }
  | .work position fetched struck => yard.turn position (Task.step (fun _ => fetched) struck)
  | .breakOff position written fault => yard.turn position (Task.breakOff written fault)
  | .giveUp position => yard.turn position fun task area disk => (task.giveUp, area, disk)
  | .meanwhile disk => { yard with disk }

/-- The yard after some events. -/
def after (events : List Event) (yard : Yard) : Yard :=
  events.foldl handle yard

end Yard

/-! ## §3. All that a step can do. -/

/-- What a removal that a fault may strike leaves of a disk. -/
inductive Removal (struck : Option Disk.Fault) (disk : Disk) (path : Disk.Path) : Disk → Prop where
  | gone {left : Disk} (h : disk.remove path = .ok left) : Removal struck disk path left
  | kept (h : struck = none → ∃ fault, disk.remove path = .error fault) :
    Removal struck disk path disk

/-- Where a file is written before it is moved to its place. -/
def Area.part (locator : String) (area : Area) : Disk.Path :=
  (area.beginFile (area.place locator)).1

/-- The area once a file is begun. -/
def Area.beginning (locator : String) (area : Area) : Area :=
  (area.beginFile (area.place locator)).2

theorem Area.beginFile_place (locator : String) (area : Area) :
    area.beginFile (area.place locator) = (area.part locator, area.beginning locator) := by
  rw [part, beginning]

namespace Task

/-- What a task can become in one turn, with the area and the disk after it,
when it is offered a content to fetch and a fault strikes it. -/
inductive Moves (offer : Option Text.Bytes) (struck : Option Disk.Fault) (area : Area)
    (disk : Disk) : Task → Task → Area → Disk → Prop where
  /-- Nothing to do, or nothing that can be done now. -/
  | rests (task : Task) : Moves offer struck area disk task task area disk
  | found {locator : String} {holding : Holding}
      (hholding : area.holding? (area.place locator) = some holding) :
    Moves offer struck area disk (.looking locator) (.done (.ok (area.place locator)))
      (area.withHolding (area.place locator) { holding with holders := holding.holders + 1 }) disk
  | missing {locator : String} (hnone : area.holding? (area.place locator) = none) :
    Moves offer struck area disk (.looking locator) (.fetching locator) area disk
  | unfetched {locator : String} {e : Error} :
    Moves offer struck area disk (.fetching locator) (.done (.error e)) area disk
  | fetched {locator : String} {content : Text.Bytes} (hoffer : offer = some content) :
    Moves offer struck area disk (.fetching locator) (.reserving locator content) area disk
  /-- Too large, or out of patience. -/
  | refused {locator : String} {content : Text.Bytes} {e : Error} :
    Moves offer struck area disk (.reserving locator content) (.done (.error e)) area disk
  | reserved {locator : String} {content : Text.Bytes}
      (hfits : area.ledger.fits (sizeOf content) = true) :
    Moves offer struck area disk (.reserving locator content) (.writing locator content)
      (area.take (sizeOf content)) disk
  | unwritten {locator : String} {content : Text.Bytes} {e : Error} {left : Disk}
      (hleft : left = disk ∨ ∃ written, disk.write (area.part locator) written = .ok left) :
    Moves offer struck area disk (.writing locator content)
      (.givingBack (sizeOf content) (some (area.part locator)) (.error e))
      (area.beginning locator) left
  | written {locator : String} {content : Text.Bytes} {left : Disk}
      (hwrite : disk.write (area.part locator) content = .ok left) :
    Moves offer struck area disk (.writing locator content)
      (.settling locator content (area.part locator)) (area.beginning locator) left
  | unmoved {locator : String} {content : Text.Bytes} {part : Disk.Path} {e : Error} :
    Moves offer struck area disk (.settling locator content part)
      (.givingBack (sizeOf content) (some part) (.error e)) area disk
  /-- Another copy was there already. -/
  | shared {locator : String} {content : Text.Bytes} {part : Disk.Path} {holding : Holding}
      {left : Disk} (hrename : disk.rename part (area.place locator) = .ok left)
      (hholding : area.holding? (area.place locator) = some holding) :
    Moves offer struck area disk (.settling locator content part)
      (.givingBack (sizeOf content) none (.ok (area.place locator)))
      (area.withHolding (area.place locator) { holding with holders := holding.holders + 1 }) left
  | settled {locator : String} {content : Text.Bytes} {part : Disk.Path} {left : Disk}
      (hrename : disk.rename part (area.place locator) = .ok left)
      (hnone : area.holding? (area.place locator) = none) :
    Moves offer struck area disk (.settling locator content part) (.done (.ok (area.place locator)))
      (area.withHolding (area.place locator) ⟨sizeOf content, 1⟩) left
  | gaveBack {size : UInt64} {result : Result} :
    Moves offer struck area disk (.givingBack size none result) (.done result)
      (area.giveBack size) disk
  | owesClearing {size : UInt64} {litter : Disk.Path} {result : Result} :
    Moves offer struck area disk (.givingBack size (some litter) result) (.clearing litter result)
      (area.giveBack size) disk
  | cleared {litter : Disk.Path} {result : Result} {left : Disk}
      (hleft : Removal struck disk litter left) :
    Moves offer struck area disk (.clearing litter result) (.done result) area left
  /-- The file was not held, or is none that is staged. -/
  | discarded {locator : String} {result : Result} {left : Disk}
      (hunheld : isVideo locator = true → area.holding? (area.place locator) = none)
      (hleft : Removal struck disk (area.place locator) left) :
    Moves offer struck area disk (.freeing locator) (.done result) area left
  | left {locator : String} {holding : Holding} (hvideo : isVideo locator = true)
      (hholding : area.holding? (area.place locator) = some holding)
      (hothers : 1 < holding.holders) :
    Moves offer struck area disk (.freeing locator) (.done (.ok (area.place locator)))
      (area.withHolding (area.place locator) { holding with holders := holding.holders - 1 }) disk
  | leftLast {locator : String} {holding : Holding} {result : Result} {left : Disk}
      (hvideo : isVideo locator = true)
      (hholding : area.holding? (area.place locator) = some holding)
      (hlast : holding.holders ≤ 1) (hleft : Removal struck disk (area.place locator) left) :
    Moves offer struck area disk (.freeing locator) (.givingBack holding.size none result)
      (area.withoutHolding (area.place locator)) left

/-- Reserving turns a size down, takes it, or goes on waiting. -/
theorem moves_reserve (offer : Option Text.Bytes) (struck : Option Disk.Fault) (locator : String)
    (content : Text.Bytes) (area : Area) (disk : Disk) :
    Moves offer struck area disk (.reserving locator content) (reserve locator content area).1
      (reserve locator content area).2 disk := by
  unfold reserve
  cases area.ledger.checkSize (sizeOf content) with
  | error e => exact .refused
  | ok =>
    cases hfits : area.ledger.fits (sizeOf content) with
    | true => exact .reserved hfits
    | false => exact .rests _

/-- A written file is moved to its place, or its size is given back. -/
theorem moves_settle (offer : Option Text.Bytes) (struck : Option Disk.Fault) (locator : String)
    (content : Text.Bytes) (part : Disk.Path) (area : Area) (disk : Disk) :
    Moves offer struck area disk (.settling locator content part)
      (settle struck locator content part area disk).1
      (settle struck locator content part area disk).2.1
      (settle struck locator content part area disk).2.2 := by
  unfold settle
  -- a fault, a rename that is refused, and two ways to succeed: a new holding or one already there
  cases struck with
  | some fault => exact .unmoved
  | none =>
    cases hrename : disk.rename part (area.place locator) with
    | error fault => simpa only [attempt, hrename] using .unmoved
    | ok left =>
      cases hholding : area.holding? (area.place locator) with
      | none =>
        simpa only [attempt, hrename, Area.hold?, hholding, Option.map_none] using
          .settled hrename hholding
      | some holding =>
        simpa only [attempt, hrename, Area.hold?, hholding, Option.map_some] using
          .shared hrename hholding

/-- A removal leaves the disk after it, or the disk as it was. -/
theorem removal_attempt (struck : Option Disk.Fault) (disk : Disk) (path : Disk.Path) :
    Removal struck disk path
      (match attempt struck (disk.remove path) with
        | .ok left => left
        | .error _ => disk) := by
  cases struck with
  | some fault => exact .kept nofun
  | none =>
    cases hremove : disk.remove path with
    | error fault => exact .kept fun _ => ⟨fault, hremove⟩
    | ok left => exact .gone hremove

/-- Letting a file go leaves it to others, or deletes it with its last holder. -/
theorem moves_free (offer : Option Text.Bytes) (struck : Option Disk.Fault) (locator : String)
    (area : Area) (disk : Disk) :
    Moves offer struck area disk (.freeing locator) (free struck locator area disk).1
      (free struck locator area disk).2.1 (free struck locator area disk).2.2 := by
  have hremoval := removal_attempt struck disk (area.place locator)
  unfold free
  dsimp only
  cases hvideo : isVideo locator with
  | false => exact .discarded (fun h => by rw [hvideo] at h; cases h) hremoval
  | true =>
    cases hholding : area.holding? (area.place locator) with
    | none => exact .discarded (fun _ => hholding) hremoval
    | some holding =>
      -- only the last holder deletes the file and gives its size back
      by_cases hothers : 1 < holding.holders
      · simpa only [Bool.not_true, Bool.false_eq_true, if_false, if_pos hothers] using
          .left hvideo hholding hothers
      · simpa only [Bool.not_true, Bool.false_eq_true, if_false, if_neg hothers] using
          .leftLast hvideo hholding (Nat.not_lt.mp hothers) hremoval

/-- **Every step of a task is one of the moves.** -/
theorem moves_step (fetched : Except Http.Error Text.Bytes) (struck : Option Disk.Fault)
    (task : Task) (area : Area) (disk : Disk) :
    Moves fetched.toOption struck area disk task (step (fun _ => fetched) struck task area disk).1
      (step (fun _ => fetched) struck task area disk).2.1
      (step (fun _ => fetched) struck task area disk).2.2 := by
  -- one stage of a task after the other, each with its own ways out
  cases task with
  | looking locator =>
    cases hholding : area.holding? (area.place locator) with
    | none =>
      simpa only [step, Area.hold?, hholding, Option.map_none] using .missing hholding
    | some holding =>
      simpa only [step, Area.hold?, hholding, Option.map_some] using .found hholding
  | fetching locator =>
    simp only [step]
    cases fetched with
    | error e => exact .unfetched
    | ok content => exact .fetched rfl
  | reserving locator content => exact moves_reserve _ struck locator content area disk
  | writing locator content =>
    simp only [step, Area.beginFile_place]
    cases struck with
    | some fault => exact .unwritten (.inl rfl)
    | none =>
      simp only [attempt]
      cases hwrite : disk.write (area.part locator) content with
      | error fault => exact .unwritten (.inl rfl)
      | ok left => exact .written hwrite
  | settling locator content part => exact moves_settle _ struck locator content part area disk
  | givingBack size litter result =>
    cases litter with
    | none => exact .gaveBack
    | some litter => exact .owesClearing
  | clearing litter result =>
    have hremoval := removal_attempt struck disk litter
    simp only [step]
    cases hattempt : attempt struck (disk.remove litter) with
    | error fault => exact .cleared (by simpa only [hattempt] using hremoval)
    | ok left => exact .cleared (by simpa only [hattempt] using hremoval)
  | freeing locator => exact moves_free _ struck locator area disk
  | done result => exact .rests _

/-- A write that breaks off is a move that fails, whatever it has left behind. -/
theorem moves_breakOff (written : Nat) (fault : Disk.Fault) (task : Task) (area : Area)
    (disk : Disk) :
    Moves none none area disk task (breakOff written fault task area disk).1
      (breakOff written fault task area disk).2.1
      (breakOff written fault task area disk).2.2 := by
  cases task with
  | writing locator content =>
    simp only [breakOff, Area.beginFile_place]
    cases hwrite : disk.write (area.part locator) (content.take written) with
    | error fault => exact .unwritten (.inl rfl)
    | ok left => exact .unwritten (.inr ⟨_, hwrite⟩)
  | _ => exact .rests _

theorem moves_giveUp (task : Task) (area : Area) (disk : Disk) :
    Moves none none area disk task task.giveUp area disk := by
  cases task with
  | reserving locator content => exact .refused
  | _ => exact .rests _

end Task

/-! ## §4. All that an event can do. -/

namespace Yard

/-- What a yard can become by an event. -/
inductive Moves (yard : Yard) : Event → Yard → Prop where
  /-- It was nobody's turn. -/
  | idle (event : Event) : Moves yard event yard
  | began (wish : Wish) :
    Moves yard (.begin wish) { yard with calls := yard.calls ++ [.ofWish wish] }
  | disturbed (disk : Disk) : Moves yard (.meanwhile disk) { yard with disk }
  | turned {event : Event} {position : Nat} {call : Call} {task : Task} {area : Area} {disk : Disk}
      (hposition : event.position? = some position) (hcall : yard.calls[position]? = some call)
      (hmoves : Task.Moves event.fetched? event.struck yard.area yard.disk call.task task area
        disk) :
    Moves yard event ⟨area, disk, yard.calls.set position (call.stepped task yard.area area)⟩

theorem moves_turn (yard : Yard) (event : Event) {position : Nat}
    (does : Task → Area → Disk → Task × Area × Disk) (hposition : event.position? = some position)
    (hmoves : ∀ task area disk, Task.Moves event.fetched? event.struck area disk task
      (does task area disk).1 (does task area disk).2.1 (does task area disk).2.2) :
    yard.Moves event (yard.turn position does) := by
  unfold turn
  cases hcall : yard.calls[position]? with
  | none => exact .idle event
  | some call => exact .turned hposition hcall (hmoves call.task yard.area yard.disk)

theorem moves_handle (yard : Yard) (event : Event) : yard.Moves event (yard.handle event) := by
  cases event with
  | begin wish => exact .began wish
  | work position fetched struck =>
    exact moves_turn yard (.work position fetched struck) _ rfl (Task.moves_step fetched struck)
  | breakOff position written fault =>
    exact moves_turn yard (.breakOff position written fault) _ rfl
      (Task.moves_breakOff written fault)
  | giveUp position =>
    exact moves_turn yard (.giveUp position) (fun task area disk => (task.giveUp, area, disk)) rfl
      Task.moves_giveUp
  | meanwhile disk => exact .disturbed disk

end Yard

end BoardRelay.Staging
