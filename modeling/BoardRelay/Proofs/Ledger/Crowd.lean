/-
  BoardRelay.Proofs.Ledger.Crowd
  ────────────────────────────────
  Many calls on one ledger, each of which takes its atomic steps when its turn
  comes: someone who wants space registers, looks, and parks if there is none;
  someone who has space gives it back and then announces it.  Any order of
  turns is a list of happenings, and so are the ends of waiters' patience.

  Nobody sleeps through a release: whoever is parked and would fit has been
  notified, or is about to be by a release that has given its bytes back
  already (`no_wakeup_lost`).  This stands on two orders of steps, registering
  before the look (`Room.alert_attempt`) and giving back before the
  announcement (`Room.alert_subtract`).
-/
import BoardRelay.Proofs.Ledger.Waiting
import BoardRelay.Proofs.Lists

namespace BoardRelay.Ledger

/-! ## §1. Calls. -/

/-- Where a call is. -/
inductive Call where
  /-- Someone who wants space, and has not registered. -/
  | entering (size : UInt64)
  /-- Registered, about to look. -/
  | looking (size : UInt64)
  /-- Has looked in vain, about to park. -/
  | resting (size : UInt64)
  | parked (size : UInt64)
  /-- Notified, about to register anew. -/
  | woken (size : UInt64)
  /-- Someone who is about to give space back. -/
  | returning (size : UInt64)
  /-- Has given space back, and notified nobody yet. -/
  | announcing
  | ended (result : Except Error Unit)

namespace Call

/-- Whether a call has a release to announce. -/
def isAnnouncing : Call → Bool
  | .announcing => true
  | _ => false

/-- The next atomic step of the call of a number. -/
def step (number : Nat) (room : Room) : Call → Call × Room
  | .entering size =>
    match room.ledger.checkSize size with
    | .error e => (.ended (.error e), room)
    | .ok () => (.looking size, room.register number size)
  | .looking size =>
    match room.attempt number with
    | (true, room) => (.ended (.ok ()), room)
    | (false, room) => (.resting size, room)
  | .resting size => (.parked size, room)
  | .parked size =>
    if (room.waiter? number).any (·.notified) then (.woken size, room) else (.parked size, room)
  | .woken size => (.looking size, room.wake number)
  | .returning size => (.announcing, room.subtract size)
  | .announcing => (.ended (.ok ()), room.announce)
  | .ended result => (.ended result, room)

/-- The end of a waiter's patience, which is only noticed while parked. -/
def expire (number : Nat) (room : Room) : Call → Call × Room
  | .parked size => (.ended (.error (.quotaExhausted size)), room.leave number)
  | other => (other, room)

end Call

/-- Something that happens to the calls on a ledger. -/
inductive Happening where
  | reserves (size : UInt64)
  | releases (size : UInt64)
  /-- The call of a number takes its next step. -/
  | proceeds (number : Nat)
  /-- The patience of a call ends. -/
  | expires (number : Nat)

/-- A room and the calls on its ledger, by number. -/
structure Crowd where
  room : Room
  calls : List Call

namespace Crowd

/-- Nobody has called yet. -/
def opening (ledger : Ledger) : Crowd :=
  ⟨Room.empty ledger, []⟩

/-- Lets one call do something. -/
def turn (act : Nat → Room → Call → Call × Room) (number : Nat) (crowd : Crowd) : Crowd :=
  match crowd.calls[number]? with
  | none => crowd
  | some call =>
    let (call, room) := act number crowd.room call
    ⟨room, crowd.calls.set number call⟩

def happens (crowd : Crowd) : Happening → Crowd
  | .reserves size => { crowd with calls := crowd.calls ++ [.entering size] }
  | .releases size => { crowd with calls := crowd.calls ++ [.returning size] }
  | .proceeds number => crowd.turn Call.step number
  | .expires number => crowd.turn Call.expire number

/-- The calls after all that has happened. -/
def after (happenings : List Happening) (crowd : Crowd) : Crowd :=
  happenings.foldl happens crowd

end Crowd

/-! ## §2. The waiter of each number. -/

namespace Room

variable {room : Room} {number other : Nat}

theorem number_of_waiter? {w : Waiter} (h : room.waiter? number = some w) : w.number = number := by
  simpa using List.find?_some h

/-- Who leaves is no longer among the waiters; all others are. -/
theorem waiter?_leave :
    (room.leave number).waiter? other = if other = number then none else room.waiter? other := by
  rw [leave, waiter?, others, List.find?_filter]
  -- a number finds nobody among the others, and another number finds whom it found before
  split
  · next heq =>
    subst heq
    rw [List.find?_eq_none]
    simp
  · next hne =>
    rw [waiter?]
    congr 1
    funext w
    by_cases heq : w.number = other
    · simp [heq, hne]
    · simp [heq]

/-- Who registers is a waiter who is neither parked nor notified, whatever they
were before. -/
theorem waiter?_register {size : UInt64} : (room.register number size).waiter? other =
    if other = number then some ⟨number, size, false, false⟩ else room.waiter? other := by
  have hleave : (room.leave number).waiter? other =
      if other = number then none else room.waiter? other := waiter?_leave
  rw [leave, waiter?] at hleave
  rw [register, waiter?, List.find?_append, hleave, List.find?_singleton]
  by_cases heq : other = number
  · simp [heq]
  · simp [heq, Ne.symm heq]

/-- Every waiter is notified of a release, and none comes or goes. -/
theorem waiter?_announce : room.announce.waiter? other = (room.waiter? other).map Waiter.rouse := by
  rw [announce, waiter?, List.find?_map]
  rfl

/-- The room after a waiter of a number has found too little space. -/
def park (number : Nat) (room : Room) : Room :=
  { room with
    waiters := room.waiters.map fun w =>
      if w.number = number then { w with parked := true } else w }

/-- Who parks stays notified, if they were. -/
theorem waiter?_park : (room.park number).waiter? other =
    (room.waiter? other).map fun w =>
      if w.number = number then { w with parked := true } else w := by
  have hnumber : (fun w : Waiter => decide (w.number = other)) ∘
      (fun w => if w.number = number then { w with parked := true } else w) =
        fun w => decide (w.number = other) := by
    funext w
    by_cases heq : w.number = number <;> simp [heq]
  rw [park, waiter?, List.find?_map, hnumber]
  rfl

/-- One look of a waiter: the space is taken, or there is not enough. -/
theorem attempt_cases {w : Waiter} (hw : room.waiter? number = some w) :
    (room.ledger.fits w.size = true ∧ room.attempt number =
      (true, { room.leave number with ledger := room.ledger.take w.size })) ∨
    (room.ledger.fits w.size = false ∧ ∃ next, room.attempt number = (false, next) ∧
      next.ledger = room.ledger ∧ next.unannounced = room.unannounced ∧
      next.waiter? number = some { w with parked := true } ∧
      ∀ other, other ≠ number → next.waiter? other = room.waiter? other) := by
  cases hfits : room.ledger.fits w.size with
  | true =>
    refine .inl ⟨rfl, ?_⟩
    rw [attempt, hw]
    exact if_pos hfits
  | false =>
    -- a waiter who does not fit is registered anew, in the same step as the look
    have hattempt : room.attempt number = (false, room.park number) := by
      rw [attempt, hw]
      exact if_neg (Bool.eq_false_iff.mp hfits)
    refine .inr ⟨rfl, _, hattempt, rfl, rfl, ?_, fun other hne => ?_⟩
    · rw [waiter?_park, hw, Option.map_some]
      exact congrArg some (if_pos (number_of_waiter? hw))
    · rw [waiter?_park]
      cases hother : room.waiter? other with
      | none => rfl
      | some w' => exact congrArg some (if_neg (number_of_waiter? hother ▸ hne))

/-! ## §3. One step. -/

/-- Nobody sleeps through a release: where someone is parked, has not been
notified and would fit, a release is still to be announced. -/
def Alert (room : Room) : Prop :=
  ∀ number w, room.waiter? number = some w → w.parked = true → w.notified = false →
    room.ledger.fits w.size = true → 0 < room.unannounced

/-- What a step of one call leaves to the others: their waiters, who may have
been notified, and the budget. -/
structure Spares (number : Nat) (room next : Room) : Prop where
  others {other : Nat} : other ≠ number → next.waiter? other = room.waiter? other ∨
    next.waiter? other = (room.waiter? other).map Waiter.rouse
  budget : next.ledger.budget = room.ledger.budget

/-- Whoever leaves disturbs nobody. -/
theorem alert_leave (h : room.Alert) : (room.leave number).Alert := by
  intro other w hw
  rw [waiter?_leave] at hw
  split at hw
  · cases hw
  · exact h other w hw

/-- Who has just registered is not parked, so does not sleep. -/
theorem alert_register (h : room.Alert) (size : UInt64) : (room.register number size).Alert := by
  intro other w hw hparked
  rw [waiter?_register] at hw
  split at hw
  · cases hw
    cases hparked
  · exact h other w hw hparked

/-- **Giving space back before the announcement** leaves a release to be
announced, so nobody sleeps through it. -/
theorem alert_subtract (room : Room) (size : UInt64) : (room.subtract size).Alert :=
  fun _ _ _ _ _ _ => Nat.succ_pos _

/-- Once it is announced, all have been notified. -/
theorem alert_announce (room : Room) : room.announce.Alert := by
  intro other w hw _ hnotified
  rw [waiter?_announce] at hw
  obtain ⟨before, -, rfl⟩ := Option.map_eq_some_iff.mp hw
  cases hnotified

/-- Whoever looks and parks would not fit, and whoever takes space leaves less
to the others. -/
theorem alert_attempt {w : Waiter} (h : room.Alert) (hw : room.waiter? number = some w) :
    (room.attempt number).2.Alert := by
  -- there is space and the waiter leaves with it, or there is none and they park
  rcases attempt_cases hw with ⟨hfits, hattempt⟩ | ⟨hfull, next, hattempt, hledger, hcount, hself,
    hothers⟩
  · rw [hattempt]
    intro other w' hw' hparked hnotified hfits'
    have hbefore : room.ledger.fits w'.size = true := by
      by_contra hnot
      rw [Diary.fits_take hfits (Bool.eq_false_iff.mpr hnot)] at hfits'
      cases hfits'
    have hleft : (room.leave number).Alert := alert_leave h
    exact hleft other w' hw' hparked hnotified hbefore
  · rw [hattempt]
    intro other w' hw' hparked hnotified hfits'
    rw [hledger] at hfits'
    rw [hcount]
    by_cases heq : other = number
    · subst heq
      cases hself.symm.trans hw'
      rw [hfull] at hfits'
      cases hfits'
    · rw [hothers other heq] at hw'
      exact h other w' hw' hparked hnotified hfits'

theorem spares_leave (number : Nat) (room : Room) : Spares number room (room.leave number) :=
  ⟨fun hne => .inl (by rw [waiter?_leave, if_neg hne]), rfl⟩

theorem spares_register (number : Nat) (size : UInt64) (room : Room) :
    Spares number room (room.register number size) :=
  ⟨fun hne => .inl (by rw [waiter?_register, if_neg hne]), rfl⟩

/-- A look leaves all other waiters as they are. -/
theorem spares_attempt {w : Waiter} (hw : room.waiter? number = some w) :
    Spares number room (room.attempt number).2 := by
  rcases attempt_cases hw with ⟨-, hattempt⟩ | ⟨-, next, hattempt, hledger, -, -, hothers⟩
  · rw [hattempt]
    exact ⟨(spares_leave number room).others, rfl⟩
  · rw [hattempt]
    exact ⟨fun hne => .inl (hothers _ hne), congrArg Ledger.budget hledger⟩

theorem spares_announce (number : Nat) (room : Room) : Spares number room room.announce :=
  ⟨fun _ => .inr waiter?_announce, rfl⟩

end Room

/-! ## §4. Every call. -/

/-- Whether a room has the waiter of a call. -/
def Call.Known (number : Nat) (room : Room) : Call → Prop
  | .looking size => ∃ notified, room.waiter? number = some ⟨number, size, false, notified⟩
  | .resting size | .parked size =>
    ∃ notified, room.waiter? number = some ⟨number, size, true, notified⟩
  | .woken size => room.waiter? number = some ⟨number, size, true, true⟩
  | _ => True

/-- A waiter stays known while others take their steps. -/
theorem Call.Known.spared {number other : Nat} {room next : Room} {call : Call}
    (h : call.Known number room) (hspares : Room.Spares other room next) (hne : number ≠ other) :
    call.Known number next := by
  -- another's step changes a waiter at most by notifying them
  have hseen {size : UInt64} {parked notified : Bool}
      (hw : room.waiter? number = some ⟨number, size, parked, notified⟩) :
      ∃ told, (notified = true → told = true) ∧
        next.waiter? number = some ⟨number, size, parked, told⟩ := by
    rcases hspares.others hne with heq | heq
    · exact ⟨notified, id, heq.trans hw⟩
    · exact ⟨true, fun _ => rfl, by rw [heq, hw]; rfl⟩
  cases call with
  | looking size | resting size | parked size =>
    obtain ⟨notified, hw⟩ := h
    obtain ⟨told, -, hnext⟩ := hseen hw
    exact ⟨told, hnext⟩
  | woken size =>
    obtain ⟨told, htold, hnext⟩ := hseen h
    rwa [htold rfl] at hnext
  | entering size | returning size | announcing | ended result => trivial

/-- What is kept in a crowd: the room has the waiters of the calls and counts
the releases to be announced, and nobody sleeps through one. -/
structure Crowd.Sound (budget : UInt64) (crowd : Crowd) : Prop where
  known {number : Nat} {call : Call} : crowd.calls[number]? = some call →
    call.Known number crowd.room
  count : crowd.room.unannounced = crowd.calls.countP Call.isAnnouncing
  alert : crowd.room.Alert
  budget : crowd.room.ledger.budget = budget

/-- What an act of one call keeps. -/
structure Call.Keeps (number : Nat) (room : Room) (before : Call) (after : Call × Room) : Prop where
  known : after.1.Known number after.2
  alert : after.2.Alert
  spares : Room.Spares number room after.2
  /-- The count of releases goes with the call. -/
  count : after.2.unannounced + before.isAnnouncing.toNat =
    room.unannounced + after.1.isAnnouncing.toNat

theorem Call.keeps_self {number : Nat} {room : Room} {before after : Call} (halert : room.Alert)
    (hknown : after.Known number room) (hcount : before.isAnnouncing = after.isAnnouncing) :
    before.Keeps number room (after, room) :=
  ⟨hknown, halert, ⟨fun _ => .inl rfl, rfl⟩, by rw [hcount]⟩

/-- Every atomic step of a call keeps it known and everybody alert. -/
theorem Call.keeps_step {number : Nat} {room : Room} (halert : room.Alert) {call : Call}
    (hknown : call.Known number room)
    (hcount : call.isAnnouncing = true → 0 < room.unannounced) :
    call.Keeps number room (call.step number room) := by
  cases call with
  | entering size =>
    rw [step]
    split
    · exact keeps_self halert trivial rfl
    · exact ⟨⟨false, by rw [Room.waiter?_register, if_pos rfl]⟩, Room.alert_register halert size,
        Room.spares_register number size room, rfl⟩
  | looking size =>
    obtain ⟨notified, hw⟩ := hknown
    have halert' := Room.alert_attempt halert hw
    have hspares := Room.spares_attempt hw
    rw [step]
    rcases Room.attempt_cases hw with ⟨-, hattempt⟩ | ⟨-, next, hattempt, -, hcount, hself, -⟩
    · rw [hattempt] at halert' hspares ⊢
      exact ⟨trivial, halert', hspares, rfl⟩
    · rw [hattempt] at halert' hspares ⊢
      exact ⟨⟨notified, hself⟩, halert', hspares, by rw [hcount]; rfl⟩
  | resting size => exact keeps_self halert hknown rfl
  | parked size =>
    obtain ⟨notified, hw⟩ := hknown
    rw [step, hw]
    cases notified with
    | true => exact keeps_self halert hw rfl
    | false => exact keeps_self halert ⟨false, hw⟩ rfl
  | woken size =>
    -- who is woken was parked and notified, so they do register anew
    have hwake : room.wake number = room.register number size := by
      rw [Room.wake, hknown]
      rfl
    rw [step, hwake]
    exact ⟨⟨false, by rw [Room.waiter?_register, if_pos rfl]⟩, Room.alert_register halert size,
      Room.spares_register number size room, rfl⟩
  | returning size =>
    exact ⟨trivial, Room.alert_subtract room size, ⟨fun _ => .inl rfl, rfl⟩, rfl⟩
  | announcing =>
    refine ⟨trivial, Room.alert_announce room, Room.spares_announce number room, ?_⟩
    exact Nat.sub_add_cancel (hcount rfl)
  | ended result => exact keeps_self halert trivial rfl

/-- The end of a waiter's patience keeps it too. -/
theorem Call.keeps_expire {number : Nat} {room : Room} (halert : room.Alert) {call : Call}
    (hknown : call.Known number room) : call.Keeps number room (call.expire number room) := by
  cases call with
  | parked size =>
    exact ⟨trivial, Room.alert_leave halert, Room.spares_leave number room, rfl⟩
  | entering size | looking size | resting size | woken size | returning size | announcing
  | ended result => exact keeps_self halert hknown rfl

namespace Crowd

variable {budget : UInt64} {crowd : Crowd}

/-- A turn of one call keeps the crowd sound if its act keeps the room. -/
theorem Sound.turn (h : crowd.Sound budget) {act : Nat → Room → Call → Call × Room} (number : Nat)
    (hact : ∀ call, crowd.calls[number]? = some call →
      call.Keeps number crowd.room (act number crowd.room call)) :
    (crowd.turn act number).Sound budget := by
  unfold Crowd.turn
  cases hcall : crowd.calls[number]? with
  | none => exact h
  | some call =>
    obtain ⟨hknown, halert, hspares, hcount⟩ := hact call hcall
    refine ⟨fun {other after} hafter => ?_, ?_, halert, hspares.budget.trans h.budget⟩
    · rcases getElem?_set_cases hafter with ⟨rfl, rfl⟩ | ⟨hne, hbefore⟩
      · exact hknown
      · exact (h.known hbefore).spared hspares hne
    · -- one call is another now, and the count of releases goes with it
      have hcounted := countP_set Call.isAnnouncing hcall (act number crowd.room call).1
      have hbefore := h.count
      dsimp only
      omega

theorem Sound.concat (h : crowd.Sound budget) {call : Call}
    (hknown : ∀ number, call.Known number crowd.room) (hcall : call.isAnnouncing = false) :
    Sound budget { crowd with calls := crowd.calls ++ [call] } where
  known {number other} hother := by
    rw [List.getElem?_append] at hother
    -- the new call is the last one, and it announces nothing
    split at hother
    · exact h.known hother
    · obtain rfl := List.mem_singleton.mp (List.mem_of_getElem? hother)
      exact hknown number
  count := by
    rw [List.countP_append, List.countP_singleton, hcall, ← h.count]
    rfl
  alert := h.alert
  budget := h.budget

/-- **Whatever happens next keeps the crowd sound.** -/
theorem Sound.happens (h : crowd.Sound budget) (happening : Happening) :
    (crowd.happens happening).Sound budget := by
  cases happening with
  | reserves size => exact h.concat (fun _ => trivial) rfl
  | releases size => exact h.concat (fun _ => trivial) rfl
  | proceeds number =>
    refine h.turn number fun call hcall =>
      Call.keeps_step h.alert (h.known hcall) fun hannouncing => ?_
    rw [h.count, List.countP_pos_iff]
    exact ⟨call, List.mem_of_getElem? hcall, hannouncing⟩
  | expires number =>
    exact h.turn number fun call hcall => Call.keeps_expire h.alert (h.known hcall)

theorem Sound.after (h : crowd.Sound budget) (happenings : List Happening) :
    (crowd.after happenings).Sound budget := by
  -- Induction on the happenings; the crowd changes with each of them.
  induction happenings generalizing crowd with
  | nil => exact h
  | cons happening happenings ih => exact ih (h.happens happening)

/-- Before the first call there is nobody to sleep. -/
theorem sound_opening (ledger : Ledger) : (opening ledger).Sound ledger.budget where
  known hcall := by cases hcall
  count := rfl
  alert _ _ hw := by cases hw
  budget := rfl

end Crowd

/-- In any order of the steps of any calls, no wake-up is lost: whoever is
parked is registered, and if they have not been notified though they would fit,
some release has given its bytes back and is about to notify them. -/
theorem no_wakeup_lost (ledger : Ledger) (happenings : List Happening) (number : Nat)
    (size : UInt64) :
    let crowd := (Crowd.opening ledger).after happenings
    crowd.calls[number]? = some (.parked size) →
      ∃ w, crowd.room.waiter? number = some w ∧ w.size = size ∧
        (w.notified = false →
          crowd.room.ledger.loaded.toNat + size.toNat < ledger.budget.toNat →
            ∃ other : Nat, crowd.calls[other]? = some .announcing) := by
  intro crowd hparked
  have hsound : crowd.Sound ledger.budget := (Crowd.sound_opening ledger).after happenings
  obtain ⟨notified, hw⟩ := hsound.known hparked
  refine ⟨_, hw, rfl, fun hnotified hfits => ?_⟩
  rw [← hsound.budget] at hfits
  -- there is a release to be announced, so some call is about to announce it
  have hpositive := hsound.alert _ _ hw rfl hnotified (fits_iff.mpr hfits)
  rw [hsound.count, List.countP_pos_iff] at hpositive
  obtain ⟨call, hmem, hannouncing⟩ := hpositive
  obtain ⟨other, hother⟩ := List.mem_iff_getElem?.mp hmem
  cases call with
  | announcing => exact ⟨other, hother⟩
  | entering _ | looking _ | resting _ | parked _ | woken _ | returning _ | ended _ =>
    cases hannouncing

/-- The first has given its 6 bytes back and not announced it yet, and the
second, who wants 7 of 10, is parked. -/
theorem release_to_be_announced :
    let crowd := (Crowd.opening (unused 10)).after [.reserves 6, .proceeds 0, .proceeds 0,
      .reserves 7, .proceeds 1, .proceeds 1, .proceeds 1, .releases 6, .proceeds 2]
    crowd.calls[1]? = some (Call.parked 7) ∧
      crowd.room.waiter? 1 = some ⟨1, 7, true, false⟩ ∧
      crowd.room.ledger.loaded.toNat + (7 : UInt64).toNat < (unused 10).budget.toNat ∧
      ∃ other : Nat, crowd.calls[other]? = some .announcing := by
  intro crowd
  have hwaiter : crowd.room.waiter? 1 = some ⟨1, 7, true, false⟩ := by decide
  have hfits : crowd.room.ledger.loaded.toNat + (7 : UInt64).toNat < (unused 10).budget.toNat := by
    decide
  obtain ⟨w, hw, -, hother⟩ := no_wakeup_lost (unused 10) _ 1 7 (show crowd.calls[1]? = _ from rfl)
  cases hwaiter.symm.trans hw
  exact ⟨rfl, hwaiter, hfits, hother rfl hfits⟩

end BoardRelay.Ledger
