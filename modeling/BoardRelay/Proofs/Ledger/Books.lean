/-
  BoardRelay.Proofs.Ledger.Books
  ────────────────────────────────
  The books of a hall: a docket on which each event is due once, an account of
  who holds how much, and how things stand with each wish.  A look for space,
  be there any or not, and leaving without it keep them
  (`Diary.Kept.served`, `Diary.Kept.parked`, `Diary.Kept.failed`).
-/
import BoardRelay.Proofs.Ledger.Diary
import Mathlib.Algebra.BigOperators.Group.List.Basic
import Mathlib.Algebra.GroupWithZero.Nat
import Mathlib.Data.List.Nodup

namespace BoardRelay.Ledger

/-! ## §1. What a diary tells. -/

/-- Who arrives by an event. -/
def Event.arrival? : Event → Option Nat
  | .arrives number => some number
  | _ => none

/-- The size that is wanted by the wish of a number. -/
def sizeAt (demands : List Demand) (number : Nat) : Nat :=
  (demands[number]?.map fun demand => demand.size.toNat).getD 0

namespace Diary

/-- What has happened, and what is on the agenda. -/
def docket (diary : Diary) : List (Nat × Event) :=
  diary.events ++ diary.hall.agenda.entries

/-- Who has arrived, in order. -/
def arrived (diary : Diary) : List Nat :=
  diary.events.filterMap (·.2.arrival?)

/-- Whether it is settled what becomes of a wish. -/
def isSettled (number : Nat) (diary : Diary) : Bool :=
  diary.hall.verdicts.any (·.1 == number)

/-- Who has arrived and is not settled, in order of arrival. -/
def waiting (diary : Diary) : List Nat :=
  diary.arrived.filter fun number => !diary.isSettled number

/-- Whether space was given back. -/
def hasReturned (number : Nat) (diary : Diary) : Bool :=
  diary.events.any (·.2 == .givesBack number)

/-- Who got space and has not given it back. -/
def holders (diary : Diary) : List Nat :=
  (diary.hall.verdicts.filter fun entry =>
    entry.2.result.isOk && !diary.hasReturned entry.1).map (·.1)

/-- The looks that were taken for a wish. -/
def looksOf (number : Nat) (diary : Diary) : List Look :=
  diary.looks.filter (·.number == number)

section Told

variable {diary : Diary} {number : Nat}

/-- Someone has arrived whose arrival has happened. -/
theorem mem_arrived : number ∈ diary.arrived ↔ ∃ time, (time, .arrives number) ∈ diary.events := by
  constructor
  · intro h
    obtain ⟨⟨time, event⟩, hmem, heq⟩ := List.mem_filterMap.mp h
    cases event with
    | arrives other => cases heq; exact ⟨time, hmem⟩
    | givesUp other => cases heq
    | givesBack other => cases heq
  · rintro ⟨time, hmem⟩
    exact List.mem_filterMap.mpr ⟨_, hmem, rfl⟩

/-- A wish is settled once there is a verdict on it. -/
theorem isSettled_iff : diary.isSettled number = true ↔
    ∃ verdict, (number, verdict) ∈ diary.hall.verdicts := by
  rw [isSettled, List.any_eq_true]
  constructor
  · rintro ⟨⟨other, verdict⟩, hmem, heq⟩
    exact ⟨verdict, by rwa [← show other = number from beq_iff_eq.mp heq]⟩
  · rintro ⟨verdict, hmem⟩
    exact ⟨_, hmem, beq_iff_eq.mpr rfl⟩

/-- Someone waits who has arrived and has no verdict. -/
theorem mem_waiting : number ∈ diary.waiting ↔ number ∈ diary.arrived ∧
    ∀ verdict, (number, verdict) ∉ diary.hall.verdicts := by
  rw [waiting, List.mem_filter, Bool.not_eq_true', ← Bool.not_eq_true, isSettled_iff, not_exists]

theorem hasReturned_iff : diary.hasReturned number = true ↔
    ∃ time, (time, .givesBack number) ∈ diary.events := by
  rw [hasReturned, List.any_eq_true]
  constructor
  · rintro ⟨⟨time, event⟩, hmem, heq⟩
    exact ⟨time, by rwa [← show event = .givesBack number from beq_iff_eq.mp heq]⟩
  · rintro ⟨time, hmem⟩
    exact ⟨_, hmem, beq_iff_eq.mpr rfl⟩

end Told

/-! ## §2. The docket. -/

/-- Each event is due once, in order of time: wishes arrive when they come up,
patience ends for those who have looked, and space is given back by those who
got it. -/
structure Docketed (demands : List Demand) (diary : Diary) : Prop where
  sorted : diary.docket.Pairwise fun earlier later => earlier.1 ≤ later.1
  once : (diary.docket.map (·.2)).Nodup
  arrives {time number : Nat} : (time, .arrives number) ∈ diary.docket ↔
    ∃ demand, demands[number]? = some demand ∧ time = demand.arrival
  givesUp {time number : Nat} : (time, .givesUp number) ∈ diary.docket →
    ∃ demand, demands[number]? = some demand ∧ time = demand.arrival + demand.patience ∧
      diary.looksOf number ≠ []
  givesBack {time number : Nat} : (time, .givesBack number) ∈ diary.docket ↔
    ∃ demand hold verdict, demands[number]? = some demand ∧ demand.hold = some hold ∧
      (number, verdict) ∈ diary.hall.verdicts ∧ verdict.result = .ok () ∧
      time = verdict.time + hold
  dated : ∀ entry ∈ diary.hall.verdicts, ∃ event ∈ diary.events, event.1 = entry.2.time

section Noted

variable {events entries : List (Nat × Event)} {due : Nat} {event : Event}

/-- A new entry of the agenda is the only one that is new on the docket. -/
theorem mem_note {entry : Nat × Event} :
    entry ∈ events ++ Clock.Agenda.insertEntry (due, event) entries ↔
      entry = (due, event) ∨ entry ∈ events ++ entries := by
  rw [List.mem_append, Clock.Agenda.mem_insertEntry, List.mem_append]
  exact or_left_comm

theorem sorted_note (h : (events ++ entries).Pairwise fun earlier later => earlier.1 ≤ later.1)
    (hdue : ∀ entry ∈ events, entry.1 ≤ due) :
    (events ++ Clock.Agenda.insertEntry (due, event) entries).Pairwise
      fun earlier later => earlier.1 ≤ later.1 := by
  obtain ⟨hevents, hentries, hbetween⟩ := List.pairwise_append.mp h
  refine List.pairwise_append.mpr ⟨hevents, Clock.Agenda.pairwise_insertEntry hentries, ?_⟩
  intro earlier hearlier later hlater
  rcases Clock.Agenda.mem_insertEntry.mp hlater with rfl | hold
  · exact hdue earlier hearlier
  · exact hbetween earlier hearlier later hold

theorem once_note (h : ((events ++ entries).map (·.2)).Nodup)
    (hnew : ∀ time, (time, event) ∉ events ++ entries) :
    ((events ++ Clock.Agenda.insertEntry (due, event) entries).map (·.2)).Nodup := by
  have hperm : (events ++ Clock.Agenda.insertEntry (due, event) entries).Perm
      ((due, event) :: (events ++ entries)) :=
    ((Clock.Agenda.perm_insertEntry (due, event) entries).append_left events).trans
      List.perm_middle
  refine (hperm.map (·.2)).nodup_iff.mpr (List.nodup_cons.mpr ⟨fun hmem => ?_, h⟩)
  obtain ⟨⟨time, other⟩, hother, heq⟩ := List.mem_map.mp hmem
  cases heq
  exact hnew time hother

end Noted

section Docket

variable {demands : List Demand} {diary : Diary} {now number : Nat} {event : Event}
  {entries : List (Nat × Event)} {demand : Demand} {waiters : List Waiter}

theorem mem_docket_of_entries (hentries : diary.hall.agenda.entries = (now, event) :: entries) :
    (now, event) ∈ diary.docket := by
  rw [docket, hentries]
  exact List.mem_append_right _ List.mem_cons_self

/-- When an event happens the docket stays: the entry passes from the agenda to
what has happened. -/
theorem docket_opened (hentries : diary.hall.agenda.entries = (now, event) :: entries) :
    (diary.opened now event entries).docket = diary.docket := by
  rw [docket, docket, hentries]
  exact List.append_assoc _ _ _

/-- Nothing that has happened is later than what happens next. -/
theorem Docketed.le_now (h : diary.Docketed demands)
    (hentries : diary.hall.agenda.entries = (now, event) :: entries) :
    ∀ entry ∈ (diary.opened now event entries).events, entry.1 ≤ now := by
  have hsorted := h.sorted
  rw [docket, hentries] at hsorted
  intro entry hentry
  rcases List.mem_append.mp hentry with hbefore | hnow
  · exact (List.pairwise_append.mp hsorted).2.2 entry hbefore _ List.mem_cons_self
  · exact Nat.le_of_eq (congrArg Prod.fst (List.mem_singleton.mp hnow))

/-- What happens next has not happened, and happens once. -/
theorem Docketed.fresh (h : diary.Docketed demands)
    (hentries : diary.hall.agenda.entries = (now, event) :: entries) :
    (∀ time, (time, event) ∉ diary.events) ∧ ∀ time, (time, event) ∉ entries := by
  have honce := h.once
  rw [docket, hentries, List.map_append, List.map_cons] at honce
  obtain ⟨-, hrest, hbetween⟩ := List.nodup_append.mp honce
  refine ⟨fun time hmem => ?_, fun time hmem => ?_⟩
  · exact hbetween event (List.mem_map.mpr ⟨_, hmem, rfl⟩) event List.mem_cons_self rfl
  · exact (List.nodup_cons.mp hrest).1 (List.mem_map.mpr ⟨_, hmem, rfl⟩)

/-- **So the docket stays in order when an event happens.** -/
theorem Docketed.opened (h : diary.Docketed demands)
    (hentries : diary.hall.agenda.entries = (now, event) :: entries) :
    (diary.opened now event entries).Docketed demands := by
  have hdocket := docket_opened hentries
  refine ⟨hdocket ▸ h.sorted, hdocket ▸ h.once, hdocket ▸ h.arrives, hdocket ▸ h.givesUp,
    hdocket ▸ h.givesBack, fun entry hentry => ?_⟩
  obtain ⟨other, hother, heq⟩ := h.dated entry hentry
  exact ⟨other, List.mem_append_left _ hother, heq⟩

/-- Someone who gets nothing gives nothing back. -/
theorem Docketed.failed (h : diary.Docketed demands)
    (hnow : ∃ event ∈ diary.events, event.1 = now) (error : Error) :
    (diary.failed now number error waiters).Docketed demands where
  sorted := h.sorted
  once := h.once
  arrives := h.arrives
  givesUp := h.givesUp
  givesBack {time other} := by
    refine h.givesBack.trans ⟨?_, ?_⟩
    · rintro ⟨demand, hold, verdict, hdemand, hhold, hverdict, hrest⟩
      exact ⟨demand, hold, verdict, hdemand, hhold, List.mem_append_left _ hverdict, hrest⟩
    · rintro ⟨demand, hold, verdict, hdemand, hhold, hverdict, hok, htime⟩
      -- the new verdict is an error, after which nothing is due
      rcases List.mem_append.mp hverdict with hbefore | hnew
      · exact ⟨demand, hold, verdict, hdemand, hhold, hbefore, hok, htime⟩
      · cases List.mem_singleton.mp hnew
        cases hok
  dated entry hentry := by
    rcases List.mem_append.mp hentry with hbefore | hnew
    · exact h.dated entry hbefore
    · rw [List.mem_singleton.mp hnew]
      exact hnow

theorem looksOf_ne_nil_of_append {other : Nat} (h : diary.looksOf other ≠ []) (look : Look) :
    (diary.looks ++ [look]).filter (·.number == other) ≠ [] := by
  rw [List.filter_append]
  exact fun hnone => h (List.append_eq_nil_iff.mp hnone).1

/-- For someone who gets space, the return is the only new event, if there is
to be one. -/
theorem mem_noteReturn {events : List (Nat × Event)} {agenda : Clock.Agenda Event}
    {entry : Nat × Event} : entry ∈ events ++ (demand.noteReturn now number agenda).entries ↔
      (∃ hold, demand.hold = some hold ∧ entry = (now + hold, .givesBack number)) ∨
        entry ∈ events ++ agenda.entries := by
  rw [Demand.noteReturn]
  cases demand.hold with
  | none => simp
  | some hold =>
    refine mem_note.trans (or_congr_left ?_)
    exact ⟨fun heq => ⟨hold, rfl, heq⟩, by rintro ⟨_, hhold, rfl⟩; cases hhold; rfl⟩

theorem sorted_noteReturn {events : List (Nat × Event)} {agenda : Clock.Agenda Event}
    (h : (events ++ agenda.entries).Pairwise fun earlier later => earlier.1 ≤ later.1)
    (hpast : ∀ entry ∈ events, entry.1 ≤ now) :
    (events ++ (demand.noteReturn now number agenda).entries).Pairwise
      fun earlier later => earlier.1 ≤ later.1 := by
  rw [Demand.noteReturn]
  cases demand.hold with
  | none => exact h
  | some hold =>
    exact sorted_note h fun entry hentry =>
      Nat.le_trans (hpast entry hentry) (Nat.le_add_right now hold)

theorem once_noteReturn {events : List (Nat × Event)} {agenda : Clock.Agenda Event}
    (h : ((events ++ agenda.entries).map (·.2)).Nodup)
    (hnew : ∀ time, (time, .givesBack number) ∉ events ++ agenda.entries) :
    ((events ++ (demand.noteReturn now number agenda).entries).map (·.2)).Nodup := by
  rw [Demand.noteReturn]
  cases demand.hold with
  | none => exact h
  | some hold => exact once_note h hnew

/-- Someone who gets space gives it back after the time that it is kept. -/
theorem Docketed.served (h : diary.Docketed demands) (hdemand : demands[number]? = some demand)
    (hnow : ∃ event ∈ diary.events, event.1 = now) (hpast : ∀ entry ∈ diary.events, entry.1 ≤ now)
    (hfresh : ∀ verdict, (number, verdict) ∉ diary.hall.verdicts) :
    (diary.served now number demand waiters).Docketed demands where
  sorted := sorted_noteReturn h.sorted hpast
  once := once_noteReturn h.once fun time hmem =>
    -- a return that is due already comes from a verdict
    let ⟨_, _, verdict, _, _, hverdict, _⟩ := h.givesBack.mp hmem
    hfresh verdict hverdict
  arrives {time other} := by
    refine Iff.trans mem_noteReturn (Iff.trans ⟨Or.rec ?_ id, .inr⟩ h.arrives)
    rintro ⟨hold, -, heq⟩
    cases heq
  givesUp {time other} hother := by
    rcases mem_noteReturn.mp hother with ⟨hold, -, heq⟩ | hbefore
    · cases heq
    · obtain ⟨demand, hdemand, htime, hlooks⟩ := h.givesUp hbefore
      exact ⟨demand, hdemand, htime, looksOf_ne_nil_of_append hlooks _⟩
  givesBack {time other} := by
    refine Iff.trans mem_noteReturn ⟨?_, ?_⟩
    · rintro (⟨hold, hhold, heq⟩ | hbefore)
      · cases heq
        exact ⟨demand, hold, _, hdemand, hhold, List.mem_append_right _ (List.mem_singleton_self _),
          rfl, rfl⟩
      · obtain ⟨demand, hold, verdict, hdemand, hhold, hverdict, hrest⟩ := h.givesBack.mp hbefore
        exact ⟨demand, hold, verdict, hdemand, hhold, List.mem_append_left _ hverdict, hrest⟩
    · rintro ⟨found, hold, verdict, hfound, hhold, hverdict, hok, htime⟩
      -- the new verdict has a return of its own, and that is the one just noted
      rcases List.mem_append.mp hverdict with hbefore | hnew
      · exact .inr (h.givesBack.mpr ⟨found, hold, verdict, hfound, hhold, hbefore, hok, htime⟩)
      · cases List.mem_singleton.mp hnew
        cases hdemand.symm.trans hfound
        exact .inl ⟨hold, hhold, by rw [htime]⟩
  dated entry hentry := by
    rcases List.mem_append.mp hentry with hbefore | hnew
    · exact h.dated entry hbefore
    · rw [List.mem_singleton.mp hnew]
      exact hnow

/-- A look in vain adds nothing to the docket. -/
theorem Docketed.parked (h : diary.Docketed demands) :
    (diary.parked now number waiters diary.hall.agenda).Docketed demands where
  sorted := h.sorted
  once := h.once
  arrives := h.arrives
  givesUp hmem := by
    obtain ⟨demand, hdemand, htime, hlooks⟩ := h.givesUp hmem
    exact ⟨demand, hdemand, htime, looksOf_ne_nil_of_append hlooks _⟩
  givesBack := h.givesBack
  dated := h.dated

/-- Someone who has looked for the first time gives up when their patience
ends. -/
theorem Docketed.noted (h : diary.Docketed demands) (now : Nat) (waiters : List Waiter)
    (hdemand : demands[number]? = some demand)
    (hpast : ∀ entry ∈ diary.events, entry.1 ≤ demand.arrival) (hnone : diary.looksOf number = []) :
    (diary.parked now number waiters (diary.hall.agenda.note (demand.arrival + demand.patience)
      (.givesUp number))).Docketed demands := by
  -- the end of patience is only due for those who have looked
  have hnew : ∀ time, (time, .givesUp number) ∉ diary.docket := by
    intro time hmem
    obtain ⟨-, -, -, hlooks⟩ := h.givesUp hmem
    exact hlooks hnone
  refine ⟨?_, once_note h.once hnew, fun {time other} => ?_, fun {time other} hother => ?_,
    fun {time other} => ?_, h.dated⟩
  · exact sorted_note h.sorted fun entry hentry =>
      Nat.le_trans (hpast entry hentry) (Nat.le_add_right _ _)
  · refine Iff.trans mem_note (Iff.trans ⟨Or.rec ?_ id, .inr⟩ h.arrives)
    rintro ⟨⟩
  · rcases mem_note.mp hother with heq | hbefore
    · cases heq
      refine ⟨demand, hdemand, rfl, ?_⟩
      rw [looksOf, Diary.parked, List.filter_append]
      simp
    · obtain ⟨found, hfound, htime, hlooks⟩ := h.givesUp hbefore
      exact ⟨found, hfound, htime, looksOf_ne_nil_of_append hlooks _⟩
  · refine Iff.trans mem_note (Iff.trans ⟨Or.rec ?_ id, .inr⟩ h.givesBack)
    rintro ⟨⟩

end Docket

/-! ## §3. The account. -/

/-- The ledger has just what the holders hold, and is never filled up. -/
structure Weighed (budget : UInt64) (demands : List Demand) (diary : Diary) : Prop where
  limit : diary.hall.room.ledger.budget = budget
  loaded : diary.hall.room.ledger.loaded.toNat = (diary.holders.map (sizeAt demands)).sum
  below : diary.hall.room.ledger.loaded = 0 ∨ diary.hall.room.ledger.loaded < budget

section Account

variable {budget : UInt64} {demands : List Demand} {diary : Diary} {now number : Nat}
  {event : Event} {entries : List (Nat × Event)} {demand : Demand} {waiters : List Waiter}

theorem sizeAt_eq (hdemand : demands[number]? = some demand) :
    sizeAt demands number = demand.size.toNat := by
  rw [sizeAt, hdemand]
  rfl

/-- Space is given back by the event that says so. -/
theorem hasReturned_opened (other : Nat) :
    (diary.opened now event entries).hasReturned other =
      (diary.hasReturned other || event == .givesBack other) := by
  rw [hasReturned, opened, List.any_append, hasReturned]
  simp

/-- Who gives space back holds it no longer, and all others do. -/
theorem holders_opened (entries : List (Nat × Event)) :
    (diary.opened now event entries).holders =
      diary.holders.filter fun other => event != .givesBack other := by
  -- both sides are picked from the same verdicts, so they are compared one by one
  rw [holders, holders, List.filter_map, List.filter_filter]
  refine congrArg _ (List.filter_congr fun entry _ => ?_)
  rw [hasReturned_opened, Function.comp_apply, bne]
  cases entry.2.result.isOk <;> cases diary.hasReturned entry.1 <;>
    cases event == .givesBack entry.1 <;> rfl

/-- Who leaves without space does not hold any. -/
theorem holders_failed (error : Error) :
    (diary.failed now number error waiters).holders = diary.holders := by
  rw [holders, failed, List.filter_append]
  exact congrArg (List.map _) (List.append_nil _)

/-- Who gets space holds it, after all others. -/
theorem holders_served (hkept : diary.hasReturned number = false) :
    (diary.served now number demand waiters).holders = diary.holders ++ [number] := by
  rw [holders, served, List.filter_append, List.map_append]
  refine congrArg _ ?_
  have hkept : hasReturned number (diary.served now number demand waiters) = false := hkept
  rw [served] at hkept
  simp [hkept, Except.isOk, Except.toBool]

/-- An event that gives nothing back leaves the account as it is. -/
theorem Weighed.opened (h : diary.Weighed budget demands)
    (hevent : ∀ other, event ≠ .givesBack other) :
    (diary.opened now event entries).Weighed budget demands := by
  have hsame : (diary.opened now event entries).holders = diary.holders :=
    (holders_opened entries).trans
      (List.filter_eq_self.mpr fun other _ => bne_iff_ne.mpr (hevent other))
  exact ⟨h.limit, hsame ▸ h.loaded, h.below⟩

theorem Weighed.failed (h : diary.Weighed budget demands) (error : Error) :
    (diary.failed now number error waiters).Weighed budget demands :=
  ⟨h.limit, by rw [holders_failed]; exact h.loaded, h.below⟩

theorem Weighed.parked (h : diary.Weighed budget demands) (agenda : Clock.Agenda Event) :
    (diary.parked now number waiters agenda).Weighed budget demands :=
  ⟨h.limit, h.loaded, h.below⟩

/-- **Space that fits is added to what the holders hold**, without wrapping
around. -/
theorem Weighed.served (h : diary.Weighed budget demands)
    (hdemand : demands[number]? = some demand) (hkept : diary.hasReturned number = false)
    (hfits : diary.hall.room.ledger.fits demand.size = true) :
    (diary.served now number demand waiters).Weighed budget demands := by
  -- what fits is less than what is left of the budget, so the sum of words is the sum of numbers
  have hsum := toNat_take hfits
  have hbelow := fits_iff.mp hfits
  have hloaded := h.loaded
  refine ⟨h.limit, ?_, .inr ?_⟩
  · rw [holders_served hkept, List.map_append, List.sum_append, List.map_singleton,
      List.sum_singleton, sizeAt_eq hdemand, ← hloaded]
    exact hsum
  · rw [UInt64.lt_iff_toNat_lt, ← h.limit]
    exact hsum ▸ hbelow

/-- A release takes away what the one who releases holds. -/
theorem Weighed.released (h : diary.Weighed budget demands)
    (hdemand : demands[number]? = some demand) (hholds : number ∈ diary.holders)
    (honce : diary.holders.Nodup) (entries : List (Nat × Event)) :
    ((diary.opened now (.givesBack number) entries).released demand.size).Weighed budget
      demands := by
  have hheld : ((diary.opened now (.givesBack number) entries).released demand.size).holders =
      diary.holders.filter (· != number) := by
    refine (holders_opened entries).trans (List.filter_congr fun other _ => ?_)
    rw [Bool.eq_iff_iff, bne_iff_ne, bne_iff_ne]
    simp [eq_comm]
  -- the sum loses one term, which is at most all of it, so nothing is cut off at 0
  have hsum := (List.sum_map_erase (sizeAt demands) hholds).trans h.loaded.symm
  rw [honce.erase_eq_filter, sizeAt_eq hdemand] at hsum
  have hrest := toNat_release demand.size diary.hall.room.ledger
  have hless : (diary.hall.room.ledger.release demand.size).loaded.toNat ≤
      diary.hall.room.ledger.loaded.toNat := by omega
  refine ⟨h.limit, ?_, ?_⟩
  · rw [hheld]
    refine hrest.trans ?_
    omega
  · rcases h.below with hnone | hbelow
    · refine .inl (UInt64.toNat_inj.mp (Nat.le_zero.mp ?_))
      rwa [hnone] at hless
    · rw [UInt64.lt_iff_toNat_lt] at hbelow
      exact .inr (UInt64.lt_iff_toNat_lt.mpr (Nat.lt_of_le_of_lt hless hbelow))

end Account

/-! ## §4. One wish. -/

end Diary

/-- What becomes of a wish with some looks: it is too large, it is served at the
first look at which it fits, or it is given up when its patience ends. -/
inductive Fate (budget : UInt64) (demand : Demand) : List Look → Verdict → Prop where
  | tooLarge (hlarge : budget ≤ demand.size) (loaded : UInt64) :
    Fate budget demand [] ⟨.error (.fileTooLarge demand.size budget), demand.arrival, loaded⟩
  | served (hsmall : demand.size < budget) {vain : List Look}
      (hvain : ∀ look ∈ vain, look.ledger.fits demand.size = false) {last : Look}
      (hfits : last.ledger.fits demand.size = true) :
    Fate budget demand (vain ++ [last])
      ⟨.ok (), last.time, (last.ledger.take demand.size).loaded⟩
  | exhausted (hsmall : demand.size < budget) {vain : List Look}
      (hvain : ∀ look ∈ vain, look.ledger.fits demand.size = false) (loaded : UInt64) :
    Fate budget demand vain
      ⟨.error (.quotaExhausted demand.size), demand.arrival + demand.patience, loaded⟩

/-- Whether the first look is taken on arrival and every other at a release
before patience ends. -/
def Timely (demand : Demand) (events : List (Nat × Event)) (looks : List Look) : Prop :=
  ∃ first others, looks = first :: others ∧ first.time = demand.arrival ∧
    ∀ look ∈ others, demand.arrival ≤ look.time ∧ look.time ≤ demand.arrival + demand.patience ∧
      ∃ other, (look.time, .givesBack other) ∈ events

/-- Looks that were taken in time were so whatever happens afterwards. -/
theorem Timely.mono {demand : Demand} {events later : List (Nat × Event)} {looks : List Look}
    (h : Timely demand events looks) (hlater : ∀ entry ∈ events, entry ∈ later) :
    Timely demand later looks := by
  obtain ⟨first, others, rfl, hfirst, hothers⟩ := h
  refine ⟨first, others, rfl, hfirst, fun look hlook => ?_⟩
  obtain ⟨hafter, hbefore, other, hother⟩ := hothers look hlook
  exact ⟨hafter, hbefore, other, hlater _ hother⟩

namespace Diary

section Wish

variable {budget : UInt64} {diary next : Diary} {number : Nat} {demand : Demand}

variable (budget) in
/-- How things stand with a wish: it is still to come up, or it has been looked
for in vain and its patience will end, or it is settled. -/
inductive Stands (diary : Diary) (number : Nat) (demand : Demand) : Prop where
  | coming (hcoming : number ∉ diary.arrived)
      (hfresh : ∀ verdict, (number, verdict) ∉ diary.hall.verdicts)
      (hlooks : diary.looksOf number = [])
  | waiting (hwaiting : number ∈ diary.waiting) (hsmall : demand.size < budget)
      (htimely : Timely demand diary.events (diary.looksOf number))
      (hvain : ∀ look ∈ diary.looksOf number, look.ledger.fits demand.size = false)
      (hdue : (demand.arrival + demand.patience, .givesUp number) ∈ diary.hall.agenda.entries)
  | settled (harrived : number ∈ diary.arrived) {verdict : Verdict}
      (hverdict : (number, verdict) ∈ diary.hall.verdicts)
      (hfate : Fate budget demand (diary.looksOf number) verdict)
      (htimely : demand.size < budget → Timely demand diary.events (diary.looksOf number))

/-- Nothing changes for a wish that nothing is written down of. -/
theorem Stands.frame (h : diary.Stands budget number demand)
    (hevents : ∀ entry ∈ diary.events, entry ∈ next.events)
    (harrived : number ∈ next.arrived → number ∈ diary.arrived)
    (hverdicts : ∀ verdict, (number, verdict) ∈ next.hall.verdicts ↔
      (number, verdict) ∈ diary.hall.verdicts)
    (hlooks : next.looksOf number = diary.looksOf number)
    (hdue : number ∈ diary.waiting → ∀ time, (time, .givesUp number) ∈ diary.hall.agenda.entries →
      (time, .givesUp number) ∈ next.hall.agenda.entries) :
    next.Stands budget number demand := by
  have hlater : number ∈ diary.arrived → number ∈ next.arrived := fun hbefore =>
    let ⟨time, hmem⟩ := mem_arrived.mp hbefore
    mem_arrived.mpr ⟨time, hevents _ hmem⟩
  -- each of the three ways to stand is told by events, verdicts, looks and agenda alone
  cases h with
  | coming hcoming hfresh hnone =>
    exact .coming (fun hnow => hcoming (harrived hnow))
      (fun verdict hmem => hfresh verdict ((hverdicts verdict).mp hmem)) (hlooks.trans hnone)
  | waiting hwaiting hsmall htimely hvain hgivesUp =>
    obtain ⟨hbefore, hfresh⟩ := mem_waiting.mp hwaiting
    refine .waiting (mem_waiting.mpr ⟨hlater hbefore, fun verdict hmem =>
      hfresh verdict ((hverdicts verdict).mp hmem)⟩) hsmall ?_ ?_ (hdue hwaiting _ hgivesUp)
    · rw [hlooks]
      exact htimely.mono hevents
    · rwa [hlooks]
  | settled hbefore hverdict hfate htimely =>
    refine .settled (hlater hbefore) ((hverdicts _).mpr hverdict) (hlooks ▸ hfate) fun hsmall => ?_
    rw [hlooks]
    exact (htimely hsmall).mono hevents

variable (budget) in
/-- What is known of someone who is about to look, on arrival or after a
release. -/
structure Asks (diary : Diary) (now number : Nat) (demand : Demand) : Prop where
  arrived : number ∈ diary.arrived
  fresh : ∀ verdict, (number, verdict) ∉ diary.hall.verdicts
  small : demand.size < budget
  vain : ∀ look ∈ diary.looksOf number, look.ledger.fits demand.size = false
  timely : diary.looksOf number = [] ∧ now = demand.arrival ∨
    Timely demand diary.events (diary.looksOf number) ∧
      demand.arrival ≤ now ∧ now ≤ demand.arrival + demand.patience ∧
      ∃ other, (now, .givesBack other) ∈ diary.events

variable {now : Nat} {waiters : List Waiter}

theorem looksOf_append_self (look : Look) :
    (diary.looks ++ [look]).filter (·.number == look.number) =
      diary.looksOf look.number ++ [look] := by
  rw [List.filter_append, looksOf]
  simp

theorem looksOf_append_of_ne {look : Look} (hne : number ≠ look.number) :
    (diary.looks ++ [look]).filter (·.number == number) = diary.looksOf number := by
  rw [List.filter_append, looksOf]
  simp [hne.symm]

/-- With the next look, the looks are still taken in time. -/
theorem Asks.timely_append (h : diary.Asks budget now number demand) (ledger : Ledger) :
    Timely demand diary.events (diary.looksOf number ++ [⟨number, now, ledger⟩]) := by
  -- the look is the first, on arrival, or comes behind those there are, at a release
  rcases h.timely with ⟨hnone, htime⟩ | ⟨⟨first, others, hlooks, hfirst, hothers⟩, hrelease⟩
  · rw [hnone]
    exact ⟨_, [], rfl, htime, fun look hlook => (List.not_mem_nil hlook).elim⟩
  · rw [hlooks]
    refine ⟨first, others ++ [⟨number, now, ledger⟩], rfl, hfirst, fun look hlook => ?_⟩
    rcases List.mem_append.mp hlook with hbefore | hnew
    · exact hothers look hbefore
    · rw [List.mem_singleton.mp hnew]
      exact hrelease

/-- Someone who looks and finds space is settled. -/
theorem Asks.stands_served (h : diary.Asks budget now number demand)
    (hfits : diary.hall.room.ledger.fits demand.size = true) :
    (diary.served now number demand waiters).Stands budget number demand := by
  have hlooks : (diary.served now number demand waiters).looksOf number =
      diary.looksOf number ++ [⟨number, now, diary.hall.room.ledger⟩] :=
    looksOf_append_self ⟨number, now, diary.hall.room.ledger⟩
  refine .settled h.arrived (List.mem_append_right _ (List.mem_singleton_self _)) ?_ fun _ => ?_
  · rw [hlooks]
    exact .served h.small h.vain hfits
  · rw [hlooks]
    exact h.timely_append _

/-- Someone who looks in vain goes on waiting. -/
theorem Asks.stands_parked (h : diary.Asks budget now number demand)
    (hfull : diary.hall.room.ledger.fits demand.size = false) {agenda : Clock.Agenda Event}
    (hdue : (demand.arrival + demand.patience, .givesUp number) ∈ agenda.entries) :
    (diary.parked now number waiters agenda).Stands budget number demand := by
  have hlooks : (diary.parked now number waiters agenda).looksOf number =
      diary.looksOf number ++ [⟨number, now, diary.hall.room.ledger⟩] :=
    looksOf_append_self ⟨number, now, diary.hall.room.ledger⟩
  refine .waiting (mem_waiting.mpr ⟨h.arrived, h.fresh⟩) h.small ?_ (fun look hlook => ?_) hdue
  · rw [hlooks]
    exact h.timely_append _
  · rw [hlooks] at hlook
    -- every look so far was in vain, and so is the one just written down
    rcases List.mem_append.mp hlook with hbefore | hnew
    · exact h.vain look hbefore
    · rwa [List.mem_singleton.mp hnew]

end Wish

/-! ## §5. The books of a hall. -/

variable {budget : UInt64} {demands : List Demand} {diary : Diary}

/-- Books in order: the docket, the account, one verdict for each settled wish,
and how things stand with each wish but perhaps one. -/
structure Kept (budget : UInt64) (demands : List Demand) (absent : Option Nat) (diary : Diary) :
    Prop where
  docketed : diary.Docketed demands
  weighed : diary.Weighed budget demands
  single : (diary.hall.verdicts.map (·.1)).Nodup
  stands {number : Nat} {demand : Demand} (hdemand : demands[number]? = some demand)
    (hthere : some number ≠ absent) : diary.Stands budget number demand

theorem Kept.weaken (h : diary.Kept budget demands none) (absent : Option Nat) :
    diary.Kept budget demands absent :=
  ⟨h.docketed, h.weighed, h.single, fun hdemand _ => h.stands hdemand nofun⟩

theorem arrived_opened {now : Nat} {event : Event} {entries : List (Nat × Event)} :
    (diary.opened now event entries).arrived = diary.arrived ++ event.arrival?.toList := by
  rw [arrived, opened, List.filterMap_append, arrived]
  cases event <;> rfl

/-- An event that is not about a wish does not change how things stand with
it. -/
theorem Stands.opened {number now : Nat} {demand : Demand} {event : Event}
    {entries : List (Nat × Event)} (h : diary.Stands budget number demand)
    (hentries : diary.hall.agenda.entries = (now, event) :: entries)
    (hcomes : event ≠ .arrives number) (hgoes : number ∈ diary.waiting → event ≠ .givesUp number) :
    (diary.opened now event entries).Stands budget number demand := by
  refine h.frame (fun entry hentry => List.mem_append_left _ hentry) (fun harrived => ?_)
    (fun _ => Iff.rfl) rfl fun hwaiting time hmem => ?_
  · rw [arrived_opened] at harrived
    rcases List.mem_append.mp harrived with hbefore | hnow
    · exact hbefore
    · -- only an arrival adds anyone, and it is not this one
      cases event with
      | arrives other => cases List.mem_singleton.mp hnow; exact absurd rfl hcomes
      | givesUp other => cases hnow
      | givesBack other => cases hnow
  · rw [hentries] at hmem
    rcases List.mem_cons.mp hmem with heq | hrest
    · cases heq
      exact absurd rfl (hgoes hwaiting)
    · exact hrest

/-- A verdict on a wish that had none is its only one. -/
theorem single_append {number : Nat} {verdict : Verdict}
    (h : (diary.hall.verdicts.map (·.1)).Nodup)
    (hfresh : ∀ verdict, (number, verdict) ∉ diary.hall.verdicts) :
    ((diary.hall.verdicts ++ [(number, verdict)]).map (·.1)).Nodup := by
  rw [List.map_append]
  refine List.nodup_append.mpr ⟨h, List.nodup_singleton _, ?_⟩
  rintro first hfirst second hsecond rfl
  obtain ⟨⟨_, other⟩, hother, rfl⟩ := List.mem_map.mp hfirst
  cases List.mem_singleton.mp hsecond
  exact hfresh other hother

theorem mem_verdicts_append {number other : Nat} {verdict given : Verdict} (hne : other ≠ number) :
    (other, given) ∈ diary.hall.verdicts ++ [(number, verdict)] ↔
      (other, given) ∈ diary.hall.verdicts := by
  rw [List.mem_append, List.mem_singleton]
  exact ⟨Or.rec id fun heq => absurd (congrArg Prod.fst heq) hne, .inl⟩

section Look

variable {now number : Nat} {demand : Demand} {waiters : List Waiter}

/-- Who has no verdict has given nothing back. -/
theorem hasReturned_of_fresh (h : diary.Docketed demands)
    (hfresh : ∀ verdict, (number, verdict) ∉ diary.hall.verdicts) :
    diary.hasReturned number = false := by
  rw [← Bool.not_eq_true, hasReturned_iff]
  rintro ⟨time, hmem⟩
  obtain ⟨-, -, verdict, -, -, hverdict, -⟩ := h.givesBack.mp (List.mem_append_left _ hmem)
  exact hfresh verdict hverdict

/-- Someone looks, and there is space. -/
theorem Kept.served (h : diary.Kept budget demands (some number))
    (hdemand : demands[number]? = some demand) (hasks : diary.Asks budget now number demand)
    (hnow : ∃ event ∈ diary.events, event.1 = now) (hpast : ∀ entry ∈ diary.events, entry.1 ≤ now)
    (hfits : diary.hall.room.ledger.fits demand.size = true) :
    (diary.served now number demand waiters).Kept budget demands none where
  docketed := h.docketed.served hdemand hnow hpast hasks.fresh
  weighed := h.weighed.served hdemand (hasReturned_of_fresh h.docketed hasks.fresh) hfits
  single := single_append h.single hasks.fresh
  stands {other found} hfound _ := by
    by_cases hne : other = number
    · subst hne
      cases hdemand.symm.trans hfound
      exact hasks.stands_served hfits
    · -- the look is not theirs, and the agenda has at most one entry more
      refine (h.stands hfound (by simpa using hne)).frame (fun _ hentry => hentry) id
        (fun verdict => mem_verdicts_append hne) (looksOf_append_of_ne hne) fun _ time hmem => ?_
      rw [Diary.served, Demand.noteReturn]
      cases demand.hold with
      | none => exact hmem
      | some hold => exact Clock.Agenda.mem_insertEntry.mpr (.inr hmem)

/-- Someone looks, and there is no space. -/
theorem Kept.parked (h : diary.Kept budget demands (some number))
    (hdemand : demands[number]? = some demand) (hasks : diary.Asks budget now number demand)
    (hfull : diary.hall.room.ledger.fits demand.size = false) {agenda : Clock.Agenda Event}
    (hdocketed : (diary.parked now number waiters agenda).Docketed demands)
    (hdue : (demand.arrival + demand.patience, .givesUp number) ∈ agenda.entries)
    (hagenda : ∀ entry ∈ diary.hall.agenda.entries, entry ∈ agenda.entries) :
    (diary.parked now number waiters agenda).Kept budget demands none where
  docketed := hdocketed
  weighed := h.weighed.parked agenda
  single := h.single
  stands {other found} hfound _ := by
    -- the number that asks is parked, and for any other the books only grew by its look
    by_cases hne : other = number
    · subst hne
      cases hdemand.symm.trans hfound
      exact hasks.stands_parked hfull hdue
    · exact (h.stands hfound (by simpa using hne)).frame (fun _ hentry => hentry) id
        (fun _ => Iff.rfl) (looksOf_append_of_ne hne) fun _ time hmem => hagenda _ hmem

/-- Someone leaves without space. -/
theorem Kept.failed (h : diary.Kept budget demands (some number))
    (hdemand : demands[number]? = some demand)
    (hfresh : ∀ verdict, (number, verdict) ∉ diary.hall.verdicts) {error : Error}
    (hnow : ∃ event ∈ diary.events, event.1 = now)
    (hstands : (diary.failed now number error waiters).Stands budget number demand) :
    (diary.failed now number error waiters).Kept budget demands none where
  docketed := h.docketed.failed hnow error
  weighed := h.weighed.failed error
  single := single_append h.single hfresh
  stands {other found} hfound _ := by
    -- the number that asked has its verdict, and no other's changed
    by_cases hne : other = number
    · subst hne
      cases hdemand.symm.trans hfound
      exact hstands
    · exact (h.stands hfound (by simpa using hne)).frame (fun _ hentry => hentry) id
        (fun verdict => mem_verdicts_append hne) rfl fun _ _ hmem => hmem

end Look

end Diary

end BoardRelay.Ledger
