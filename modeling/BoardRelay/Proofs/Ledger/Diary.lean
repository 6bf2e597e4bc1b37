/-
  BoardRelay.Proofs.Ledger.Diary
  ────────────────────────────────
  All that happens in a hall, written down: the events, and who looked for
  space when.  One event of a hall in which all waiters are parked is a
  refusal, an arrival with one look, the end of someone's patience, or a
  release after which all waiters look in turn (`Diary.turns_next`).
-/
import BoardRelay.Ledger.Waiting
import BoardRelay.Proofs.Clock.Agenda

namespace BoardRelay.Ledger

/-! ## §1. Diaries. -/

/-- A hall, which keeps its looks and verdicts itself, with all events so far. -/
structure Diary where
  hall : Hall
  events : List (Nat × Event)

/-- The agenda after someone got space: when to give it back, if at all. -/
def Demand.noteReturn (now number : Nat) (agenda : Clock.Agenda Event) (demand : Demand) :
    Clock.Agenda Event :=
  match demand.hold with
  | none => agenda
  | some hold => agenda.note (now + hold) (.givesBack number)

/-- A waiter who is told of a release. -/
def Waiter.rouse (w : Waiter) : Waiter :=
  { w with notified := true }

namespace Diary

/-- All looks that were taken, oldest first. -/
abbrev looks (diary : Diary) : List Look :=
  diary.hall.looks

/-- The diary of a hall where all wishes are still to come. -/
def opening (budget : UInt64) (demands : List Demand) : Diary :=
  ⟨Hall.opening (unused budget) demands, []⟩

/-- The diary after the next event. -/
def next (demands : List Demand) (diary : Diary) : Diary :=
  match diary.hall.agenda.next? with
  | none => diary
  | some ((now, event), agenda) =>
    let hall := { diary.hall with agenda }
    ⟨hall.handle demands now event, diary.events ++ [(now, event)]⟩

/-- The diary after so many events. -/
def after (demands : List Demand) : Nat → Diary → Diary
  | 0, diary => diary
  | count + 1, diary => diary.next demands |>.after demands count

/-- The last event may be split off as well as the first. -/
theorem after_succ (demands : List Demand) (count : Nat) (diary : Diary) :
    diary.after demands (count + 1) = (diary.after demands count).next demands := by
  induction count generalizing diary with
  | zero => rfl
  | succ count ih => exact ih (diary.next demands)

/-- The hall of a diary is that of the run after as many events. -/
theorem hall_after (demands : List Demand) (count : Nat) (diary : Diary) :
    (diary.after demands count).hall = diary.hall.run demands count := by
  -- Induction on the events, taken off at the front as the run does.
  induction count generalizing diary with
  | zero => rfl
  | succ count ih =>
    rw [after, ih, next, Hall.run]
    cases hnext : diary.hall.agenda.next? with
    | none =>
      -- the run stops, and the diary stays as it is
      cases count with
      | zero => rfl
      | succ count => simp only [Hall.run, hnext]
    | some entry => rfl

/-- What every event keeps holds after any number of them. -/
theorem after_keeps {demands : List Demand} {P : Diary → Prop}
    (hkeeps : ∀ diary, P diary → P (diary.next demands)) {diary : Diary} (h : P diary)
    (count : Nat) : P (diary.after demands count) := by
  induction count generalizing diary with
  | zero => exact h
  | succ count ih => exact ih (hkeeps diary h)

/-! ## §2. What may happen. -/

/-- The diary when an event begins. -/
def opened (now : Nat) (event : Event) (entries : List (Nat × Event)) (diary : Diary) : Diary :=
  { diary with
    hall := { diary.hall with agenda := ⟨entries⟩ }
    events := diary.events ++ [(now, event)] }

/-- The diary after someone leaves without space. -/
def failed (now number : Nat) (error : Error) (waiters : List Waiter) (diary : Diary) : Diary where
  hall := ⟨{ diary.hall.room with waiters }, diary.looks,
    diary.hall.verdicts ++ [(number, ⟨.error error, now, diary.hall.room.ledger.loaded⟩)],
    diary.hall.agenda⟩
  events := diary.events

/-- The diary after someone has looked and got space. -/
def served (now number : Nat) (demand : Demand) (waiters : List Waiter) (diary : Diary) :
    Diary where
  hall := ⟨{ diary.hall.room with ledger := diary.hall.room.ledger.take demand.size, waiters },
    diary.looks ++ [⟨number, now, diary.hall.room.ledger⟩],
    diary.hall.verdicts ++
      [(number, ⟨.ok (), now, (diary.hall.room.ledger.take demand.size).loaded⟩)],
    demand.noteReturn now number diary.hall.agenda⟩
  events := diary.events

/-- The diary after someone has looked and found no space. -/
def parked (now number : Nat) (waiters : List Waiter) (agenda : Clock.Agenda Event)
    (diary : Diary) : Diary where
  hall := ⟨{ diary.hall.room with waiters },
    diary.looks ++ [⟨number, now, diary.hall.room.ledger⟩], diary.hall.verdicts, agenda⟩
  events := diary.events

/-- The diary after a release of which all waiters were told. -/
def released (size : UInt64) (diary : Diary) : Diary :=
  { diary with
    hall := { diary.hall with
      room := { diary.hall.room with
        ledger := diary.hall.room.ledger.release size
        waiters := diary.hall.room.waiters.map Waiter.rouse } } }

/-- One after another looks for space, with those who have looked in vain
behind them. -/
inductive Round (demands : List Demand) (now : Nat) :
    List Waiter → List Waiter → Diary → Diary → Prop where
  | ended (done : List Waiter) (diary : Diary) : Round demands now [] done diary diary
  | served {w : Waiter} {pending done : List Waiter} {diary next : Diary} {demand : Demand}
      (hdemand : demands[w.number]? = some demand)
      (hfits : diary.hall.room.ledger.fits demand.size = true)
      (hround : Round demands now pending done
        (diary.served now w.number demand (pending ++ done)) next) :
    Round demands now (w :: pending) done diary next
  | parked {w : Waiter} {pending done : List Waiter} {diary next : Diary} {demand : Demand}
      (hdemand : demands[w.number]? = some demand)
      (hfull : diary.hall.room.ledger.fits demand.size = false)
      (hround : Round demands now pending (done ++ [⟨w.number, demand.size, true, false⟩])
        (diary.parked now w.number (pending ++ (done ++ [⟨w.number, demand.size, true, false⟩]))
          diary.hall.agenda) next) :
    Round demands now (w :: pending) done diary next

/-- What the next event may be, and the diary after it. -/
inductive Turns (demands : List Demand) (diary : Diary) : Diary → Prop where
  | ended (hentries : diary.hall.agenda.entries = []) : Turns demands diary diary
  | refused {number : Nat} {demand : Demand} {entries : List (Nat × Event)}
      (hentries : diary.hall.agenda.entries = (demand.arrival, .arrives number) :: entries)
      (hdemand : demands[number]? = some demand)
      (hlarge : diary.hall.room.ledger.budget ≤ demand.size) :
    Turns demands diary ((diary.opened demand.arrival (.arrives number) entries).failed
      demand.arrival number (.fileTooLarge demand.size diary.hall.room.ledger.budget)
      diary.hall.room.waiters)
  | served {number : Nat} {demand : Demand} {entries : List (Nat × Event)}
      (hentries : diary.hall.agenda.entries = (demand.arrival, .arrives number) :: entries)
      (hdemand : demands[number]? = some demand)
      (hsmall : ¬ diary.hall.room.ledger.budget ≤ demand.size)
      (hfits : diary.hall.room.ledger.fits demand.size = true) :
    Turns demands diary ((diary.opened demand.arrival (.arrives number) entries).served
      demand.arrival number demand diary.hall.room.waiters)
  | parked {number : Nat} {demand : Demand} {entries : List (Nat × Event)}
      (hentries : diary.hall.agenda.entries = (demand.arrival, .arrives number) :: entries)
      (hdemand : demands[number]? = some demand)
      (hsmall : ¬ diary.hall.room.ledger.budget ≤ demand.size)
      (hfull : diary.hall.room.ledger.fits demand.size = false) :
    Turns demands diary ((diary.opened demand.arrival (.arrives number) entries).parked
      demand.arrival number (diary.hall.room.waiters ++ [⟨number, demand.size, true, false⟩])
      (Clock.Agenda.note (demand.arrival + demand.patience) (.givesUp number) ⟨entries⟩))
  /-- Someone's patience would end now, but they have gone. -/
  | stale {now number : Nat} {entries : List (Nat × Event)}
      (hentries : diary.hall.agenda.entries = (now, .givesUp number) :: entries)
      (hgone : number ∉ diary.hall.room.waiters.map (·.number)) :
    Turns demands diary (diary.opened now (.givesUp number) entries)
  | gaveUp {now : Nat} {w : Waiter} {entries : List (Nat × Event)}
      (hentries : diary.hall.agenda.entries = (now, .givesUp w.number) :: entries)
      (hw : w ∈ diary.hall.room.waiters) :
    Turns demands diary ((diary.opened now (.givesUp w.number) entries).failed now w.number
      (.quotaExhausted w.size) (diary.hall.room.others w.number))
  | released {now number : Nat} {demand : Demand} {entries : List (Nat × Event)} {next : Diary}
      (hentries : diary.hall.agenda.entries = (now, .givesBack number) :: entries)
      (hdemand : demands[number]? = some demand)
      (hround : Round demands now (diary.hall.room.waiters.map Waiter.rouse) []
        ((diary.opened now (.givesBack number) entries).released demand.size) next) :
    Turns demands diary next

end Diary

/-! ## §3. Looking once. -/

theorem find?_number_eq_none {waiters : List Waiter} {number : Nat}
    (h : number ∉ waiters.map (·.number)) : waiters.find? (fun w => w.number = number) = none := by
  refine List.find?_eq_none.mpr fun w hw heq => h ?_
  exact List.mem_map.mpr ⟨w, hw, of_decide_eq_true heq⟩

theorem filter_number_eq_self {waiters : List Waiter} {number : Nat}
    (h : number ∉ waiters.map (·.number)) :
    waiters.filter (fun w => w.number != number) = waiters := by
  refine List.filter_eq_self.mpr fun w hw => bne_iff_ne.mpr fun heq => h ?_
  exact List.mem_map.mpr ⟨w, hw, heq⟩

namespace Room

section Registered

variable {others : List Waiter} {w : Waiter} (room : Room)
  (hothers : w.number ∉ others.map (·.number))

include hothers

/-- The last who registered is found among the waiters. -/
theorem waiter?_concat :
    ({ room with waiters := others ++ [w] } : Room).waiter? w.number = some w := by
  rw [waiter?, List.find?_append, find?_number_eq_none hothers]
  simp

/-- All others are those who were there before. -/
theorem others_concat :
    ({ room with waiters := others ++ [w] } : Room).others w.number = others := by
  rw [Room.others, List.filter_append, filter_number_eq_self hothers]
  simp

/-- The last who registered takes the space if there is enough. -/
theorem attempt_of_fits (hfits : room.ledger.fits w.size = true) :
    ({ room with waiters := others ++ [w] } : Room).attempt w.number =
      (true, { room with ledger := room.ledger.take w.size, waiters := others }) := by
  rw [attempt, waiter?_concat room hothers, others_concat room hothers]
  simp only [hfits, if_true]

/-- The last who registered parks if there is not enough space. -/
theorem attempt_of_full (hfull : room.ledger.fits w.size = false) :
    ({ room with waiters := others ++ [w] } : Room).attempt w.number =
      (false, { room with waiters := others ++ [{ w with parked := true }] }) := by
  have hmap : others.map (fun other => if other.number = w.number then
      { other with parked := true } else other) = others := by
    refine List.map_congr_left (g := id) (fun other hother => if_neg fun heq => hothers ?_)
      |>.trans (List.map_id _)
    exact List.mem_map.mpr ⟨other, hother, heq⟩
  rw [attempt, waiter?_concat room hothers]
  simp only [hfull, Bool.false_eq_true, if_false, List.map_append, hmap, List.map_cons,
    List.map_nil, if_true]

end Registered

end Room

namespace Diary

/-- What is written down of one who looks now. -/
def looked (now number : Nat) (demand : Demand) (diary : Diary) : Diary :=
  { diary with hall := diary.hall.look now number demand }

/-- The diary with other waiters. -/
def withWaiters (waiters : List Waiter) (diary : Diary) : Diary :=
  { diary with hall := { diary.hall with room := { diary.hall.room with waiters } } }

section Looked

variable {diary : Diary} {others : List Waiter} {number : Nat} {demand : Demand}

/-- Someone who has just registered looks, and there is space. -/
theorem looked_of_fits (now : Nat) (hothers : number ∉ others.map (·.number))
    (hfits : diary.hall.room.ledger.fits demand.size = true) :
    (diary.withWaiters (others ++ [⟨number, demand.size, false, false⟩])).looked now number demand =
      diary.served now number demand others := by
  have hattempt := Room.attempt_of_fits (w := ⟨number, demand.size, false, false⟩)
    diary.hall.room hothers hfits
  have hwaiter := Room.waiter?_concat (w := ⟨number, demand.size, false, false⟩)
    diary.hall.room hothers
  simp only [looked, Hall.look, withWaiters, hwaiter, Option.any_some, Bool.not_false, if_true,
    hattempt, served, Demand.noteReturn]
  cases demand.hold <;> rfl

/-- Someone who has just registered looks, and there is no space. -/
theorem looked_of_full (now : Nat) (hothers : number ∉ others.map (·.number))
    (hfull : diary.hall.room.ledger.fits demand.size = false) :
    (diary.withWaiters (others ++ [⟨number, demand.size, false, false⟩])).looked now number demand =
      diary.parked now number (others ++ [⟨number, demand.size, true, false⟩])
        diary.hall.agenda := by
  have hattempt := Room.attempt_of_full (w := ⟨number, demand.size, false, false⟩)
    diary.hall.room hothers hfull
  have hwaiter := Room.waiter?_concat (w := ⟨number, demand.size, false, false⟩)
    diary.hall.room hothers
  simp only [looked, Hall.look, withWaiters, hwaiter, Option.any_some, Bool.not_false, if_true,
    hattempt, parked]

end Looked

/-! ## §4. Looking in turn. -/

/-- What is written down of those who start over in turn. -/
def lookedInTurn (demands : List Demand) (now : Nat) (pending : List Waiter) (diary : Diary) :
    Diary :=
  { diary with hall := diary.hall.lookAgain demands now pending }

/-- A waiter who is woken registers anew, behind all others. -/
theorem wake_waiters {room : Room} {w : Waiter} {others : List Waiter}
    (hwaiters : room.waiters = w :: others) (hroused : w.parked = true ∧ w.notified = true)
    (hothers : w.number ∉ others.map (·.number)) :
    room.wake w.number = { room with waiters := others ++ [⟨w.number, w.size, false, false⟩] } := by
  have hwaiter : room.waiter? w.number = some w := by
    rw [Room.waiter?, hwaiters, List.find?_cons_of_pos (by simp)]
  rw [Room.wake, hwaiter]
  simp only [hroused.1, hroused.2, Bool.and_self, if_true]
  rw [Room.register, Room.others, hwaiters, List.filter_cons_of_neg (by simp),
    filter_number_eq_self hothers]

/-- The first of those who start over registers anew and looks, then the
others. -/
theorem lookedInTurn_cons {demands : List Demand} (now : Nat) {w : Waiter}
    {pending others : List Waiter} {diary : Diary} {demand : Demand}
    (hwaiters : diary.hall.room.waiters = w :: others)
    (hroused : w.parked = true ∧ w.notified = true)
    (hothers : w.number ∉ others.map (·.number))
    (hdemand : demands[w.number]? = some demand) (hsize : demand.size = w.size) :
    diary.lookedInTurn demands now (w :: pending) =
      ((diary.withWaiters (others ++ [⟨w.number, demand.size, false, false⟩])).looked now w.number
        demand).lookedInTurn demands now pending := by
  -- only a waiter who is parked and has been told of the release registers anew
  have hwoken := wake_waiters hwaiters hroused hothers
  simp only [lookedInTurn, Hall.lookAgain, hdemand, hwoken, looked, withWaiters, hsize]

/-- All who were told of a release look in turn. -/
theorem round_lookedInTurn {demands : List Demand} (now : Nat) {pending done : List Waiter}
    {diary : Diary} (hwaiters : diary.hall.room.waiters = pending ++ done)
    (hroused : ∀ w ∈ pending, w.parked = true ∧ w.notified = true)
    (hsizes : ∀ w ∈ pending, ∃ demand, demands[w.number]? = some demand ∧ demand.size = w.size)
    (hnodup : ((pending ++ done).map (·.number)).Nodup) :
    Round demands now pending done diary (diary.lookedInTurn demands now pending) := by
  -- whoever looks in vain goes behind all others, so the line stays those who are still to
  -- look and then those who have
  induction pending generalizing done diary with
  | nil =>
    exact .ended done diary
  | cons w pending ih =>
    obtain ⟨demand, hdemand, hsize⟩ := hsizes w List.mem_cons_self
    rw [List.cons_append] at hwaiters
    rw [List.cons_append, List.map_cons] at hnodup
    obtain ⟨hothers, hrest⟩ := List.nodup_cons.mp hnodup
    rw [lookedInTurn_cons now hwaiters (hroused w List.mem_cons_self) hothers hdemand hsize]
    have hroused := fun other hother => hroused other (List.mem_cons_of_mem w hother)
    have hsizes := fun other hother => hsizes other (List.mem_cons_of_mem w hother)
    cases hfits : diary.hall.room.ledger.fits demand.size with
    | true =>
      rw [looked_of_fits now hothers hfits]
      exact .served hdemand hfits (ih rfl hroused hsizes hrest)
    | false =>
      rw [looked_of_full now hothers hfits, List.append_assoc]
      refine .parked hdemand hfits (ih rfl hroused hsizes ?_)
      rw [← List.append_assoc, List.map_append]
      refine List.nodup_append.mpr ⟨hrest, List.pairwise_singleton _ _, ?_⟩
      rintro first hfirst second hsecond rfl
      cases List.mem_singleton.mp hsecond
      exact hothers hfirst

/-! ## §5. One event. -/

/-- A hall in which all waiters are parked, each for a wish of its own, and
only wishes are on the agenda, each at its time. -/
structure Calm (demands : List Demand) (diary : Diary) : Prop where
  parked : ∀ w ∈ diary.hall.room.waiters, w.parked = true
  sizes : ∀ w ∈ diary.hall.room.waiters, ∃ demand, demands[w.number]? = some demand ∧
    demand.size = w.size
  nodup : (diary.hall.room.waiters.map (·.number)).Nodup
  arrives {time number : Nat} : (time, .arrives number) ∈ diary.hall.agenda.entries →
    number ∉ diary.hall.room.waiters.map (·.number) ∧
      ∃ demand, demands[number]? = some demand ∧ time = demand.arrival
  givesBack {time number : Nat} : (time, .givesBack number) ∈ diary.hall.agenda.entries →
    ∃ demand, demands[number]? = some demand

section Turn

variable {demands : List Demand} {diary : Diary} {entries : List (Nat × Event)}

/-- What is written down of an event that is handled now. -/
def handled (demands : List Demand) (now : Nat) (event : Event) (diary : Diary) : Diary :=
  { diary with hall := diary.hall.handle demands now event }

/-- A wish that can never be met is refused on arrival. -/
theorem handled_of_large {now number : Nat} {demand : Demand}
    (hdemand : demands[number]? = some demand)
    (hlarge : diary.hall.room.ledger.budget ≤ demand.size) :
    diary.handled demands now (.arrives number) = diary.failed now number
      (.fileTooLarge demand.size diary.hall.room.ledger.budget) diary.hall.room.waiters := by
  simp only [handled, Hall.handle, hdemand, Hall.arrive, checkSize, tooLarge, hlarge,
    decide_true, if_true]
  rfl

section Arrival

variable {now number : Nat} {demand : Demand} (hdemand : demands[number]? = some demand)
  (hsmall : ¬ diary.hall.room.ledger.budget ≤ demand.size)
  (hothers : number ∉ diary.hall.room.waiters.map (·.number))

include hdemand hsmall hothers

/-- A wish that fits is served on arrival. -/
theorem handled_of_fits (hfits : diary.hall.room.ledger.fits demand.size = true) :
    diary.handled demands now (.arrives number) =
      diary.served now number demand diary.hall.room.waiters := by
  have hlooked := looked_of_fits now hothers hfits
  have hhall := congrArg hall hlooked
  have hgone : (diary.served now number demand diary.hall.room.waiters).hall.room.waiter? number =
      none := find?_number_eq_none hothers
  dsimp only [looked, withWaiters] at hhall
  simp only [handled, Hall.handle, hdemand, Hall.arrive, checkSize, tooLarge, hsmall,
    decide_false, Bool.false_eq_true, if_false, Room.register, Room.others,
    filter_number_eq_self hothers, hhall, hgone, Option.isSome_none]
  rfl

theorem handled_of_full (hfull : diary.hall.room.ledger.fits demand.size = false) :
    diary.handled demands now (.arrives number) = diary.parked now number
      (diary.hall.room.waiters ++ [⟨number, demand.size, true, false⟩])
      (diary.hall.agenda.note (now + demand.patience) (.givesUp number)) := by
  -- whoever is still there after the look notes when to give up
  have hlooked := looked_of_full now hothers hfull
  have hhall := congrArg hall hlooked
  have hhere : (diary.parked now number (diary.hall.room.waiters ++
      [⟨number, demand.size, true, false⟩]) diary.hall.agenda).hall.room.waiter? number =
      some ⟨number, demand.size, true, false⟩ :=
    Room.waiter?_concat (w := ⟨number, demand.size, true, false⟩) diary.hall.room hothers
  dsimp only [looked, withWaiters] at hhall
  simp only [handled, Hall.handle, hdemand, Hall.arrive, checkSize, tooLarge, hsmall,
    decide_false, Bool.false_eq_true, if_false, Room.register, Room.others,
    filter_number_eq_self hothers, hhall, hhere, Option.isSome_some, if_true]
  rfl

end Arrival

theorem next_of_entries {now : Nat} {event : Event}
    (hentries : diary.hall.agenda.entries = (now, event) :: entries) :
    diary.next demands = (diary.opened now event entries).handled demands now event := by
  rw [next, Clock.Agenda.next?, hentries]
  rfl

/-- One event in a calm hall. -/
theorem turns_next (h : diary.Calm demands) : diary.Turns demands (diary.next demands) := by
  cases hentries : diary.hall.agenda.entries with
  | nil =>
    rw [next, Clock.Agenda.next?, hentries]
    exact .ended hentries
  | cons entry entries =>
    obtain ⟨now, event⟩ := entry
    cases event with
    | arrives number =>
      obtain ⟨hothers, demand, hdemand, rfl⟩ := h.arrives (hentries ▸ List.mem_cons_self)
      by_cases hlarge : diary.hall.room.ledger.budget ≤ demand.size
      · rw [(next_of_entries hentries).trans (handled_of_large hdemand hlarge)]
        exact .refused hentries hdemand hlarge
      · cases hfits : diary.hall.room.ledger.fits demand.size with
        | true =>
          rw [(next_of_entries hentries).trans (handled_of_fits hdemand hlarge hothers hfits)]
          exact .served hentries hdemand hlarge hfits
        | false =>
          rw [(next_of_entries hentries).trans (handled_of_full hdemand hlarge hothers hfits)]
          exact .parked hentries hdemand hlarge hfits
    | givesUp number =>
      -- no note is taken off the agenda, so it may come for someone who has gone
      rw [next_of_entries hentries]
      simp only [handled, Hall.handle, opened]
      cases hwaiter : diary.hall.room.waiter? number with
      | none =>
        refine .stale hentries fun hmem => ?_
        obtain ⟨w, hw, rfl⟩ := List.mem_map.mp hmem
        exact List.find?_eq_none.mp hwaiter w hw (decide_eq_true rfl)
      | some w =>
        have hw := List.mem_of_find?_eq_some hwaiter
        rw [Room.waiter?] at hwaiter
        obtain rfl : w.number = number := by simpa using List.find?_some hwaiter
        exact .gaveUp hentries hw
    | givesBack number =>
      -- all who wait are parked and told of it, so all of them start over
      obtain ⟨demand, hdemand⟩ := h.givesBack (hentries ▸ List.mem_cons_self)
      rw [next_of_entries hentries]
      simp only [handled, Hall.handle, hdemand]
      refine .released hentries hdemand (round_lookedInTurn now (List.append_nil _).symm ?_ ?_ ?_)
      · intro w hw
        obtain ⟨other, hother, rfl⟩ := List.mem_map.mp hw
        exact ⟨h.parked other hother, rfl⟩
      · intro w hw
        obtain ⟨other, hother, rfl⟩ := List.mem_map.mp hw
        exact h.sizes other hother
      · rw [List.append_nil, List.map_map]
        exact h.nodup

end Turn

end Diary

end BoardRelay.Ledger
