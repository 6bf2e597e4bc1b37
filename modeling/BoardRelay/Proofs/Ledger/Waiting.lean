/-
  BoardRelay.Proofs.Ledger.Waiting
  ────────────────────────────────
  What becomes of wishes for space.  The books of a hall stay in order at every
  event (`Diary.Sound.turns`): when all have looked in turn after a release,
  nobody is left waiting who would fit (`Diary.Round.sound`).  So every wish
  comes to its fate, by looks that are taken in time (`every_wish_settled`).
-/
import BoardRelay.Proofs.Ledger.Books

namespace BoardRelay.Ledger

namespace Diary

variable {budget : UInt64} {demands : List Demand} {diary next : Diary}

/-! ## §1. Those who wait. -/

/-- Those who wait are all who have arrived and are not settled, in order of
arrival.  Some are still to look; of the others, who are parked, none fits. -/
structure Queued (demands : List Demand) (pending done : List Waiter) (diary : Diary) : Prop where
  parked : ∀ w ∈ done, w.parked = true
  full : ∀ w ∈ done, diary.hall.room.ledger.fits w.size = false
  sizes : ∀ w ∈ done ++ pending, ∃ demand, demands[w.number]? = some demand ∧ demand.size = w.size
  order : (done ++ pending).map (·.number) = diary.waiting

/-- Nobody arrives twice. -/
theorem arrived_nodup (h : diary.Docketed demands) : diary.arrived.Nodup := by
  have honce := h.once
  rw [docket, List.map_append] at honce
  have harrived : diary.arrived = (diary.events.map (·.2)).filterMap Event.arrival? := by
    rw [List.filterMap_map]
    rfl
  rw [harrived]
  refine (List.nodup_append.mp honce).1.filterMap fun first second number hfirst hsecond => ?_
  cases first <;> cases hfirst
  cases second <;> cases hsecond
  rfl

theorem waiting_nodup (h : diary.Docketed demands) : diary.waiting.Nodup :=
  (arrived_nodup h).filter _

section Waiting

variable {now number : Nat} {event : Event} {entries : List (Nat × Event)} {demand : Demand}
  {waiters pending done : List Waiter} {w : Waiter}

/-- Who arrives waits behind all others until it is settled what becomes of the
wish. -/
theorem waiting_opened_arrives (hfresh : ∀ verdict, (number, verdict) ∉ diary.hall.verdicts) :
    (diary.opened now (.arrives number) entries).waiting = diary.waiting ++ [number] := by
  have hsettled : diary.isSettled number = false := by
    rw [← Bool.not_eq_true, isSettled_iff]
    rintro ⟨verdict, hverdict⟩
    exact hfresh verdict hverdict
  rw [waiting, arrived_opened, List.filter_append]
  refine congrArg _ (List.filter_cons_of_pos ?_)
  show (!diary.isSettled number) = true
  rw [hsettled]
  rfl

/-- Every other event leaves those who wait as they are, when it begins. -/
theorem waiting_opened (hevent : event.arrival? = none) :
    (diary.opened now event entries).waiting = diary.waiting := by
  rw [waiting, arrived_opened, hevent]
  exact congrArg _ (List.append_nil _)

/-- Whoever is settled waits no longer. -/
theorem waiting_settled {verdict : Verdict} (hevents : next.events = diary.events)
    (hverdicts : next.hall.verdicts = diary.hall.verdicts ++ [(number, verdict)]) :
    next.waiting = diary.waiting.filter (· != number) := by
  rw [waiting, waiting, arrived, hevents, List.filter_filter]
  refine List.filter_congr fun other _ => ?_
  have hsettled : next.isSettled other = (diary.isSettled other || number == other) := by
    rw [isSettled, hverdicts, List.any_append, isSettled]
    simp
  rw [hsettled, Bool.not_or, Bool.and_comm, bne, Bool.beq_comm]

/-- Taking a name out of a list without repetitions takes out the one place
where it stands. -/
theorem filter_ne_middle {before after : List Nat} (h : (before ++ number :: after).Nodup) :
    (before ++ number :: after).filter (· != number) = before ++ after := by
  rw [← h.erase_eq_filter, List.erase_append_right _ fun hmem =>
    (List.nodup_append.mp h).2.2 number hmem number List.mem_cons_self rfl, List.erase_cons_head]

/-- Who does not fit does not fit either when someone else has taken space. -/
theorem fits_take {ledger : Ledger} {size other : UInt64} (hfits : ledger.fits size = true)
    (hfull : ledger.fits other = false) : (ledger.take size).fits other = false := by
  have hsum := toNat_take hfits
  rw [← Bool.not_eq_true, fits_iff] at hfull ⊢
  rw [hsum]
  show ¬ _ < ledger.budget.toNat
  omega

/-- Whoever is settled leaves the line. -/
theorem Queued.order_settled (h : diary.Queued demands (w :: pending) done)
    (hdocketed : diary.Docketed demands) {verdict : Verdict} (hevents : next.events = diary.events)
    (hverdicts : next.hall.verdicts = diary.hall.verdicts ++ [(w.number, verdict)]) :
    (done ++ pending).map (·.number) = next.waiting := by
  have hnodup := waiting_nodup hdocketed
  rw [waiting_settled hevents hverdicts, ← h.order, List.map_append, List.map_append, List.map_cons]
  rw [← h.order, List.map_append, List.map_cons] at hnodup
  exact (filter_ne_middle hnodup).symm

/-- When the first has looked, the others still have wishes of their own. -/
theorem Queued.sizes_tail (h : diary.Queued demands (w :: pending) done) :
    ∀ other ∈ done ++ pending, ∃ demand, demands[other.number]? = some demand ∧
      demand.size = other.size := by
  intro other hother
  refine h.sizes other ?_
  rcases List.mem_append.mp hother with hdone | hpending
  · exact List.mem_append_left _ hdone
  · exact List.mem_append_right _ (List.mem_cons_of_mem _ hpending)

/-- The first of those who are still to look finds space. -/
theorem Queued.served (h : diary.Queued demands (w :: pending) done)
    (hdocketed : diary.Docketed demands)
    (hfits : diary.hall.room.ledger.fits demand.size = true) :
    (diary.served now w.number demand waiters).Queued demands pending done where
  parked := h.parked
  full other hother := fits_take hfits (h.full other hother)
  sizes := h.sizes_tail
  order := h.order_settled hdocketed rfl rfl

/-- The first of those who are still to look finds no space. -/
theorem Queued.parked_again (h : diary.Queued demands (w :: pending) done)
    (hdemand : demands[w.number]? = some demand)
    (hfull : diary.hall.room.ledger.fits demand.size = false) (agenda : Clock.Agenda Event) :
    (diary.parked now w.number waiters agenda).Queued demands pending
      (done ++ [⟨w.number, demand.size, true, false⟩]) where
  parked other hother := by
    rcases List.mem_append.mp hother with hbefore | hnew
    · exact h.parked other hbefore
    · rw [List.mem_singleton.mp hnew]
  full other hother := by
    rcases List.mem_append.mp hother with hbefore | hnew
    · exact h.full other hbefore
    · rw [List.mem_singleton.mp hnew]
      exact hfull
  sizes other hother := by
    rcases List.mem_append.mp hother with hbefore | hpending
    · rcases List.mem_append.mp hbefore with hdone | hnew
      · exact h.sizes other (List.mem_append_left _ hdone)
      · rw [List.mem_singleton.mp hnew]
        exact ⟨demand, hdemand, rfl⟩
    · exact h.sizes other (List.mem_append_right _ (List.mem_cons_of_mem _ hpending))
  order := by
    refine Eq.trans ?_ h.order
    simp

/-- The first of those who are still to look is turned away. -/
theorem Queued.failed (h : diary.Queued demands (w :: pending) done)
    (hdocketed : diary.Docketed demands) (error : Error) :
    (diary.failed now w.number error waiters).Queued demands pending done where
  parked := h.parked
  full := h.full
  sizes := h.sizes_tail
  order := h.order_settled hdocketed rfl rfl

/-- Someone arrives, and is still to look. -/
theorem Queued.arrives (h : diary.Queued demands [] done)
    (hdemand : demands[number]? = some demand)
    (hfresh : ∀ verdict, (number, verdict) ∉ diary.hall.verdicts) :
    (diary.opened now (.arrives number) entries).Queued demands
      [⟨number, demand.size, false, false⟩] done where
  parked := h.parked
  full := h.full
  sizes other hother := by
    rcases List.mem_append.mp hother with hdone | hnew
    · exact h.sizes other (List.mem_append_left _ hdone)
    · rw [List.mem_singleton.mp hnew]
      exact ⟨demand, hdemand, rfl⟩
  order := by
    rw [waiting_opened_arrives hfresh, ← h.order, List.append_nil, List.map_append]
    rfl

/-- An event that is no arrival leaves the line as it is, when it begins. -/
theorem Queued.opened (h : diary.Queued demands [] done) (hevent : event.arrival? = none) :
    (diary.opened now event entries).Queued demands [] done :=
  ⟨h.parked, h.full, h.sizes, h.order.trans (waiting_opened hevent).symm⟩

/-- Someone gives up, wherever they are in the line. -/
theorem Queued.gaveUp (h : diary.Queued demands [] done) (number : Nat) (error : Error) :
    (diary.failed now number error waiters).Queued demands []
      (done.filter (·.number != number)) where
  parked other hother := h.parked other (List.mem_of_mem_filter hother)
  full other hother := h.full other (List.mem_of_mem_filter hother)
  sizes other hother := by
    rw [List.append_nil] at hother
    exact h.sizes other (List.mem_append_left _ (List.mem_of_mem_filter hother))
  order := by
    have hline := h.order
    have hleft : (diary.failed now number error waiters).waiting =
        diary.waiting.filter (· != number) := waiting_settled rfl rfl
    rw [List.append_nil] at hline ⊢
    rw [hleft, ← hline, List.filter_map]
    rfl

/-- After a release all are still to look. -/
theorem Queued.released (h : diary.Queued demands [] done) (size : UInt64) :
    (diary.released size).Queued demands (done.map Waiter.rouse) [] where
  parked := nofun
  full := nofun
  sizes other hother := by
    obtain ⟨before, hbefore, rfl⟩ := List.mem_map.mp hother
    exact h.sizes before (List.mem_append_left _ hbefore)
  order := by
    refine Eq.trans ?_ h.order
    rw [List.nil_append, List.append_nil, List.map_map]
    rfl

end Waiting

/-! ## §2. Looking in turn. -/

/-- Whoever waits has looked in vain, and may look again at a release. -/
theorem Kept.asks (h : diary.Kept budget demands none) {number now : Nat} {demand : Demand}
    (hdemand : demands[number]? = some demand) (hwaiting : number ∈ diary.waiting)
    (hpast : ∀ entry ∈ diary.events, entry.1 ≤ now)
    (hrelease : ∃ other, (now, .givesBack other) ∈ diary.events) :
    diary.Asks budget now number demand ∧
      (demand.arrival + demand.patience, .givesUp number) ∈ diary.hall.agenda.entries := by
  obtain ⟨harrived, hfresh⟩ := mem_waiting.mp hwaiting
  cases h.stands hdemand nofun with
  | coming hcoming => exact absurd harrived hcoming
  | settled _ hverdict => exact absurd hverdict (hfresh _)
  | waiting _ hsmall htimely hvain hdue =>
    have hafter : demand.arrival ≤ now := by
      obtain ⟨time, hmem⟩ := mem_arrived.mp harrived
      obtain ⟨found, hfound, rfl⟩ := h.docketed.arrives.mp (List.mem_append_left _ hmem)
      cases hdemand.symm.trans hfound
      exact hpast _ hmem
    -- the end of patience is still on the agenda, so the release does not come after it
    have hbefore : now ≤ demand.arrival + demand.patience := by
      obtain ⟨other, hother⟩ := hrelease
      exact (List.pairwise_append.mp h.docketed.sorted).2.2 _ hother _ hdue
    exact ⟨⟨harrived, hfresh, hsmall, hvain, .inr ⟨htimely, hafter, hbefore, hrelease⟩⟩, hdue⟩

/-- Books in order in a hall where nobody is still to look. -/
structure Sound (budget : UInt64) (demands : List Demand) (diary : Diary) : Prop where
  kept : diary.Kept budget demands none
  queued : diary.Queued demands [] diary.hall.room.waiters

/-- Who is to look next waits. -/
theorem Queued.mem_waiting_head {w : Waiter} {pending done : List Waiter}
    (h : diary.Queued demands (w :: pending) done) : w.number ∈ diary.waiting := by
  rw [← h.order, List.map_append, List.map_cons]
  exact List.mem_append_right _ List.mem_cons_self

/-- When all have looked in turn, nobody who waits would fit. -/
theorem Round.sound {now : Nat} {pending done : List Waiter}
    (hround : Round demands now pending done diary next)
    (hkept : diary.Kept budget demands none) (hqueued : diary.Queued demands pending done)
    (hwaiters : diary.hall.room.waiters = pending ++ done)
    (hpast : ∀ entry ∈ diary.events, entry.1 ≤ now)
    (hrelease : ∃ other, (now, .givesBack other) ∈ diary.events) : next.Sound budget demands := by
  -- those who have looked stay too large whatever the others take; in the end all have looked
  induction hround with
  | ended done diary =>
    refine ⟨hkept, ?_⟩
    rwa [hwaiters]
  | @served w pending done diary next demand hdemand hfits hround ih =>
    obtain ⟨hasks, -⟩ := hkept.asks hdemand hqueued.mem_waiting_head hpast hrelease
    obtain ⟨other, hother⟩ := hrelease
    exact ih ((hkept.weaken (some w.number)).served hdemand hasks ⟨_, hother, rfl⟩ hpast hfits)
      (hqueued.served hkept.docketed hfits) rfl hpast ⟨other, hother⟩
  | @parked w pending done diary next demand hdemand hfull hround ih =>
    obtain ⟨hasks, hdue⟩ := hkept.asks hdemand hqueued.mem_waiting_head hpast hrelease
    exact ih ((hkept.weaken (some w.number)).parked hdemand hasks hfull hkept.docketed.parked hdue
      fun _ hentry => hentry) (hqueued.parked_again hdemand hfull _) rfl hpast hrelease

/-- The look of one who comes first, and those of all who come after. -/
theorem exists_looks_cons (first : Look) {w : Waiter} {pending : List Waiter}
    {before all : List Look} (hnumber : first.number = w.number)
    (h : ∃ looks, all = before ++ [first] ++ looks ∧
      looks.map (·.number) = pending.map (·.number) ∧ ∀ look ∈ looks, look.time = first.time) :
    ∃ looks, all = before ++ looks ∧ looks.map (·.number) = (w :: pending).map (·.number) ∧
      ∀ look ∈ looks, look.time = first.time := by
  obtain ⟨looks, rfl, hnumbers, htimes⟩ := h
  refine ⟨first :: looks, List.append_assoc _ _ _, ?_, fun look hlook => ?_⟩
  · rw [List.map_cons, List.map_cons, hnumber, hnumbers]
  · exact (List.mem_cons.mp hlook).elim (congrArg Look.time) (htimes look)

/-- What is written down when all look in turn: one look of each, and nobody
leaves without space. -/
theorem Round.told {now : Nat} {pending done : List Waiter}
    (hround : Round demands now pending done diary next) :
    next.events = diary.events ∧
      (∃ looks, next.looks = diary.looks ++ looks ∧
        looks.map (·.number) = pending.map (·.number) ∧ ∀ look ∈ looks, look.time = now) ∧
      (∀ entry ∈ diary.hall.verdicts, entry ∈ next.hall.verdicts) ∧
      ∀ entry ∈ next.hall.verdicts, entry ∈ diary.hall.verdicts ∨ entry.2.result = .ok () := by
  -- Induction on those who look in turn; each adds one look, and a verdict if there is space.
  induction hround with
  | ended =>
    exact ⟨rfl, ⟨[], (List.append_nil _).symm, rfl, nofun⟩, fun _ hentry => hentry,
      fun _ => .inl⟩
  | @served w pending done diary next demand hdemand hfits hround ih =>
    obtain ⟨hevents, hlooks, hkept, hnew⟩ := ih
    refine ⟨hevents, exists_looks_cons ⟨w.number, now, diary.hall.room.ledger⟩ rfl hlooks,
      fun entry hentry => hkept entry (List.mem_append_left _ hentry), fun entry hentry => ?_⟩
    rcases hnew entry hentry with hbefore | hok
    · rcases List.mem_append.mp hbefore with hold | hlast
      · exact .inl hold
      · rw [List.mem_singleton.mp hlast]
        exact .inr rfl
    · exact .inr hok
  | @parked w pending done diary next demand hdemand hfull hround ih =>
    obtain ⟨hevents, hlooks, hkept, hnew⟩ := ih
    exact ⟨hevents, exists_looks_cons ⟨w.number, now, diary.hall.room.ledger⟩ rfl hlooks,
      hkept, hnew⟩

/-! ## §3. One event. -/

/-- Sound books are those of a calm hall. -/
theorem Sound.calm (h : diary.Sound budget demands) : diary.Calm demands := by
  have hline : diary.hall.room.waiters.map (·.number) = diary.waiting := by
    rw [← h.queued.order, List.append_nil]
  have hdocketed := h.kept.docketed
  refine ⟨h.queued.parked, fun w hw => h.queued.sizes w (List.mem_append_left _ hw),
    hline ▸ waiting_nodup hdocketed, fun {time number} hmem => ⟨fun hwaits => ?_, ?_⟩,
    fun {time number} hmem => ?_⟩
  · rw [hline] at hwaits
    obtain ⟨before, hbefore⟩ := mem_arrived.mp (mem_waiting.mp hwaits).1
    -- whose arrival is on the agenda has not arrived, so does not wait
    have honce := hdocketed.once
    rw [docket, List.map_append] at honce
    exact (List.nodup_append.mp honce).2.2 _ (List.mem_map.mpr ⟨_, hbefore, rfl⟩) _
      (List.mem_map.mpr ⟨_, hmem, rfl⟩) rfl
  · exact hdocketed.arrives.mp (List.mem_append_right _ hmem)
  · obtain ⟨demand, -, -, hdemand, -⟩ := hdocketed.givesBack.mp (List.mem_append_right _ hmem)
    exact ⟨demand, hdemand⟩

section Event

variable {now number : Nat} {event : Event} {entries : List (Nat × Event)} {demand : Demand}

/-- An event that gives nothing back keeps the books, but for a wish that it is
about. -/
theorem Kept.opened (h : diary.Kept budget demands none) {absent : Option Nat}
    (hentries : diary.hall.agenda.entries = (now, event) :: entries)
    (hevent : ∀ other, event ≠ .givesBack other)
    (habout : ∀ other, some other ≠ absent →
      event ≠ .arrives other ∧ (other ∈ diary.waiting → event ≠ .givesUp other)) :
    (diary.opened now event entries).Kept budget demands absent where
  docketed := h.docketed.opened hentries
  weighed := h.weighed.opened hevent
  single := h.single
  stands hdemand hthere :=
    (h.stands hdemand nofun).opened hentries (habout _ hthere).1 (habout _ hthere).2

/-- Nothing is written down of a wish that comes up now. -/
theorem Kept.coming (h : diary.Kept budget demands none)
    (hentries : diary.hall.agenda.entries = (now, .arrives number) :: entries)
    (hdemand : demands[number]? = some demand) :
    (∀ verdict, (number, verdict) ∉ diary.hall.verdicts) ∧ diary.looksOf number = [] := by
  have hcoming : number ∉ diary.arrived := fun hmem =>
    let ⟨time, hbefore⟩ := mem_arrived.mp hmem
    (h.docketed.fresh hentries).1 time hbefore
  cases h.stands hdemand nofun with
  | coming _ hfresh hlooks => exact ⟨hfresh, hlooks⟩
  | waiting hwaiting => exact absurd (mem_waiting.mp hwaiting).1 hcoming
  | settled harrived => exact absurd harrived hcoming

/-- Who arrives now has arrived. -/
theorem mem_arrived_opened (entries : List (Nat × Event)) :
    number ∈ (diary.opened now (.arrives number) entries).arrived := by
  rw [arrived_opened]
  exact List.mem_append_right _ (List.mem_singleton_self _)

/-- Someone arrives whose wish may be met. -/
theorem Kept.arrives (h : diary.Kept budget demands none)
    (hentries : diary.hall.agenda.entries = (demand.arrival, .arrives number) :: entries)
    (hdemand : demands[number]? = some demand) :
    (diary.opened demand.arrival (.arrives number) entries).Kept budget demands (some number) ∧
      (demand.size < budget →
        (diary.opened demand.arrival (.arrives number) entries).Asks budget demand.arrival number
          demand) := by
  obtain ⟨hfresh, hlooks⟩ := h.coming hentries hdemand
  refine ⟨h.opened hentries nofun fun other hother => ⟨?_, nofun⟩, fun hsmall => ?_⟩
  · rintro ⟨⟩
    exact hother rfl
  · have hlooks : (diary.opened demand.arrival (.arrives number) entries).looksOf number = [] :=
      hlooks
    refine ⟨mem_arrived_opened _, hfresh, hsmall, fun look hlook => ?_, .inl ⟨hlooks, rfl⟩⟩
    rw [hlooks] at hlook
    cases hlook

/-- Someone holds space who got it and has not given it back. -/
theorem mem_holders : number ∈ diary.holders ↔ ∃ verdict,
    (number, verdict) ∈ diary.hall.verdicts ∧ verdict.result.isOk = true ∧
      diary.hasReturned number = false := by
  simp [holders, and_assoc]

/-- Someone gives space back, which they hold. -/
theorem Kept.released (h : diary.Kept budget demands none)
    (hentries : diary.hall.agenda.entries = (now, .givesBack number) :: entries)
    (hdemand : demands[number]? = some demand) :
    ((diary.opened now (.givesBack number) entries).released demand.size).Kept budget demands
      none := by
  have hdocketed := h.docketed.opened hentries
  -- what is given back is held: it was got, and it is given back once
  have hholds : number ∈ diary.holders := by
    obtain ⟨-, -, verdict, -, -, hverdict, hok, -⟩ :=
      h.docketed.givesBack.mp (mem_docket_of_entries hentries)
    refine mem_holders.mpr ⟨verdict, hverdict, by rw [hok]; rfl, ?_⟩
    rw [← Bool.not_eq_true, hasReturned_iff]
    rintro ⟨time, hbefore⟩
    exact (h.docketed.fresh hentries).1 time hbefore
  -- one verdict for each wish, so each holder holds once
  have honce : diary.holders.Nodup := List.Nodup.sublist (List.filter_sublist.map _) h.single
  refine ⟨⟨hdocketed.sorted, hdocketed.once, hdocketed.arrives, hdocketed.givesUp,
    hdocketed.givesBack, hdocketed.dated⟩, h.weighed.released hdemand hholds honce entries,
    h.single, fun hfound _ => ?_⟩
  exact ((h.stands hfound nofun).opened hentries nofun fun _ => nofun).frame
    (fun _ hentry => hentry) id (fun _ => Iff.rfl) rfl fun _ _ hmem => hmem

/-- Whoever stands in the line waits. -/
theorem mem_waiting_of_mem {w : Waiter} {done : List Waiter}
    (h : diary.Queued demands [] done) (hw : w ∈ done) : w.number ∈ diary.waiting := by
  rw [← h.order, List.append_nil]
  exact List.mem_map_of_mem hw

/-- Someone whose patience ends leaves. -/
theorem Sound.gaveUp (h : diary.Sound budget demands) {w : Waiter}
    (hentries : diary.hall.agenda.entries = (now, .givesUp w.number) :: entries)
    (hw : w ∈ diary.hall.room.waiters) :
    ((diary.opened now (.givesUp w.number) entries).failed now w.number (.quotaExhausted w.size)
      (diary.hall.room.others w.number)).Sound budget demands := by
  have hwaits := mem_waiting_of_mem h.queued hw
  obtain ⟨harrived, hfresh⟩ := mem_waiting.mp hwaits
  obtain ⟨demand, hdemand, hsize⟩ := h.queued.sizes w (List.mem_append_left _ hw)
  have hopened : (diary.opened now (.givesUp w.number) entries).Kept budget demands
      (some w.number) := by
    refine h.kept.opened hentries nofun fun other hother => ⟨nofun, fun _ => ?_⟩
    rintro ⟨⟩
    exact hother rfl
  have htime : now = demand.arrival + demand.patience := by
    obtain ⟨found, hfound, htime, -⟩ :=
      h.kept.docketed.givesUp (mem_docket_of_entries hentries)
    cases hdemand.symm.trans hfound
    exact htime
  refine ⟨hopened.failed hdemand hfresh ⟨_, List.mem_append_right _ (List.mem_singleton_self _),
    rfl⟩ ?_, (h.queued.opened rfl).gaveUp w.number _⟩
  -- who is in the line has arrived and is not settled, so only one case is left
  cases h.kept.stands hdemand nofun with
  | coming hcoming => exact absurd harrived hcoming
  | settled _ hverdict => exact absurd hverdict (hfresh _)
  | waiting _ hsmall htimely hvain hdue =>
    have hlater : ∀ entry ∈ diary.events, entry ∈ diary.events ++ [(now, .givesUp w.number)] :=
      fun entry hentry => List.mem_append_left _ hentry
    refine .settled ?_ (List.mem_append_right _ (List.mem_singleton_self _)) ?_ fun _ =>
      htimely.mono hlater
    · obtain ⟨time, hmem⟩ := mem_arrived.mp harrived
      exact mem_arrived.mpr ⟨time, hlater _ hmem⟩
    · rw [← hsize, htime]
      exact .exhausted hsmall hvain _

/-- Someone whose wish can never be met is turned away. -/
theorem Sound.refused (h : diary.Sound budget demands)
    (hentries : diary.hall.agenda.entries = (demand.arrival, .arrives number) :: entries)
    (hdemand : demands[number]? = some demand) (hlarge : budget ≤ demand.size) :
    ((diary.opened demand.arrival (.arrives number) entries).failed demand.arrival number
      (.fileTooLarge demand.size budget) diary.hall.room.waiters).Sound budget demands := by
  obtain ⟨hfresh, hlooks⟩ := h.kept.coming hentries hdemand
  obtain ⟨hopened, -⟩ := h.kept.arrives hentries hdemand
  refine ⟨hopened.failed hdemand hfresh ⟨_, List.mem_append_right _ (List.mem_singleton_self _),
    rfl⟩ ?_, (h.queued.arrives hdemand hfresh).failed hopened.docketed _⟩
  refine .settled (mem_arrived_opened entries)
    (List.mem_append_right _ (List.mem_singleton_self _)) ?_ ?_
  · -- a size that can never fit is refused at once, without a look
    have hnone : ((diary.opened demand.arrival (.arrives number) entries).failed demand.arrival
        number (.fileTooLarge demand.size budget) diary.hall.room.waiters).looksOf number = [] :=
      hlooks
    rw [hnone]
    exact .tooLarge hlarge _
  · intro hsmall
    exact absurd hlarge (UInt64.not_le.mpr hsmall)

/-- Whatever happens next, the books stay in order. -/
theorem Sound.turns (h : diary.Sound budget demands) (hturns : diary.Turns demands next) :
    next.Sound budget demands := by
  have hlimit := h.kept.weighed.limit
  -- on an arrival one is still to look, after a release all are, and else nobody
  cases hturns with
  | ended => exact h
  | refused hentries hdemand hlarge =>
    rw [hlimit] at hlarge ⊢
    exact h.refused hentries hdemand hlarge
  | @served number demand entries hentries hdemand hsmall hfits =>
    rw [hlimit, UInt64.not_le] at hsmall
    obtain ⟨hopened, hasks⟩ := h.kept.arrives hentries hdemand
    obtain ⟨hfresh, -⟩ := h.kept.coming hentries hdemand
    refine ⟨hopened.served hdemand (hasks hsmall) ⟨_, List.mem_append_right _
      (List.mem_singleton_self _), rfl⟩ (h.kept.docketed.le_now hentries) hfits, ?_⟩
    exact (h.queued.arrives hdemand hfresh).served hopened.docketed hfits
  | @parked number demand entries hentries hdemand hsmall hfull =>
    rw [hlimit, UInt64.not_le] at hsmall
    obtain ⟨hopened, hasks⟩ := h.kept.arrives hentries hdemand
    obtain ⟨hfresh, hlooks⟩ := h.kept.coming hentries hdemand
    have hdocketed := hopened.docketed.noted demand.arrival
      (diary.hall.room.waiters ++ [⟨number, demand.size, true, false⟩]) hdemand
      (h.kept.docketed.le_now hentries) hlooks
    refine ⟨hopened.parked hdemand (hasks hsmall) hfull hdocketed
      (Clock.Agenda.mem_insertEntry.mpr (.inl rfl))
      fun entry hentry => Clock.Agenda.mem_insertEntry.mpr (.inr hentry), ?_⟩
    exact (h.queued.arrives hdemand hfresh).parked_again hdemand hfull _
  | @stale now number entries hentries hgone =>
    refine ⟨h.kept.opened hentries nofun fun other _ => ⟨nofun, ?_⟩, h.queued.opened rfl⟩
    rintro hwaiting ⟨⟩
    rw [← h.queued.order, List.append_nil] at hwaiting
    exact hgone hwaiting
  | gaveUp hentries hw => exact h.gaveUp hentries hw
  | @released now number demand entries next hentries hdemand hround =>
    refine hround.sound (h.kept.released hentries hdemand) ?_ (List.append_nil _).symm
      (h.kept.docketed.le_now hentries) ⟨number, List.mem_append_right _
        (List.mem_singleton_self _)⟩
    exact (h.queued.opened rfl).released demand.size

end Event

/-! ## §4. What an event adds. -/

/-- What is written down of one event: the looks, which all who wait take in
order if it is a release, and verdicts; who leaves without space leaves the
ledger as it is. -/
structure Leads (diary next : Diary) : Prop where
  events : next.events = diary.events ++ diary.hall.agenda.entries.head?.toList
  looks : ∃ looks, next.looks = diary.looks ++ looks ∧
    ∀ {time number : Nat}, diary.hall.agenda.entries.head? = some (time, .givesBack number) →
      looks.map (·.number) = diary.waiting ∧ ∀ look ∈ looks, look.time = time
  verdicts : ∀ entry ∈ diary.hall.verdicts, entry ∈ next.hall.verdicts
  failing {entry : Nat × Verdict} : entry ∈ next.hall.verdicts → entry ∉ diary.hall.verdicts →
    entry.2.result ≠ .ok () → next.hall.room.ledger = diary.hall.room.ledger

/-- What an event adds that is no release. -/
theorem leads_of_entries {now : Nat} {event : Event} {entries : List (Nat × Event)}
    (hentries : diary.hall.agenda.entries = (now, event) :: entries)
    (hevent : ∀ other, event ≠ .givesBack other)
    (hevents : next.events = diary.events ++ [(now, event)]) {looks : List Look}
    (hlooks : next.looks = diary.looks ++ looks)
    (hverdicts : ∀ entry ∈ diary.hall.verdicts, entry ∈ next.hall.verdicts)
    (hfailing : ∀ entry ∈ next.hall.verdicts, entry ∉ diary.hall.verdicts →
      entry.2.result ≠ .ok () → next.hall.room.ledger = diary.hall.room.ledger) :
    diary.Leads next := by
  refine ⟨?_, ⟨looks, hlooks, fun hhead => ?_⟩, hverdicts, fun hentry => hfailing _ hentry⟩
  · rw [hevents, hentries]
    rfl
  · rw [hentries] at hhead
    cases hhead
    exact absurd rfl (hevent _)

/-- **Each event adds what it should**: at a release all who wait look, in
order of arrival. -/
theorem Sound.leads (h : diary.Sound budget demands) (hturns : diary.Turns demands next) :
    diary.Leads next := by
  have hnone : diary.looks = diary.looks ++ [] := (List.append_nil _).symm
  -- only at a release is it told who looks, which the round tells
  cases hturns with
  | ended hentries =>
    refine ⟨?_, ⟨[], hnone, fun hhead => ?_⟩, fun _ hentry => hentry,
      fun hentry hnew => absurd hentry hnew⟩
    · rw [hentries]
      exact (List.append_nil _).symm
    · rw [hentries] at hhead
      cases hhead
  | refused hentries =>
    exact leads_of_entries hentries nofun rfl hnone
      (fun _ hentry => List.mem_append_left _ hentry) fun _ _ _ _ => rfl
  | served hentries =>
    refine leads_of_entries hentries nofun rfl rfl
      (fun _ hentry => List.mem_append_left _ hentry) fun entry hentry hnew hfails => ?_
    rcases List.mem_append.mp hentry with hbefore | hlast
    · exact absurd hbefore hnew
    · rw [List.mem_singleton.mp hlast] at hfails
      exact absurd rfl hfails
  | parked hentries =>
    exact leads_of_entries hentries nofun rfl rfl (fun _ hentry => hentry)
      fun _ hentry hnew => absurd hentry hnew
  | stale hentries =>
    exact leads_of_entries hentries nofun rfl hnone (fun _ hentry => hentry)
      fun _ hentry hnew => absurd hentry hnew
  | gaveUp hentries =>
    exact leads_of_entries hentries nofun rfl hnone
      (fun _ hentry => List.mem_append_left _ hentry) fun _ _ _ _ => rfl
  | released hentries hdemand hround =>
    obtain ⟨hevents, ⟨looks, hlooks, hnumbers, htimes⟩, hkept, hnew⟩ := hround.told
    refine ⟨?_, ⟨looks, hlooks, fun hhead => ?_⟩, hkept, fun hentry hfresh hfails => ?_⟩
    · rw [hevents, hentries]
      rfl
    · rw [hentries] at hhead
      cases hhead
      refine ⟨?_, htimes⟩
      rw [hnumbers, ← h.queued.order, List.append_nil, List.map_map]
      rfl
    · rcases hnew _ hentry with hbefore | hok
      · exact absurd hbefore hfresh
      · exact absurd hok hfails

/-- Whether a look is taken at each release between arrival and the end of
patience, until there is space. -/
def Attends (number : Nat) (demand : Demand) (diary : Diary) : Prop :=
  ∀ time other, (time, .givesBack other) ∈ diary.events → demand.arrival < time →
    time < demand.arrival + demand.patience →
      (∃ look ∈ diary.looksOf number, look.time = time) ∨
        ∃ verdict, (number, verdict) ∈ diary.hall.verdicts ∧ verdict.result = .ok () ∧
          verdict.time < time

/-- Nothing on the agenda is due before the next event. -/
theorem Docketed.le_of_mem (h : diary.Docketed demands) {now : Nat} {event : Event}
    {entries : List (Nat × Event)}
    (hentries : diary.hall.agenda.entries = (now, event) :: entries) {entry : Nat × Event}
    (hentry : entry ∈ diary.hall.agenda.entries) : now ≤ entry.1 := by
  have hsorted := h.sorted
  rw [docket, hentries] at hsorted
  rw [hentries] at hentry
  rcases List.mem_cons.mp hentry with rfl | hrest
  · exact Nat.le_refl _
  · exact (List.pairwise_cons.mp (List.pairwise_append.mp hsorted).2.1).1 entry hrest

/-- Who waits looks at a release; who does not has had space before, or their
patience has ended. -/
theorem Attends.leads {number : Nat} {demand : Demand} (h : diary.Attends number demand)
    (hsound : diary.Sound budget demands) (hdemand : demands[number]? = some demand)
    (hsmall : demand.size < budget) (hleads : diary.Leads next) : next.Attends number demand := by
  obtain ⟨looks, hlooks, hrelease⟩ := hleads.looks
  have hgrows : ∀ look ∈ diary.looksOf number, look ∈ next.looksOf number := by
    intro look hlook
    obtain ⟨hmem, hnumber⟩ := List.mem_filter.mp hlook
    exact List.mem_filter.mpr ⟨by rw [hlooks]; exact List.mem_append_left _ hmem, hnumber⟩
  intro time other hmem hafter hbefore
  rw [hleads.events] at hmem
  rcases List.mem_append.mp hmem with hold | hnow
  · rcases h time other hold hafter hbefore with ⟨look, hlook, htime⟩ | ⟨verdict, hverdict, hrest⟩
    · exact .inl ⟨look, hgrows look hlook, htime⟩
    · exact .inr ⟨verdict, hleads.verdicts _ hverdict, hrest⟩
  · -- this is the release
    have hhead := Option.mem_toList.mp hnow
    obtain ⟨entries, hentries⟩ := List.head?_eq_some_iff.mp hhead
    obtain ⟨hnumbers, htimes⟩ := hrelease hhead
    cases hsound.kept.stands hdemand nofun with
    | coming hcoming =>
      have hdue : (demand.arrival, .arrives number) ∈ diary.docket :=
        hsound.kept.docketed.arrives.mpr ⟨demand, hdemand, rfl⟩
      rcases List.mem_append.mp hdue with hpast | hlater
      · exact absurd (mem_arrived.mpr ⟨_, hpast⟩) hcoming
      · exact absurd (hsound.kept.docketed.le_of_mem hentries hlater) (Nat.not_le.mpr hafter)
    | waiting hwaiting =>
      rw [← hnumbers] at hwaiting
      obtain ⟨look, hlook, rfl⟩ := List.mem_map.mp hwaiting
      refine .inl ⟨look, List.mem_filter.mpr ⟨?_, beq_self_eq_true _⟩, htimes look hlook⟩
      rw [hlooks]
      exact List.mem_append_right _ hlook
    | @settled harrived verdict hverdict hfate =>
      -- settled by now: not by patience, which has not ended, so by space, now or before
      obtain ⟨event, hevent, hdated⟩ := hsound.kept.docketed.dated _ hverdict
      have hle : verdict.time ≤ time := hdated ▸
        hsound.kept.docketed.le_now hentries event (List.mem_append_left _ hevent)
      generalize hlooked : diary.looksOf number = looked at hfate
      cases hfate with
      | tooLarge hlarge => exact absurd hlarge (UInt64.not_le.mpr hsmall)
      | exhausted => exact absurd hle (Nat.not_le.mpr hbefore)
      | @served _ vain _ last =>
        rcases Nat.lt_or_eq_of_le hle with hlt | heq
        · exact .inr ⟨_, hleads.verdicts _ hverdict, rfl, hlt⟩
        · refine .inl ⟨last, hgrows last ?_, heq⟩
          rw [hlooked]
          exact List.mem_append_right _ (List.mem_singleton_self _)

/-! ## §5. From the first wish to the last event. -/

/-- An agenda on which wishes are noted one after another. -/
theorem perm_noteAll (wishes : List (Demand × Nat)) (agenda : Clock.Agenda Event) :
    ((wishes.foldl (fun agenda (demand, number) =>
      agenda.note demand.arrival (.arrives number)) agenda).entries).Perm
        (wishes.map (fun wish => (wish.1.arrival, Event.arrives wish.2)) ++ agenda.entries) := by
  induction wishes generalizing agenda with
  | nil => exact .refl _
  | cons wish wishes ih =>
    refine (ih _).trans (((Clock.Agenda.perm_insertEntry _ _).append_left _).trans ?_)
    exact List.perm_middle

theorem sorted_noteAll (wishes : List (Demand × Nat)) {agenda : Clock.Agenda Event}
    (h : agenda.entries.Pairwise fun earlier later => earlier.1 ≤ later.1) :
    ((wishes.foldl (fun agenda (demand, number) =>
      agenda.note demand.arrival (.arrives number)) agenda).entries).Pairwise
        fun earlier later => earlier.1 ≤ later.1 := by
  -- each new entry is put in its place
  induction wishes generalizing agenda with
  | nil => exact h
  | cons wish wishes ih => exact ih (Clock.Agenda.pairwise_insertEntry h)

variable (budget demands) in
/-- At the opening each wish is due once, and nothing else is. -/
theorem docketed_opening : (opening budget demands).Docketed demands := by
  -- at the opening the docket holds the arrivals, one for each wish, and nothing else
  have hperm : (opening budget demands).docket.Perm
      (demands.zipIdx.map fun wish => (wish.1.arrival, Event.arrives wish.2)) :=
    (perm_noteAll demands.zipIdx Clock.Agenda.empty).trans (.of_eq (List.append_nil _))
  refine ⟨sorted_noteAll _ .nil, ?_, fun {time number} => ?_, fun {time number} hmem => ?_,
    fun {time number} => ?_, nofun⟩
  · refine (hperm.map (·.2)).nodup_iff.mpr ?_
    have hnumbers : (demands.zipIdx.map fun wish => (wish.1.arrival, Event.arrives wish.2)).map
        (·.2) = (List.range' 0 demands.length).map Event.arrives := by
      rw [← List.zipIdx_map_snd 0 demands, List.map_map, List.map_map]
      rfl
    rw [hnumbers]
    exact List.Nodup.map (fun first second heq => Event.arrives.inj heq) (List.nodup_range' ..)
  · rw [hperm.mem_iff, List.mem_map]
    constructor
    · rintro ⟨⟨demand, index⟩, hmem, heq⟩
      cases heq
      exact ⟨demand, List.mem_zipIdx_iff_getElem?.mp hmem, rfl⟩
    · rintro ⟨demand, hdemand, rfl⟩
      exact ⟨(demand, number), List.mem_zipIdx_iff_getElem?.mpr hdemand, rfl⟩
  · obtain ⟨wish, -, heq⟩ := List.mem_map.mp (hperm.mem_iff.mp hmem)
    cases heq
  · constructor
    · intro hmem
      obtain ⟨wish, -, heq⟩ := List.mem_map.mp (hperm.mem_iff.mp hmem)
      cases heq
    · rintro ⟨demand, hold, verdict, -, -, hverdict, -⟩
      exact (List.not_mem_nil hverdict).elim

variable (budget demands) in
/-- The books are in order before the first event. -/
theorem sound_opening : (opening budget demands).Sound budget demands where
  kept := {
    docketed := docketed_opening budget demands
    weighed := ⟨rfl, rfl, .inl rfl⟩
    single := .nil
    stands := fun _ _ => .coming List.not_mem_nil (fun _ => List.not_mem_nil) rfl }
  queued := ⟨nofun, nofun, nofun, rfl⟩

variable (budget demands) in
/-- **They are so after every event.** -/
theorem sound_after (count : Nat) :
    ((opening budget demands).after demands count).Sound budget demands :=
  after_keeps (fun _ h => h.turns (turns_next h.calm)) (sound_opening budget demands) count

variable (budget demands) in
theorem leads_after (count : Nat) : ((opening budget demands).after demands count).Leads
    ((opening budget demands).after demands (count + 1)) := by
  have hsound := sound_after budget demands count
  rw [after_succ]
  exact hsound.leads (turns_next hsound.calm)

/-- All that may be due for some wishes. -/
def allEvents (demands : List Demand) : List Event :=
  (List.range demands.length).flatMap fun number =>
    [.arrives number, .givesUp number, .givesBack number]

/-- No more than three events are due for each wish: it comes up, its patience
ends, and space is given back. -/
theorem Docketed.length_le (h : diary.Docketed demands) :
    diary.docket.length ≤ 3 * demands.length := by
  have hknown : ∀ {number : Nat} {demand : Demand}, demands[number]? = some demand →
      number ∈ List.range demands.length := fun hdemand =>
    List.mem_range.mpr (List.getElem?_eq_some_iff.mp hdemand).1
  -- each is on the docket once, and all are of these
  have hsubset : diary.docket.map (·.2) ⊆ allEvents demands := by
    intro event hevent
    obtain ⟨⟨time, event⟩, hmem, rfl⟩ := List.mem_map.mp hevent
    cases event with
    | arrives number =>
      obtain ⟨demand, hdemand, -⟩ := h.arrives.mp hmem
      exact List.mem_flatMap.mpr ⟨number, hknown hdemand, by simp⟩
    | givesUp number =>
      obtain ⟨demand, hdemand, -⟩ := h.givesUp hmem
      exact List.mem_flatMap.mpr ⟨number, hknown hdemand, by simp⟩
    | givesBack number =>
      obtain ⟨demand, -, -, hdemand, -⟩ := h.givesBack.mp hmem
      exact List.mem_flatMap.mpr ⟨number, hknown hdemand, by simp⟩
  have hlength : (allEvents demands).length = 3 * demands.length := by
    rw [allEvents, List.length_flatMap]
    simp [Nat.mul_comm]
  have hle := (List.subperm_of_subset h.once hsubset).length_le
  rwa [List.length_map, hlength] at hle

/-- As long as anything is due, there have been as many events as there were
steps. -/
theorem length_events (budget : UInt64) (demands : List Demand) (count : Nat) :
    ((opening budget demands).after demands count).hall.agenda.entries = [] ∨
      ((opening budget demands).after demands count).events.length = count := by
  -- Induction on the events; once nothing is due, nothing is ever due again.
  induction count with
  | zero => exact .inr rfl
  | succ count ih =>
    have hevents := (leads_after budget demands count).events
    rcases ih with hnone | hlength
    · refine .inl ?_
      rw [after_succ, next, Clock.Agenda.next?, hnone]
      exact hnone
    · cases hentries : ((opening budget demands).after demands count).hall.agenda.entries with
      | nil =>
        refine .inl ?_
        rw [after_succ, next, Clock.Agenda.next?, hentries]
        exact hentries
      | cons entry entries =>
        refine .inr ?_
        rw [hevents, hentries, List.length_append, hlength]
        rfl

/-- After three events for each wish nothing is due. -/
theorem entries_after (budget : UInt64) (demands : List Demand) :
    ((opening budget demands).after demands (3 * demands.length)).hall.agenda.entries = [] := by
  rcases length_events budget demands (3 * demands.length) with hnone | hlength
  · exact hnone
  · -- the events so far fill the docket, so there is no room for more
    have hle := (sound_after budget demands (3 * demands.length)).kept.docketed.length_le
    rw [docket, List.length_append, hlength] at hle
    exact List.length_eq_zero_iff.mp (by omega)

/-! ## §6. What becomes of every wish. -/

/-- The ledger has what the holders hold, and is never filled up; those who wait
are all who have arrived and are not settled, in order of arrival, and none of
them would fit. -/
structure Balanced (budget : UInt64) (demands : List Demand) (diary : Diary) : Prop where
  loaded : diary.hall.room.ledger.loaded.toNat = (diary.holders.map (sizeAt demands)).sum
  below : diary.hall.room.ledger.loaded = 0 ∨ diary.hall.room.ledger.loaded < budget
  waiting : diary.hall.room.waiters.map (·.number) = diary.waiting
  full {number : Nat} {demand : Demand} : number ∈ diary.waiting →
    demands[number]? = some demand →
      budget.toNat ≤ diary.hall.room.ledger.loaded.toNat + demand.size.toNat

/-- Sound books are balanced. -/
theorem Sound.balanced (h : diary.Sound budget demands) : diary.Balanced budget demands where
  loaded := h.kept.weighed.loaded
  below := h.kept.weighed.below
  waiting := by rw [← h.queued.order, List.append_nil]
  full {number demand} hwaiting hdemand := by
    rw [← h.queued.order, List.append_nil] at hwaiting
    obtain ⟨w, hw, rfl⟩ := List.mem_map.mp hwaiting
    obtain ⟨found, hfound, hsize⟩ := h.queued.sizes w (List.mem_append_left _ hw)
    cases hdemand.symm.trans hfound
    have hfull := h.queued.full w hw
    rw [← Bool.not_eq_true, fits_iff, h.kept.weighed.limit, ← hsize] at hfull
    exact Nat.le_of_not_lt hfull

variable (budget demands) in
/-- Whoever waits attends every release of a run. -/
theorem attends_after {number : Nat} {demand : Demand} (hdemand : demands[number]? = some demand)
    (hsmall : demand.size < budget) (count : Nat) :
    ((opening budget demands).after demands count).Attends number demand := by
  -- Induction on the events, each of which adds the look that is asked for.
  induction count with
  | zero => exact fun _ _ hmem => (List.not_mem_nil hmem).elim
  | succ count ih =>
    exact ih.leads (sound_after budget demands count) hdemand hsmall
      (leads_after budget demands count)

end Diary

/-- A diary of all that happens: nothing is due any more.  Each wish came up in
its time and has one verdict, by the looks that were taken for it; and whoever
got space gave it back when their time was over. -/
structure Diary.Complete (budget : UInt64) (demands : List Demand) (diary : Diary) : Prop where
  ended : diary.hall.agenda.entries = []
  sorted : diary.events.Pairwise fun earlier later => earlier.1 ≤ later.1
  arrives {time number : Nat} : (time, .arrives number) ∈ diary.events ↔
    ∃ demand, demands[number]? = some demand ∧ time = demand.arrival
  givesBack {time number : Nat} : (time, .givesBack number) ∈ diary.events ↔
    ∃ demand hold verdict, demands[number]? = some demand ∧ demand.hold = some hold ∧
      (number, verdict) ∈ diary.hall.verdicts ∧ verdict.result = .ok () ∧
      time = verdict.time + hold
  fates {number : Nat} {demand : Demand} : demands[number]? = some demand →
    ∃ verdict, (number, verdict) ∈ diary.hall.verdicts ∧
      (∀ other, (number, other) ∈ diary.hall.verdicts → other = verdict) ∧
      Fate budget demand (diary.looksOf number) verdict
  looks {number : Nat} {demand : Demand} : demands[number]? = some demand →
    demand.size < budget →
      Timely demand diary.events (diary.looksOf number) ∧ diary.Attends number demand

/-- Whatever the budget and the wishes: after every event the account is right,
and nobody is left waiting who would fit; at every release all who wait look in
order of arrival; and nobody who fails changes the ledger.  In the end every
wish has come to its fate: it was too large, it was served at the first look at
which it fitted, or its patience ended without such a look. -/
theorem every_wish_settled (budget : UInt64) (demands : List Demand) :
    let after := fun count => (Diary.opening budget demands).after demands count
    (∀ count, (after count).hall = (Hall.opening (unused budget) demands).run demands count ∧
      (after count).Balanced budget demands ∧ (after count).Leads (after (count + 1))) ∧
    (after (3 * demands.length)).hall = Hall.play (unused budget) demands ∧
    (after (3 * demands.length)).Complete budget demands := by
  intro after
  refine ⟨fun count => ⟨Diary.hall_after demands count _,
    (Diary.sound_after budget demands count).balanced, Diary.leads_after budget demands count⟩,
    Diary.hall_after demands _ _, ?_⟩
  have hover := Diary.entries_after budget demands
  have hsound := Diary.sound_after budget demands (3 * demands.length)
  have hattends := fun {number demand} (hdemand : demands[number]? = some demand) hsmall =>
    Diary.attends_after budget demands hdemand hsmall (3 * demands.length)
  show ((Diary.opening budget demands).after demands (3 * demands.length)).Complete budget demands
  generalize (Diary.opening budget demands).after demands (3 * demands.length) = last
    at hover hsound hattends
  have hdocketed := hsound.kept.docketed
  have hdocket : last.docket = last.events := by
    rw [Diary.docket, hover, List.append_nil]
  -- all wishes have come up, and nobody waits whose patience has not ended
  have hsettled : ∀ {number demand}, demands[number]? = some demand → ∃ verdict,
      (number, verdict) ∈ last.hall.verdicts ∧ Fate budget demand (last.looksOf number) verdict ∧
        (demand.size < budget → Timely demand last.events (last.looksOf number)) := by
    intro number demand hdemand
    cases hsound.kept.stands hdemand (Option.some_ne_none number) with
    | coming hcoming =>
      have hdue := hdocketed.arrives.mpr ⟨demand, hdemand, rfl⟩
      rw [hdocket] at hdue
      exact absurd (Diary.mem_arrived.mpr ⟨_, hdue⟩) hcoming
    | waiting _ _ _ _ hdue =>
      rw [hover] at hdue
      cases hdue
    | settled _ hverdict hfate htimely => exact ⟨_, hverdict, hfate, htimely⟩
  refine ⟨hover, hdocket ▸ hdocketed.sorted, hdocket ▸ hdocketed.arrives,
    hdocket ▸ hdocketed.givesBack, fun hdemand => ?_, fun hdemand hsmall => ?_⟩
  · obtain ⟨verdict, hverdict, hfate, -⟩ := hsettled hdemand
    refine ⟨verdict, hverdict, fun other hother => ?_, hfate⟩
    exact congrArg Prod.snd (List.inj_on_of_nodup_map hsound.kept.single hother hverdict rfl)
  · obtain ⟨verdict, -, -, htimely⟩ := hsettled hdemand
    exact ⟨htimely hsmall, hattends hdemand hsmall⟩

/-- Of 10 bytes the first takes 6 for 3 milliseconds, for which the second waits;
the third has less patience. -/
example :
    let hall := Hall.play (unused 10)
      [⟨0, 6, 5, some 3⟩, ⟨1, 7, 5, none⟩, ⟨2, 4, 0, none⟩, ⟨2, 10, 5, none⟩]
    hall.verdicts.map (fun entry => (entry.1, entry.2.time, entry.2.loaded)) =
      [(0, 0, 6), (3, 2, 6), (2, 2, 6), (1, 3, 7)] := by
  decide +kernel

end BoardRelay.Ledger
