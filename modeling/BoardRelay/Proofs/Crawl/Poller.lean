/-
  BoardRelay.Proofs.Crawl.Poller
  ────────────────────────────────
  A poller from its first tick to its return.

  What came of the ticks is a list of visits.  It is in order (`Orderly`) when
  the ticks are the multiples of the interval, a cycle runs just when all
  earlier ones are over, and each begins with what the ones before it have
  left behind.  What a poller still waits for is its next tick, the stop and
  the end of the one cycle that may run (`Sound.next`); every event keeps the
  visits in order (`Sound.handle`), and there are enough events in a run for
  all of them (`Sound.run`).
-/
import BoardRelay.Crawl.Poller
import BoardRelay.Proofs.Clock.Agenda
import Mathlib.Data.List.Basic

namespace BoardRelay.Crawl.Poller

variable {σ : Type}

/-! ## §1. Visits. -/

/-- The instant at which the cycle of a tick ends, if there is one. -/
def Visit.finish? (visit : Visit) : Option Nat :=
  visit.duration?.map (visit.tick + ·)

/-- From when to when the cycle of a tick runs, if there is one. -/
def Visit.span? (visit : Visit) : Option (Nat × Nat) :=
  visit.duration?.map fun duration => (visit.tick, visit.tick + duration)

/-- Whether no cycle ends at the very instant of a later tick. -/
def Visit.Untied (interval : Nat) (visit : Visit) : Prop :=
  ∀ finish ∈ visit.finish?, visit.tick < finish → ¬ interval ∣ finish

instance (interval : Nat) (visit : Visit) : Decidable (visit.Untied interval) :=
  inferInstanceAs (Decidable (∀ finish ∈ visit.finish?, _))

/-- When the cycles of visits end, in the order of their ticks. -/
def finishes (visits : List Visit) : List Nat :=
  visits.filterMap Visit.finish?

/-- What the cycles of visits make of a state, each run in full and one after
the other.  Who is turned away changes nothing. -/
def leave (cycle : σ → Nat × σ) (state : σ) (visits : List Visit) : σ :=
  visits.foldl (fun state visit => if visit.duration?.isSome then (cycle state).2 else state) state

/-- Whether visits are those of a poller that was started at zero. -/
structure Orderly (interval : Nat) (cycle : σ → Nat × σ) (first : σ) (visits : List Visit) :
    Prop where
  ticks : visits.map (·.tick) = (List.range visits.length).map (· * interval)
  /-- A cycle runs just when no earlier one still does. -/
  runs_iff {k : Nat} {visit : Visit} : visits[k]? = some visit →
    (visit.duration?.isSome = true ↔ ∀ finish ∈ finishes (visits.take k), finish ≤ visit.tick)
  /-- A cycle takes as long as it does after those before it. -/
  duration_eq {k duration : Nat} {visit : Visit} : visits[k]? = some visit →
    visit.duration? = some duration → (cycle (leave cycle first (visits.take k))).1 = duration
  /-- No two cycles overlap. -/
  apart : (visits.filterMap Visit.span?).Pairwise fun earlier later => earlier.2 ≤ later.1

section Visits

variable {interval now : Nat} {cycle : σ → Nat × σ} {first : σ} {visits : List Visit}
  {visit : Visit}

/-- One more visit adds the end of its cycle, if it has one. -/
theorem finishes_concat (visits : List Visit) (visit : Visit) :
    finishes (visits ++ [visit]) = finishes visits ++ visit.finish?.toList := by
  rw [finishes, List.filterMap_append, finishes]
  cases hfinish : visit.finish? <;> simp [hfinish]

theorem finishes_turnedAway (visits : List Visit) (now : Nat) :
    finishes (visits ++ [⟨now, none⟩]) = finishes visits := by
  rw [finishes_concat]
  exact List.append_nil _

theorem finishes_letIn (visits : List Visit) (now duration : Nat) :
    finishes (visits ++ [⟨now, some duration⟩]) = finishes visits ++ [now + duration] :=
  finishes_concat visits _

/-- Who is turned away leaves the state as it is. -/
theorem leave_turnedAway (cycle : σ → Nat × σ) (first : σ) (visits : List Visit) (now : Nat) :
    leave cycle first (visits ++ [⟨now, none⟩]) = leave cycle first visits := by
  rw [leave, List.foldl_append, leave]
  rfl

/-- Who is let in leaves what one more cycle makes of it. -/
theorem leave_letIn (cycle : σ → Nat × σ) (first : σ) (visits : List Visit)
    (now duration : Nat) : leave cycle first (visits ++ [⟨now, some duration⟩]) =
      (cycle (leave cycle first visits)).2 := by
  rw [leave, List.foldl_append, leave]
  rfl

/-- Every end is that of the cycle of some tick. -/
theorem mem_finishes {finish : Nat} : finish ∈ finishes visits ↔
    ∃ visit ∈ visits, finish ∈ visit.finish? :=
  List.mem_filterMap

/-- A span ends where a cycle does. -/
theorem mem_spans {span : Nat × Nat} (h : span ∈ visits.filterMap Visit.span?) :
    span.2 ∈ finishes visits := by
  obtain ⟨visit, hvisit, hspan⟩ := List.mem_filterMap.mp h
  obtain ⟨duration, hduration, rfl⟩ := Option.map_eq_some_iff.mp hspan
  exact mem_finishes.mpr ⟨visit, hvisit, by rw [Visit.finish?, hduration]; rfl⟩

/-- A visit is one of those before, or the one that was added, with all the
others before it. -/
theorem getElem?_concat_cases {k : Nat} {other : Visit}
    (h : (visits ++ [visit])[k]? = some other) :
    visits[k]? = some other ∧ (visits ++ [visit]).take k = visits.take k ∨
      other = visit ∧ (visits ++ [visit]).take k = visits := by
  -- before the end the lists agree; at the end there is only the new visit
  rcases Nat.lt_or_ge k visits.length with hlt | hge
  · rw [List.getElem?_append_left hlt] at h
    exact .inl ⟨h, List.take_append_of_le_length (Nat.le_of_lt hlt)⟩
  · rw [List.getElem?_append_right hge, List.getElem?_singleton] at h
    split at h
    · next hk =>
      have hlength : k = visits.length := by omega
      exact .inr ⟨(Option.some.inj h).symm, by rw [hlength, List.take_left]⟩
    · cases h

/-- Before the first tick all is in order. -/
theorem orderly_nil (interval : Nat) (cycle : σ → Nat × σ) (first : σ) :
    Orderly interval cycle first [] where
  ticks := rfl
  runs_iff h := by simp at h
  duration_eq h := by simp at h
  apart := List.Pairwise.nil

/-- One more tick, with a cycle just when the earlier ones are over. -/
theorem Orderly.concat (h : Orderly interval cycle first visits)
    (htick : visit.tick = visits.length * interval)
    (hruns : visit.duration?.isSome = true ↔ ∀ finish ∈ finishes visits, finish ≤ visit.tick)
    (hduration : ∀ duration, visit.duration? = some duration →
      (cycle (leave cycle first visits)).1 = duration) :
    Orderly interval cycle first (visits ++ [visit]) where
  ticks := by
    rw [List.map_append, h.ticks, List.length_append, List.length_singleton, List.range_succ,
      List.map_append, List.map_singleton, List.map_singleton, htick]
  runs_iff hk := by
    rcases getElem?_concat_cases hk with ⟨hold, htake⟩ | ⟨rfl, htake⟩
    · rw [htake]
      exact h.runs_iff hold
    · rw [htake]
      exact hruns
  duration_eq hk heq := by
    rcases getElem?_concat_cases hk with ⟨hold, htake⟩ | ⟨rfl, htake⟩
    · rw [htake]
      exact h.duration_eq hold heq
    · rw [htake]
      exact hduration _ heq
  apart := by
    rw [List.filterMap_append, List.pairwise_append]
    refine ⟨h.apart, by simp [List.pairwise_filterMap], ?_⟩
    -- a cycle begins only after all before it are over
    intro earlier hearlier later hlater
    obtain ⟨other, hother, hspan⟩ := List.mem_filterMap.mp hlater
    obtain rfl := List.mem_singleton.mp hother
    obtain ⟨duration, heq, rfl⟩ := Option.map_eq_some_iff.mp hspan
    exact hruns.mp (by rw [heq]; rfl) _ (mem_spans hearlier)

/-- Every tick of orderly visits comes before the next. -/
theorem Orderly.tick_lt (h : Orderly interval cycle first visits) (hinterval : 0 < interval)
    (hvisit : visit ∈ visits) : visit.tick < visits.length * interval := by
  have hmem : visit.tick ∈ visits.map (·.tick) := List.mem_map_of_mem hvisit
  rw [h.ticks] at hmem
  obtain ⟨k, hk, heq⟩ := List.mem_map.mp hmem
  rw [← heq]
  exact Nat.mul_lt_mul_of_pos_right (List.mem_range.mp hk) hinterval

end Visits

/-! ## §2. What a poller waits for. -/

/-- The end of an attempt, as it stands on the agenda. -/
def Attempt.ending (attempt : Attempt σ) : Nat × Event :=
  (attempt.finish, .finish attempt.number)

/-- What a poller waits for: the next tick and the stop, until it is stopped,
and the ends of the cycles that run. -/
def awaited (interval stop : Nat) (poller : Poller σ) : List (Nat × Event) :=
  (if poller.stopped then [] else [(poller.triggered * interval, .tick), (stop, .stop)]) ++
    poller.running.map Attempt.ending

/-- Whether an entry of the agenda matters: a tick does not after the stop. -/
def matters (poller : Poller σ) (entry : Nat × Event) : Bool :=
  !(poller.stopped && entry.2 == .tick)

/-- Whether nobody is past the gate, and all who were had left by now. -/
structure Free (cycle : σ → Nat × σ) (first : σ) (now : Nat) (poller : Poller σ) : Prop where
  running_eq : poller.running = []
  taken_eq : poller.taken = false
  state_eq : poller.state = leave cycle first poller.visits
  past : ∀ finish ∈ finishes poller.visits, finish ≤ now

/-- Whether one attempt is past the gate, the last that was let in. -/
structure Busy (cycle : σ → Nat × σ) (first : σ) (attempt : Attempt σ) (poller : Poller σ) :
    Prop where
  running_eq : poller.running = [attempt]
  taken_eq : poller.taken = true
  left_eq : attempt.left = leave cycle first poller.visits
  last_eq : (finishes poller.visits).getLast? = some attempt.finish
  past : ∀ finish ∈ finishes poller.visits, finish ≤ attempt.finish

/-- What holds of a poller at any time. -/
structure Sound (interval stop : Nat) (cycle : σ → Nat × σ) (first : σ) (now : Nat)
    (poller : Poller σ) : Prop where
  orderly : Orderly interval cycle first poller.visits
  triggered_eq : poller.triggered = poller.visits.length
  sorted : poller.agenda.entries.Pairwise fun earlier later => earlier.1 ≤ later.1
  later : ∀ entry ∈ poller.agenda.entries, now ≤ entry.1
  awaits : (poller.agenda.entries.filter poller.matters).Perm (poller.awaited interval stop)
  /-- Every tick that came came before the stop. -/
  before : ∀ k < poller.triggered, k * interval < stop
  /-- Every tick before the stop has come by then. -/
  stopped : poller.stopped = true → stop ≤ now ∧ stop ≤ poller.triggered * interval
  occupied : poller.Free cycle first now ∨ ∃ attempt, poller.Busy cycle first attempt
  ended : poller.stopped = true → poller.running = [] →
    now = max stop ((finishes poller.visits).getLast?.getD 0)

/-- What may come next, by what is then left on the agenda. -/
inductive Next (interval stop due : Nat) (poller : Poller σ) (rest : List (Nat × Event)) :
    Event → Prop where
  /-- A tick after the stop. -/
  | lateTick (hstopped : poller.stopped = true)
    (hrest : (rest.filter poller.matters).Perm (poller.awaited interval stop)) :
    Next interval stop due poller rest .tick
  | tick (hstopped : poller.stopped = false) (hdue : due = poller.triggered * interval)
    (hrest : rest.Perm ((stop, .stop) :: poller.running.map Attempt.ending)) :
    Next interval stop due poller rest .tick
  | stop (hstopped : poller.stopped = false) (hdue : due = stop)
    (hrest : rest.Perm
      ((poller.triggered * interval, .tick) :: poller.running.map Attempt.ending)) :
    Next interval stop due poller rest .stop
  | finish {attempt : Attempt σ} (hrunning : poller.running = [attempt])
    (hdue : due = attempt.finish)
    (hrest : (rest.filter poller.matters).Perm
      ({ poller with running := [] }.awaited interval stop)) :
    Next interval stop due poller rest (.finish attempt.number)

section Steps

variable {interval stop now due : Nat} {cycle : σ → Nat × σ} {first : σ} {poller : Poller σ}
  {event : Event} {rest : List (Nat × Event)}

theorem matters_of_running (h : poller.stopped = false) (entry : Nat × Event) :
    poller.matters entry = true := by
  rw [matters, h]
  rfl

theorem matters_of_ne_tick (h : event ≠ .tick) : poller.matters (due, event) = true := by
  rw [matters, beq_false_of_ne h, Bool.and_false]
  rfl

/-- Until the stop every entry of the agenda matters. -/
theorem Sound.awaits_all (h : Sound interval stop cycle first now poller)
    (hstopped : poller.stopped = false) : poller.agenda.entries.Perm
      ((poller.triggered * interval, .tick) :: (stop, .stop) ::
        poller.running.map Attempt.ending) := by
  have hawaits := h.awaits
  rwa [List.filter_eq_self.mpr fun entry _ => matters_of_running hstopped entry, awaited,
    hstopped] at hawaits

/-- One of a few things comes next. -/
theorem Sound.next (h : Sound interval stop cycle first now poller)
    (hentries : poller.agenda.entries = (due, event) :: rest) :
    Next interval stop due poller rest event := by
  have hawaits := h.awaits
  rw [hentries] at hawaits
  cases event with
  -- The head of the agenda is a tick, the stop or an end; what it takes off is what the poller no
  -- longer waits for.
  | tick =>
    cases hstopped : poller.stopped with
    | true =>
      rw [List.filter_cons_of_neg (by simp [matters, hstopped])] at hawaits
      exact .lateTick hstopped hawaits
    | false =>
      have hall := hentries ▸ h.awaits_all hstopped
      have hdue : due = poller.triggered * interval := by
        simpa [Attempt.ending] using hall.subset List.mem_cons_self
      subst hdue
      exact .tick hstopped rfl hall.cons_inv
  | stop =>
    rw [List.filter_cons_of_pos (matters_of_ne_tick (by nofun))] at hawaits
    cases hstopped : poller.stopped with
    | true =>
      have hmem := hawaits.subset List.mem_cons_self
      simp [awaited, hstopped, Attempt.ending] at hmem
    | false =>
      have hall := hentries ▸ h.awaits_all hstopped
      have hdue : due = stop := by
        simpa [Attempt.ending] using hall.subset List.mem_cons_self
      subst hdue
      exact .stop hstopped rfl (hall.trans (List.Perm.swap _ _ _)).cons_inv
  | finish number =>
    rw [List.filter_cons_of_pos (matters_of_ne_tick (by nofun))] at hawaits
    have hmem : (due, Event.finish number) ∈ poller.running.map Attempt.ending := by
      have hmem := hawaits.subset List.mem_cons_self
      rw [awaited, List.mem_append] at hmem
      refine hmem.resolve_left ?_
      split <;> simp
    rcases h.occupied with hfree | ⟨attempt, hbusy⟩
    · rw [hfree.running_eq] at hmem
      cases hmem
    · rw [hbusy.running_eq, List.map_singleton, List.mem_singleton] at hmem
      obtain ⟨rfl, hnumber⟩ := Prod.mk.inj hmem
      cases hnumber
      refine .finish hbusy.running_eq rfl ?_
      rw [awaited, hbusy.running_eq] at hawaits
      rw [awaited, List.map_nil, List.append_nil]
      exact (hawaits.trans (List.perm_append_singleton _ _)).cons_inv

/-- Events come in order of time. -/
theorem Sound.in_time (h : Sound interval stop cycle first now poller)
    (hentries : poller.agenda.entries = (due, event) :: rest) :
    now ≤ due ∧ (∀ entry ∈ rest, due ≤ entry.1) ∧
      rest.Pairwise fun earlier later => earlier.1 ≤ later.1 := by
  have hsorted := h.sorted
  rw [hentries, List.pairwise_cons] at hsorted
  exact ⟨h.later (due, event) (hentries ▸ List.mem_cons_self), hsorted⟩

/-- A poller without a running cycle has its gate free. -/
theorem Sound.free (h : Sound interval stop cycle first now poller)
    (hnone : poller.running = []) : poller.Free cycle first now := by
  refine h.occupied.resolve_right fun ⟨attempt, hbusy⟩ => ?_
  rw [hbusy.running_eq] at hnone
  cases hnone

/-- One with a running cycle has its gate taken by it. -/
theorem Sound.busy (h : Sound interval stop cycle first now poller)
    (hrunning : poller.running ≠ []) : ∃ attempt, poller.Busy cycle first attempt :=
  h.occupied.resolve_left fun hfree => hrunning hfree.running_eq

/-- Nobody comes to the gate or leaves it by the passing of time alone. -/
theorem Sound.occupied_later (h : Sound interval stop cycle first now poller) (hnow : now ≤ due)
    (agenda : Clock.Agenda Event) (stopped : Bool) :
    Free cycle first due { poller with agenda, stopped } ∨
      ∃ attempt, Busy cycle first attempt { poller with agenda, stopped } := by
  rcases h.occupied with hfree | ⟨attempt, hbusy⟩
  · exact .inl ⟨hfree.running_eq, hfree.taken_eq, hfree.state_eq, fun finish hfinish =>
      Nat.le_trans (hfree.past finish hfinish) hnow⟩
  · exact .inr ⟨attempt, hbusy.running_eq, hbusy.taken_eq, hbusy.left_eq, hbusy.last_eq,
      hbusy.past⟩

/-! ## §3. What comes of it. -/

/-- What holds of a poller that is not stopped, put together. -/
theorem sound_of_open (hstopped : poller.stopped = false)
    (horderly : Orderly interval cycle first poller.visits)
    (htriggered : poller.triggered = poller.visits.length)
    (hsorted : poller.agenda.entries.Pairwise fun earlier later => earlier.1 ≤ later.1)
    (hlater : ∀ entry ∈ poller.agenda.entries, now ≤ entry.1)
    (hall : poller.agenda.entries.Perm ((poller.triggered * interval, .tick) :: (stop, .stop) ::
      poller.running.map Attempt.ending))
    (hbefore : ∀ k < poller.triggered, k * interval < stop)
    (hoccupied : poller.Free cycle first now ∨ ∃ attempt, poller.Busy cycle first attempt) :
    Sound interval stop cycle first now poller where
  orderly := horderly
  triggered_eq := htriggered
  sorted := hsorted
  later := hlater
  -- before the stop every entry matters
  awaits := by
    rwa [List.filter_eq_self.mpr fun entry _ => matters_of_running hstopped entry, awaited,
      hstopped]
  before := hbefore
  stopped h := absurd (hstopped.symm.trans h) Bool.false_ne_true
  occupied := hoccupied
  ended h := absurd (hstopped.symm.trans h) Bool.false_ne_true

/-- A tick at a taken gate only notes the next one. -/
theorem handle_tick_of_taken (hstopped : poller.stopped = false) (htaken : poller.taken = true)
    (agenda : Clock.Agenda Event) :
    handle interval cycle now .tick { poller with agenda } =
      { poller with
        agenda := agenda.note (now + interval) .tick
        triggered := poller.triggered + 1
        visits := poller.visits ++ [⟨now, none⟩] } := by
  simp only [handle, hstopped, knock, htaken]
  rfl

/-- A tick at a free gate lets a cycle in, whose end is noted too. -/
theorem handle_tick_of_free (hstopped : poller.stopped = false) (htaken : poller.taken = false)
    (agenda : Clock.Agenda Event) :
    handle interval cycle now .tick { poller with agenda } =
      { poller with
        agenda := (agenda.note (now + interval) .tick).note (now + (cycle poller.state).1)
          (.finish poller.triggered)
        taken := true
        running := poller.running ++
          [⟨poller.triggered, now + (cycle poller.state).1, (cycle poller.state).2⟩]
        triggered := poller.triggered + 1
        visits := poller.visits ++ [⟨now, some (cycle poller.state).1⟩] } := by
  simp only [handle, hstopped, knock, htaken]
  rfl

/-- A cycle that runs at a tick is not over by then, be it at that very
instant. -/
theorem Busy.lt_finish {attempt : Attempt σ} (h : poller.Busy cycle first attempt)
    (horderly : Orderly interval cycle first poller.visits) (hinterval : 0 < interval)
    (huntied : ∀ visit ∈ poller.visits, visit.Untied interval)
    (hle : poller.visits.length * interval ≤ attempt.finish) :
    poller.visits.length * interval < attempt.finish := by
  refine Nat.lt_of_le_of_ne hle fun heq => ?_
  obtain ⟨visit, hvisit, hfinish⟩ := mem_finishes.mp (List.mem_of_getLast? h.last_eq)
  have hlt : visit.tick < attempt.finish := heq ▸ horderly.tick_lt hinterval hvisit
  exact huntied visit hvisit _ hfinish hlt (heq ▸ Nat.dvd_mul_left _ _)

/-- What stands on the agenda when a tick before the stop has come and the next
one is noted. -/
structure Noted (interval stop due : Nat) (poller : Poller σ) (entries : List (Nat × Event)) :
    Prop where
  sorted : entries.Pairwise fun earlier later => earlier.1 ≤ later.1
  later : ∀ entry ∈ entries, due ≤ entry.1
  all : entries.Perm (((poller.triggered + 1) * interval, .tick) :: (stop, .stop) ::
    poller.running.map Attempt.ending)

/-- Where nobody runs, the end of the cycle that begins is noted with the rest. -/
theorem Noted.insert {entries : List (Nat × Event)} {attempt : Attempt σ}
    (h : Noted interval stop due poller entries) (hrunning : poller.running = [])
    (hdue : due ≤ attempt.finish) :
    Noted interval stop due { poller with running := [attempt] }
      (Clock.Agenda.insertEntry attempt.ending entries) where
  sorted := Clock.Agenda.pairwise_insertEntry h.sorted
  later entry hentry := by
    rcases Clock.Agenda.mem_insertEntry.mp hentry with rfl | hold
    · exact hdue
    · exact h.later entry hold
  all := by
    have hall := h.all
    rw [hrunning] at hall
    exact ((Clock.Agenda.perm_insertEntry _ _).trans (hall.cons _)).trans
      (List.perm_append_singleton _ _).symm

/-- When a tick has come and the next is noted, the agenda has just what is
waited for. -/
theorem Sound.noted (h : Sound interval stop cycle first now poller)
    (hentries : poller.agenda.entries = (due, .tick) :: rest)
    (hdue : due = poller.triggered * interval)
    (hrest : rest.Perm ((stop, .stop) :: poller.running.map Attempt.ending)) :
    Noted interval stop due poller
      (Clock.Agenda.insertEntry (due + interval, .tick) rest) := by
  obtain ⟨-, hlater, hsorted⟩ := h.in_time hentries
  refine ⟨Clock.Agenda.pairwise_insertEntry hsorted, fun entry hentry => ?_, ?_⟩
  · rcases Clock.Agenda.mem_insertEntry.mp hentry with rfl | hold
    · exact Nat.le_add_right _ _
    · exact hlater entry hold
  · rw [Nat.succ_mul, ← hdue]
    exact (Clock.Agenda.perm_insertEntry _ _).trans (hrest.cons _)

/-- A tick before the stop lets an attempt in if nobody is past the gate, and
turns it away if not. -/
theorem Sound.tick (h : Sound interval stop cycle first now poller) (hinterval : 0 < interval)
    (hstop : ¬ interval ∣ stop) (huntied : ∀ visit ∈ poller.visits, visit.Untied interval)
    (hentries : poller.agenda.entries = (due, .tick) :: rest) (hstopped : poller.stopped = false)
    (hdue : due = poller.triggered * interval)
    (hrest : rest.Perm ((stop, .stop) :: poller.running.map Attempt.ending)) :
    Sound interval stop cycle first due
      (handle interval cycle due .tick { poller with agenda := ⟨rest⟩ }) := by
  have hnoted := h.noted hentries hdue hrest
  have hlength : due = poller.visits.length * interval := h.triggered_eq ▸ hdue
  obtain ⟨hnow, hlater, -⟩ := h.in_time hentries
  -- the stop is still to come, and comes at no tick
  have hbefore : due < stop := by
    have hle : due ≤ stop := hlater (stop, .stop) (hrest.symm.subset List.mem_cons_self)
    refine Nat.lt_of_le_of_ne hle fun heq => hstop ?_
    rw [← heq, hdue]
    exact Nat.dvd_mul_left _ _
  have hticks : ∀ k < poller.triggered + 1, k * interval < stop := by
    intro k hk
    rcases Nat.lt_succ_iff_lt_or_eq.mp hk with hlt | rfl
    · exact h.before k hlt
    · exact hdue ▸ hbefore
  have htriggered : ∀ visit : Visit, poller.triggered + 1 = (poller.visits ++ [visit]).length := by
    intro visit
    rw [List.length_append, List.length_singleton, h.triggered_eq]
  rcases h.occupied with hfree | ⟨attempt, hbusy⟩
  · -- all earlier cycles are over, so this one runs
    rcases hcycle : cycle poller.state with ⟨duration, left⟩
    have hover : ∀ finish ∈ finishes poller.visits, finish ≤ due := fun finish hfinish =>
      Nat.le_trans (hfree.past finish hfinish) hnow
    have hdone : due ≤ (⟨poller.triggered, due + duration, left⟩ : Attempt σ).finish :=
      Nat.le_add_right due duration
    have hinsert := hnoted.insert hfree.running_eq hdone
    rw [handle_tick_of_free hstopped hfree.taken_eq, hcycle, hfree.running_eq]
    refine sound_of_open hstopped ?_ (htriggered _) hinsert.sorted hinsert.later hinsert.all
      hticks (.inr ⟨⟨poller.triggered, due + duration, left⟩, rfl, rfl, ?_, ?_, ?_⟩)
    · refine h.orderly.concat hlength ⟨fun _ => hover, fun _ => rfl⟩ fun other hother => ?_
      rw [← hfree.state_eq, hcycle]
      exact Option.some.inj hother
    · show left = leave cycle first (poller.visits ++ [⟨due, some duration⟩])
      rw [leave_letIn, ← hfree.state_eq, hcycle]
    · show (finishes (poller.visits ++ [⟨due, some duration⟩])).getLast? = _
      rw [finishes_letIn, List.getLast?_concat]
    · show ∀ finish ∈ finishes (poller.visits ++ [⟨due, some duration⟩]), _
      rw [finishes_letIn, List.forall_mem_append, List.forall_mem_singleton]
      exact ⟨fun finish hfinish => Nat.le_add_right_of_le (hover finish hfinish), Nat.le_refl _⟩
  · -- the one that runs goes on beyond this tick
    have hfinish : due < attempt.finish := by
      have hle : due ≤ attempt.finish := by
        refine hlater attempt.ending (hrest.symm.subset (List.mem_cons_of_mem _ ?_))
        rw [hbusy.running_eq]
        exact List.mem_singleton_self _
      rw [hlength] at hle ⊢
      exact hbusy.lt_finish h.orderly hinterval huntied hle
    rw [handle_tick_of_taken hstopped hbusy.taken_eq]
    refine sound_of_open hstopped ?_ (htriggered _) hnoted.sorted hnoted.later hnoted.all
      hticks (.inr ⟨attempt, hbusy.running_eq, hbusy.taken_eq, ?_, ?_, ?_⟩)
    · refine h.orderly.concat hlength ⟨fun hsome => absurd hsome Bool.false_ne_true, ?_⟩ nofun
      intro hover
      exact absurd (hover _ (List.mem_of_getLast? hbusy.last_eq)) (Nat.not_le.mpr hfinish)
    · show attempt.left = leave cycle first (poller.visits ++ [⟨due, none⟩])
      rw [leave_turnedAway, hbusy.left_eq]
    · show (finishes (poller.visits ++ [⟨due, none⟩])).getLast? = _
      rw [finishes_turnedAway, hbusy.last_eq]
    · show ∀ finish ∈ finishes (poller.visits ++ [⟨due, none⟩]), _
      rw [finishes_turnedAway]
      exact hbusy.past

/-- A tick after the stop does nothing. -/
theorem Sound.lateTick (h : Sound interval stop cycle first now poller)
    (hrunning : poller.running ≠ [])
    (hentries : poller.agenda.entries = (due, .tick) :: rest) (hstopped : poller.stopped = true)
    (hrest : (rest.filter poller.matters).Perm (poller.awaited interval stop)) :
    Sound interval stop cycle first due
      (handle interval cycle due .tick { poller with agenda := ⟨rest⟩ }) := by
  obtain ⟨hnow, hlater, hsorted⟩ := h.in_time hentries
  rw [handle, if_pos hstopped]
  exact {
    orderly := h.orderly
    triggered_eq := h.triggered_eq
    sorted := hsorted
    later := hlater
    awaits := hrest
    before := h.before
    stopped := fun _ => ⟨Nat.le_trans (h.stopped hstopped).1 hnow, (h.stopped hstopped).2⟩
    occupied := h.occupied_later hnow _ _
    ended := fun _ hnone => absurd hnone hrunning }

/-- At the stop all ticks before it have come. -/
theorem Sound.halt (h : Sound interval stop cycle first now poller)
    (hentries : poller.agenda.entries = (due, .stop) :: rest) (hdue : due = stop)
    (hrest : rest.Perm
      ((poller.triggered * interval, .tick) :: poller.running.map Attempt.ending)) :
    Sound interval stop cycle first due
      (handle interval cycle due .stop { poller with agenda := ⟨rest⟩ }) := by
  subst hdue
  obtain ⟨hnow, hlater, hsorted⟩ := h.in_time hentries
  -- the next tick matters no longer, and the ends of cycles still do
  have hends : ∀ entry ∈ poller.running.map Attempt.ending,
      matters { poller with agenda := ⟨rest⟩, stopped := true } entry = true := by
    intro entry hentry
    obtain ⟨attempt, -, rfl⟩ := List.mem_map.mp hentry
    exact matters_of_ne_tick (by nofun)
  have hawaits := hrest.filter (matters { poller with agenda := ⟨rest⟩, stopped := true })
  rw [List.filter_cons_of_neg (by simp [matters]), List.filter_eq_self.mpr hends] at hawaits
  have hlast : poller.running = [] → (finishes poller.visits).getLast?.getD 0 ≤ due := by
    intro hnone
    cases hcase : (finishes poller.visits).getLast? with
    | none => exact Nat.zero_le due
    | some finish =>
      exact Nat.le_trans ((h.free hnone).past finish (List.mem_of_getLast? hcase)) hnow
  show Sound interval due cycle first due { poller with agenda := ⟨rest⟩, stopped := true }
  exact {
    orderly := h.orderly
    triggered_eq := h.triggered_eq
    sorted := hsorted
    later := hlater
    awaits := hawaits
    before := h.before
    stopped := fun _ => ⟨Nat.le_refl _, hlater _ (hrest.symm.subset List.mem_cons_self)⟩
    occupied := h.occupied_later hnow _ _
    ended := fun _ hnone => (Nat.max_eq_left (hlast hnone)).symm }

/-- The end of the cycle that runs frees the gate. -/
theorem Sound.cycleEnd {attempt : Attempt σ} (h : Sound interval stop cycle first now poller)
    (hentries : poller.agenda.entries = (due, .finish attempt.number) :: rest)
    (hrunning : poller.running = [attempt]) (hdue : due = attempt.finish)
    (hrest : (rest.filter poller.matters).Perm
      ({ poller with running := [] }.awaited interval stop)) :
    Sound interval stop cycle first due
      (handle interval cycle due (.finish attempt.number) { poller with agenda := ⟨rest⟩ }) := by
  subst hdue
  obtain ⟨hnow, hlater, hsorted⟩ := h.in_time hentries
  obtain ⟨other, hbusy⟩ := h.busy (hrunning ▸ List.cons_ne_nil _ _)
  -- only one cycle runs, so it is the one whose end has come
  obtain rfl : other = attempt := by
    rw [hbusy.running_eq] at hrunning
    exact List.singleton_inj.mp hrunning
  have hhandle : handle interval cycle other.finish (.finish other.number)
      { poller with agenda := ⟨rest⟩ } =
      { poller with agenda := ⟨rest⟩, state := other.left, taken := false, running := [] } := by
    simp [handle, conclude, hrunning]
  rw [hhandle]
  exact {
    orderly := h.orderly
    triggered_eq := h.triggered_eq
    sorted := hsorted
    later := hlater
    awaits := hrest
    before := h.before
    stopped := fun hstopped =>
      ⟨Nat.le_trans (h.stopped hstopped).1 hnow, (h.stopped hstopped).2⟩
    occupied := .inl ⟨rfl, rfl, hbusy.left_eq, hbusy.past⟩
    ended := fun hstopped _ => by
      have hstop : stop ≤ other.finish := Nat.le_trans (h.stopped hstopped).1 hnow
      show other.finish = max stop ((finishes poller.visits).getLast?.getD 0)
      rw [hbusy.last_eq]
      exact (Nat.max_eq_right hstop).symm }

/-- Every event keeps a poller sound that has not come to its end. -/
theorem Sound.handle (h : Sound interval stop cycle first now poller) (hinterval : 0 < interval)
    (hstop : ¬ interval ∣ stop) (huntied : ∀ visit ∈ poller.visits, visit.Untied interval)
    (hgoing : poller.stopped = true → poller.running ≠ [])
    (hentries : poller.agenda.entries = (due, event) :: rest) :
    Sound interval stop cycle first due
      (handle interval cycle due event { poller with agenda := ⟨rest⟩ }) := by
  cases h.next hentries with
  | lateTick hstopped hrest => exact h.lateTick (hgoing hstopped) hentries hstopped hrest
  | tick hstopped hdue hrest => exact h.tick hinterval hstop huntied hentries hstopped hdue hrest
  | stop _ hdue hrest => exact h.halt hentries hdue hrest
  | finish hrunning hdue hrest => exact h.cycleEnd hentries hrunning hdue hrest

/-! ## §4. From the first tick to the end. -/

/-- A poller with nothing on its agenda has come to its end. -/
theorem Sound.ended_of_nil (h : Sound interval stop cycle first now poller)
    (hnil : poller.agenda.entries = []) : poller.stopped = true ∧ poller.running = [] := by
  have hawaits := h.awaits
  rw [hnil, List.filter_nil, List.nil_perm, awaited, List.append_eq_nil_iff,
    List.map_eq_nil_iff] at hawaits
  refine ⟨?_, hawaits.2⟩
  cases hstopped : poller.stopped with
  | true => rfl
  | false => simp [hstopped] at hawaits

/-- How many events a poller handles at most: the entries of its agenda, and
two for each tick that is still to come. -/
def todo (interval stop : Nat) (poller : Poller σ) : Nat :=
  2 * (stop / interval + 1 - poller.triggered) + poller.agenda.entries.length

/-- **Each event leaves less to do**: a tick before the stop brings two entries
at most and uses up itself and one of the ticks. -/
theorem Sound.todo_lt (h : Sound interval stop cycle first now poller) (hinterval : 0 < interval)
    (hentries : poller.agenda.entries = (due, event) :: rest) :
    todo interval stop (Poller.handle interval cycle due event { poller with agenda := ⟨rest⟩ }) <
      todo interval stop poller := by
  have hlength : poller.agenda.entries.length = rest.length + 1 := congrArg List.length hentries
  unfold todo
  rw [hlength]
  cases h.next hentries with
  | lateTick hstopped _ =>
    rw [Poller.handle, if_pos hstopped]
    exact Nat.lt_succ_self _
  | tick hstopped hdue hrest =>
    -- a tick that comes before the stop is one of those that were counted
    have hleft : poller.triggered ≤ stop / interval := by
      obtain ⟨-, hlater, -⟩ := h.in_time hentries
      rw [Nat.le_div_iff_mul_le hinterval, ← hdue]
      exact hlater (stop, .stop) (hrest.symm.subset List.mem_cons_self)
    rcases Bool.eq_false_or_eq_true poller.taken with htaken | htaken
    · rw [handle_tick_of_taken hstopped htaken]
      simp only [Clock.Agenda.note, (Clock.Agenda.perm_insertEntry _ _).length_eq,
        List.length_cons]
      omega
    · rw [handle_tick_of_free hstopped htaken]
      simp only [Clock.Agenda.note, (Clock.Agenda.perm_insertEntry _ _).length_eq,
        List.length_cons]
      omega
  | stop => exact Nat.lt_succ_self _
  | finish hrunning _ _ =>
    simp only [Poller.handle, conclude, hrunning, List.find?_cons_of_pos, decide_true]
    exact Nat.lt_succ_self _

/-- No visit is forgotten. -/
theorem visits_prefix_handle (interval : Nat) (cycle : σ → Nat × σ) (now : Nat) (event : Event)
    (poller : Poller σ) :
    poller.visits <+: (Poller.handle interval cycle now event poller).visits := by
  cases event with
  | tick =>
    simp only [Poller.handle, knock, letIn]
    split
    · exact List.prefix_rfl
    · split <;> exact List.prefix_append _ _
  | finish number =>
    simp only [Poller.handle, conclude]
    split <;> exact List.prefix_rfl
  | stop => exact List.prefix_rfl

theorem visits_prefix_run (interval : Nat) (cycle : σ → Nat × σ) (count now : Nat)
    (poller : Poller σ) :
    poller.visits <+: (Poller.run interval cycle count now poller).2.visits := by
  induction count generalizing now poller with
  | zero => exact List.prefix_rfl
  | succ count ih =>
    rw [Poller.run]
    split
    · exact List.prefix_rfl
    · split
      · exact List.prefix_rfl
      · next due event agenda _ =>
        exact (visits_prefix_handle interval cycle due event { poller with agenda }).trans
          (ih due _)

/-- With enough events a poller comes to its end, and is sound then. -/
theorem Sound.run (h : Sound interval stop cycle first now poller) (hinterval : 0 < interval)
    (hstop : ¬ interval ∣ stop) {count : Nat} (hcount : poller.todo interval stop ≤ count)
    (huntied : ∀ visit ∈ (Poller.run interval cycle count now poller).2.visits,
      visit.Untied interval) :
    let ended := Poller.run interval cycle count now poller
    Sound interval stop cycle first ended.1 ended.2 ∧ ended.2.stopped = true ∧
      ended.2.running = [] := by
  -- Induction on the events that are left; soundness gives the next one, and what is to do stays
  -- below their number.
  induction count generalizing now poller with
  | zero =>
    have hnil : poller.agenda.entries = [] := by
      rw [todo] at hcount
      exact List.length_eq_zero_iff.mp (by omega)
    exact ⟨h, h.ended_of_nil hnil⟩
  | succ count ih =>
    rw [Poller.run] at huntied ⊢
    by_cases hended : (poller.stopped && poller.running.isEmpty) = true
    · rw [if_pos hended]
      rw [Bool.and_eq_true, List.isEmpty_iff] at hended
      exact ⟨h, hended⟩
    · rw [if_neg hended] at huntied ⊢
      have hgoing : poller.stopped = true → poller.running ≠ [] := fun hstopped hnone =>
        hended (by rw [hstopped, hnone]; rfl)
      cases hentries : poller.agenda.entries with
      | nil =>
        obtain ⟨hstopped, hnone⟩ := h.ended_of_nil hentries
        exact absurd hnone (hgoing hstopped)
      | cons entry rest =>
        obtain ⟨due, event⟩ := entry
        have hnext : poller.agenda.next? = some ((due, event), ⟨rest⟩) := by
          rw [Clock.Agenda.next?, hentries]
        rw [hnext] at huntied ⊢
        have hlt := h.todo_lt hinterval hentries
        have hvisits : poller.visits <+: _ :=
          (visits_prefix_handle interval cycle due event { poller with agenda := ⟨rest⟩ }).trans
            (visits_prefix_run interval cycle count due _)
        have hsound := h.handle hinterval hstop
          (fun visit hvisit => huntied visit (hvisits.subset hvisit)) hgoing hentries
        exact ih hsound (by omega) huntied

end Steps

/-- A poller before its first tick. -/
theorem sound_opening (interval stop : Nat) (cycle : σ → Nat × σ) (state : σ) :
    Sound interval stop cycle state 0 (opening stop state) := by
  have hentries : (opening stop state).agenda.entries = [(0, .tick), (stop, .stop)] := rfl
  refine sound_of_open rfl (orderly_nil interval cycle state) rfl ?_ (fun _ _ => Nat.zero_le _)
    ?_ nofun (.inl ⟨rfl, rfl, rfl, nofun⟩)
  · rw [hentries]
    simp
  · rw [hentries]
    show List.Perm _ [(0 * interval, Event.tick), (stop, .stop)]
    rw [Nat.zero_mul]

/-- The events of a run are enough for what a poller has to do. -/
theorem todo_opening (interval stop : Nat) (state : σ) :
    (opening stop state).todo interval stop = 2 * (stop / interval) + 4 := by
  show 2 * (stop / interval + 1 - 0) + 2 = _
  omega

/-- The first tick finds nobody past the gate. -/
theorem Orderly.exists_last {interval : Nat} {cycle : σ → Nat × σ} {first : σ}
    {visits : List Visit} (h : Orderly interval cycle first visits) (hvisits : visits ≠ []) :
    ∃ last, (finishes visits).getLast? = some last := by
  obtain ⟨visit, others, rfl⟩ := List.exists_cons_of_ne_nil hvisits
  -- no earlier cycle can have kept the first one out
  have hsome : visit.duration?.isSome = true :=
    (h.runs_iff (k := 0) rfl).mpr fun finish hfinish => nomatch hfinish
  obtain ⟨duration, hduration⟩ := Option.isSome_iff_exists.mp hsome
  have hmem : visit.tick + duration ∈ finishes (visit :: others) :=
    mem_finishes.mpr ⟨visit, List.mem_cons_self, by rw [Visit.finish?, hduration]; rfl⟩
  exact ⟨_, List.getLast?_eq_some_getLast (List.ne_nil_of_mem hmem)⟩

/-- A poller that is stopped between two ticks has come to exactly the ticks
before the stop.  The cycle of a tick ran just when no earlier one still did,
no two overlapped, and who was turned away changed nothing: what is left is
what the cycles that ran make one after the other, each in full.  None runs
any longer when the poller returns, which is at the stop or at the end of the
last cycle, whichever is later. -/
theorem poll_in_order {interval stop : Nat} (hinterval : 0 < interval) (hstop : ¬ interval ∣ stop)
    (cycle : σ → Nat × σ) (state : σ)
    (huntied : ∀ visit ∈ (poll interval stop cycle state).2.visits, visit.Untied interval) :
    let finish := (poll interval stop cycle state).1
    let poller := (poll interval stop cycle state).2
    Orderly interval cycle state poller.visits ∧
      poller.triggered = poller.visits.length ∧
      (∀ k, k < poller.triggered ↔ k * interval < stop) ∧
      poller.state = leave cycle state poller.visits ∧
      poller.running = [] ∧ (∀ past ∈ finishes poller.visits, past ≤ finish) ∧
      ∃ last, (finishes poller.visits).getLast? = some last ∧ finish = max stop last := by
  intro finish poller
  have hcount : (opening stop state).todo interval stop ≤ 2 * (stop / interval) + 6 := by
    rw [todo_opening]
    omega
  obtain ⟨hsound, hstopped, hrunning⟩ :
      Sound interval stop cycle state finish poller ∧ poller.stopped = true ∧
        poller.running = [] :=
    (sound_opening interval stop cycle state).run hinterval hstop hcount huntied
  have hfree := hsound.free hrunning
  have hticks : ∀ k, k < poller.triggered ↔ k * interval < stop := by
    refine fun k => ⟨hsound.before k, fun hlt => ?_⟩
    exact Nat.lt_of_mul_lt_mul_right (Nat.lt_of_lt_of_le hlt (hsound.stopped hstopped).2)
  -- the stop is after zero, so the first tick has come
  have hvisits : poller.visits ≠ [] := by
    have hpos : 0 < stop := Nat.pos_of_ne_zero fun hzero => hstop (hzero ▸ Nat.dvd_zero _)
    have hfirst : 0 < poller.triggered := (hticks 0).mpr (by omega)
    rw [hsound.triggered_eq] at hfirst
    exact List.ne_nil_of_length_pos hfirst
  obtain ⟨last, hlast⟩ := hsound.orderly.exists_last hvisits
  have hended := hsound.ended hstopped hrunning
  rw [hlast] at hended
  exact ⟨hsound.orderly, hsound.triggered_eq, hticks, hfree.state_eq, hrunning, hfree.past, last,
    hlast, hended⟩

/-- Cycles of 70 and 100, with a tick every 60 and a stop at 150: the second
tick is turned away, and the third cycle goes on beyond the stop. -/
theorem second_tick_turned_away :
    let cycle : List Nat → Nat × List Nat := fun durations => (durations.headD 0, durations.tail)
    let ended := poll 60 150 cycle [70, 100]
    ended.2.visits = [⟨0, some 70⟩, ⟨60, none⟩, ⟨120, some 100⟩] ∧
      (∀ visit ∈ ended.2.visits, visit.Untied 60) ∧
      Orderly 60 cycle [70, 100] ended.2.visits ∧ ended.1 = max 150 220 := by
  intro cycle ended
  have huntied : ∀ visit ∈ ended.2.visits, visit.Untied 60 := by decide
  obtain ⟨horderly, -, -, -, -, -, last, hlast, hfinish⟩ :=
    poll_in_order (by decide) (by decide) cycle [70, 100] huntied
  obtain rfl : last = 220 := Option.some.inj (hlast.symm.trans (by decide))
  exact ⟨by decide, huntied, horderly, hfinish⟩

end BoardRelay.Crawl.Poller
