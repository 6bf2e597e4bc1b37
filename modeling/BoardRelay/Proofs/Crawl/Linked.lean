/-
  BoardRelay.Proofs.Crawl.Linked
  ────────────────────────────────
  Who gets files while the store changes.  A cycle reads the subscriptions
  once and looks up their users later, by identifier.  Every receiver of what
  it sends was then linked to the identifier of a subscription that the cycle
  had read and that selects the file, and if nothing was removed in between,
  to that subscription (`receivers_linked`).  After a removal the identifier
  may be another's (`sent_to_another`).
-/
import BoardRelay.Proofs.Crawl.Origin
import BoardRelay.Proofs.Crawl.Passage
import BoardRelay.Proofs.Store.Borne
import Mathlib.Data.List.Induction

namespace BoardRelay.Crawl

variable {σ : Type}

/-! ## §1. What happens at a turnstile. -/

/-- Someone asks something of the store. -/
def Motion.asking (deed : Store.Deed) : Motion Store :=
  .meanwhile fun store => (deed.onStore store).2

/-- Whether a motion changes the store, if others do at all, by a deed of the
kind given. -/
def Motion.Within (Allowed : Store.Deed → Prop) : Motion Store → Prop
  | .meanwhile change => ∃ deed, Allowed deed ∧ ∀ store, change store = (deed.onStore store).2
  | _ => True

namespace Turnstile

/-- What leaves nobody crawling who did not before, and sends nothing. -/
structure Quiet (gate next : Turnstile σ) : Prop where
  crawling {attempt : Nat} {cycle : Cycle} :
    next.passages[attempt]? = some (.crawling cycle) →
      gate.passages[attempt]? = some (.crawling cycle)
  sends {attempt : Nat} {send : Send} :
    (attempt, .send send) ∈ next.log → (attempt, .send send) ∈ gate.log

/-- A motion at a turnstile, by what it has to do with crawling. -/
inductive Does (settings : Nat → Setting σ) (gate : Turnstile σ) :
    Motion σ → Turnstile σ → Prop where
  | quiet {motion : Motion σ} {next : Turnstile σ} (hquiet : gate.Quiet next)
      (hstate : next.state = gate.state) : Does settings gate motion next
  | changed (change : σ → σ) :
    Does settings gate (.meanwhile change) { gate with state := change gate.state }
  | advanced {motion : Motion σ} {next : Turnstile σ} (hquiet : gate.Quiet next)
      (attempt : Nat) (timestamp : UInt64)
      (hstate : next.state = ((settings attempt).registry.advance timestamp gate.state).2) :
    Does settings gate motion next
  | began {attempt : Nat} (cursor : UInt64) (width : Nat) {subscriptions : List Subscription}
      (hsubscriptions : (settings attempt).registry.subscriptions gate.state = .ok subscriptions) :
    Does settings gate (.readSubscriptions attempt)
      ((gate.note attempt [.subscriptions]).withPassage attempt (.crawling
        ⟨cursor, width, (boardsOf subscriptions).map (errandOf subscriptions), .none⟩))
  | worked {attempt position : Nat} {step : Step} {cycle next : Cycle} (flying : List Send)
      (hcrawling : gate.passages[attempt]? = some (.crawling cycle))
      (hstep : cycle.step (settings attempt).site (settings attempt).registry gate.state position
        step = some next) :
    Does settings gate (.work attempt position step)
      { (gate.note attempt (cycle.trace.since next.trace)).withPassage attempt (.crawling next) with
        flying }

theorem Quiet.refl (gate : Turnstile σ) : gate.Quiet gate :=
  ⟨id, id⟩

/-- An attempt that gets on, or leaves, and sends nothing. -/
theorem quiet_of_set {gate next : Turnstile σ} {number : Nat} {passage : Passage}
    (deeds : List Deed) (hpassages : next.passages = gate.passages.set number passage)
    (hlog : next.log = gate.log ++ deeds.map fun deed => (number, deed))
    (hpassage : ∀ cycle, passage ≠ .crawling cycle) (hdeeds : ∀ send, .send send ∉ deeds) :
    gate.Quiet next := by
  refine ⟨fun {attempt cycle} h => ?_, fun {attempt send} h => ?_⟩
  · rw [hpassages] at h
    -- the one passage that changes is not crawling then, so whoever crawls did so before
    rcases getElem?_set_cases h with ⟨-, heq⟩ | ⟨-, hold⟩
    · exact absurd heq.symm (hpassage cycle)
    · exact hold
  · rw [hlog] at h
    rcases List.mem_append.mp h with hold | hnew
    · exact hold
    · obtain ⟨deed, hdeed, heq⟩ := List.mem_map.mp hnew
      cases heq
      exact absurd hdeed (hdeeds send)

/-- **What a motion does, sorted**: it changes the state from outside, begins a
cycle, takes a step in one, or asks to move the cursor; any other motion sends
nothing and leaves the state. -/
theorem handle_does (settings : Nat → Setting σ) (gate : Turnstile σ) (motion : Motion σ) :
    gate.Does settings motion (gate.handle settings motion) := by
  -- most motions find nobody to move, or take one attempt on and send nothing
  have hidle : ∀ motion, gate.Does settings motion gate := fun _ => .quiet (.refl gate) rfl
  have hset : ∀ {motion : Motion σ} {next : Turnstile σ} {number : Nat} {passage : Passage},
      next.passages = gate.passages.set number passage →
      (∀ cycle, passage ≠ .crawling cycle) → ∀ deeds : List Deed,
      next.log = gate.log ++ deeds.map (fun deed => (number, deed)) →
      (∀ send, .send send ∉ deeds) → next.state = gate.state →
      gate.Does settings motion next :=
    fun hpassages hpassage did hlog hdeeds hstate =>
      .quiet (quiet_of_set did hpassages hlog hpassage hdeeds) hstate
  cases motion with
  | land position => exact .quiet ⟨id, id⟩ rfl
  | meanwhile change => exact .changed change
  | knock number =>
    simp only [handle, knock]
    split
    · split
      · exact hset rfl (by simp) [] (List.append_nil _).symm (by simp) rfl
      · exact hset rfl (by simp) [] (List.append_nil _).symm (by simp) rfl
    · exact hidle _
  | readCursor number =>
    simp only [handle, readCursor]
    split
    · split
      · exact hset rfl (by simp) [.cursor] rfl (by simp) rfl
      · exact hset rfl (by simp) [.cursor] rfl (by simp) rfl
    · exact hidle _
  | readSubscriptions number =>
    simp only [handle, readSubscriptions]
    split
    · split
      · exact hset rfl (by simp) [.subscriptions] rfl (by simp) rfl
      · next hsubscriptions => exact .began _ _ hsubscriptions
    · exact hidle _
  | work number position step =>
    simp only [handle, work]
    split
    · next hcrawling =>
      split
      · next hstep => exact .worked _ hcrawling hstep
      · exact hidle _
    · exact hidle _
  | expire number =>
    simp only [handle, expire]
    split
    · exact hset rfl (by simp) [] (List.append_nil _).symm (by simp) rfl
    · exact hidle _
  | conclude number =>
    simp only [handle, conclude]
    split
    · next cycle hcrawling =>
      split
      · split
        · -- whatever comes of it, the registry is asked to move its cursor
          split <;> next hmoved =>
            exact .advanced
              (quiet_of_set [.call (.advance cycle.newest)] rfl rfl (by simp) (by simp))
              number cycle.newest (congrArg Prod.snd hmoved).symm
        · exact hset rfl (by simp) [] (List.append_nil _).symm (by simp) rfl
      · exact hidle _
    · exact hidle _
  | reread number =>
    simp only [handle, reread]
    split
    · exact hset rfl (by simp) [.cursor] rfl (by simp) rfl
    · exact hidle _

/-! ## §2. The store in the meantime. -/

section Memory

variable {settings : Nat → Setting Store} {gate next : Turnstile Store} {motion : Motion Store}

/-- Attempts change a store in memory only by moving its cursor, others by
their deeds. -/
theorem Does.state_eq (h : gate.Does settings motion next)
    (hmemory : ∀ attempt, (settings attempt).registry = Registry.memory)
    {Allowed : Store.Deed → Prop} (hadvance : ∀ timestamp, Allowed (.advance timestamp))
    (hmotion : motion.Within Allowed) :
    next.state = gate.state ∨
      ∃ deed, Allowed deed ∧ next.state = (deed.onStore gate.state).2 := by
  cases h with
  | quiet _ hstate => exact .inl hstate
  | changed change =>
    obtain ⟨deed, hdeed, heq⟩ := hmotion
    exact .inr ⟨deed, hdeed, heq gate.state⟩
  | advanced _ attempt timestamp hstate =>
    rw [hmemory] at hstate
    exact .inr ⟨.advance timestamp, hadvance timestamp, hstate⟩
  | began => exact .inl rfl
  | worked => exact .inl rfl

/-- What all deeds of a kind keep of a store is kept by any run in which others
do nothing else. -/
theorem state_keeps (hmemory : ∀ attempt, (settings attempt).registry = Registry.memory)
    {Allowed : Store.Deed → Prop} (hadvance : ∀ timestamp, Allowed (.advance timestamp))
    {P : Store → Prop}
    (hkeeps : ∀ deed store, Allowed deed → P store → P (deed.onStore store).2)
    (h : P gate.state) {motions : List (Motion Store)}
    (hmotions : ∀ motion ∈ motions, motion.Within Allowed) :
    P (gate.after settings motions).state := by
  induction motions generalizing gate with
  | nil => exact h
  | cons motion motions ih =>
    refine ih ?_ fun other hother => hmotions other (List.mem_cons_of_mem _ hother)
    -- nothing changes the store but an allowed deed
    rcases (handle_does settings gate motion).state_eq hmemory hadvance
        (hmotions motion List.mem_cons_self) with hsame | ⟨deed, hdeed, heq⟩
    · rwa [hsame]
    · rw [heq]
      exact hkeeps deed _ hdeed h

/-! ## §3. Lookups of a run. -/

/-- Whether an attempt looks up a subscription by a step of its errand at a
position. -/
def LooksUp (settings : Nat → Setting Store) (gate : Turnstile Store) (attempt position index : Nat)
    (s : Subscription) : Prop :=
  (gate.handle settings (.work attempt position (.lookup index))).log =
    gate.log ++ [(attempt, .call (.lookup s.id))]

variable (settings gate) in
/-- Whether users were found for a subscription by a lookup of an attempt that
had read the subscriptions before. -/
def LookedUp (attempt : Nat) (start during : List (Motion Store)) (s : Subscription)
    (found : List User) : Prop :=
  ∃ before position index rest, during = before ++ .work attempt position (.lookup index) :: rest ∧
    (gate.after settings (start ++ .readSubscriptions attempt :: before)).LooksUp settings attempt
      position index s ∧
    found =
      (gate.after settings (start ++ .readSubscriptions attempt :: before)).state.subscribersOf s.id

variable (settings gate) in
/-- Whether a user was linked, when an attempt looked it up, to the identifier
of a subscription that the attempt had read and that selects a send. -/
def Chosen (attempt : Nat) (motions : List (Motion Store)) (send : Send) (user : User) : Prop :=
  ∃ start during s found, motions = start ++ .readSubscriptions attempt :: during ∧
    s ∈ (gate.after settings start).state.subscriptions ∧
    Selects (settings attempt).site s.board s send ∧
    LookedUp settings gate attempt start during s found ∧ user ∈ found

/-- What was looked up stays looked up when the run goes on. -/
theorem LookedUp.concat {attempt : Nat} {start during : List (Motion Store)} {s : Subscription}
    {found : List User} (h : LookedUp settings gate attempt start during s found)
    (motion : Motion Store) :
    LookedUp settings gate attempt start (during ++ [motion]) s found := by
  obtain ⟨before, position, index, rest, rfl, hlooked⟩ := h
  exact ⟨before, position, index, rest ++ [motion], by simp, hlooked⟩

/-- A receiver that was chosen stays chosen when the run goes on. -/
theorem Chosen.concat {attempt : Nat} {motions : List (Motion Store)} {send : Send} {user : User}
    (h : Chosen settings gate attempt motions send user) (motion : Motion Store) :
    Chosen settings gate attempt (motions ++ [motion]) send user := by
  obtain ⟨start, during, s, found, rfl, hs, hselects, hlooked, huser⟩ := h
  exact ⟨start, during ++ [motion], s, found, by simp, hs, hselects, hlooked.concat motion, huser⟩

variable (settings gate) in
/-- Whether the errands of an attempt have the subscriptions that it has read,
and found their users by its lookups since. -/
def Informed (attempt : Nat) (motions : List (Motion Store)) (cycle : Cycle) : Prop :=
  ∃ start during, motions = start ++ .readSubscriptions attempt :: during ∧
    ∀ errand ∈ cycle.errands,
      errand.subscriptions = (gate.after settings start).state.subscriptions.filter
        (fun s => s.board = errand.board) ∧
      errand.Sourced (settings attempt).site (LookedUp settings gate attempt start during)

theorem Informed.concat {attempt : Nat} {motions : List (Motion Store)} {cycle : Cycle}
    (h : Informed settings gate attempt motions cycle) (motion : Motion Store) :
    Informed settings gate attempt (motions ++ [motion]) cycle := by
  obtain ⟨start, during, rfl, hall⟩ := h
  refine ⟨start, during ++ [motion], by simp, fun errand herrand => ?_⟩
  obtain ⟨hsubscriptions, hsourced⟩ := hall errand herrand
  exact ⟨hsubscriptions, hsourced.mono fun s found hfound => hfound.concat motion⟩

variable (settings gate) in
/-- A run in which every attempt that crawls is informed, and every receiver
was chosen. -/
structure Tracked (motions : List (Motion Store)) : Prop where
  crawling {attempt : Nat} {cycle : Cycle} :
    (gate.after settings motions).passages[attempt]? = some (.crawling cycle) →
      Informed settings gate attempt motions cycle
  sends {attempt : Nat} {send : Send} :
    (attempt, .send send) ∈ (gate.after settings motions).log → ∀ user ∈ send.receivers,
      Chosen settings gate attempt motions send user

/-- A motion that neither begins a cycle nor sends keeps what is tracked. -/
theorem Tracked.concat_of_quiet {motions : List (Motion Store)} (h : Tracked settings gate motions)
    {motion : Motion Store}
    (hquiet : (gate.after settings motions).Quiet (gate.after settings (motions ++ [motion]))) :
    Tracked settings gate (motions ++ [motion]) where
  crawling hcrawling := (h.crawling (hquiet.crawling hcrawling)).concat motion
  sends hsend user huser := (h.sends (hquiet.sends hsend) user huser).concat motion

/-- Reading the subscriptions begins errands that have found nobody yet. -/
theorem Tracked.began (hmemory : ∀ attempt, (settings attempt).registry = Registry.memory)
    {motions : List (Motion Store)} (h : Tracked settings gate motions) {attempt width : Nat}
    {cursor : UInt64} {subscriptions : List Subscription}
    (hsubscriptions : (settings attempt).registry.subscriptions
      (gate.after settings motions).state = .ok subscriptions)
    (hnext : gate.after settings (motions ++ [.readSubscriptions attempt]) =
      ((gate.after settings motions).note attempt [.subscriptions]).withPassage attempt (.crawling
        ⟨cursor, width, (boardsOf subscriptions).map (errandOf subscriptions), .none⟩)) :
    Tracked settings gate (motions ++ [.readSubscriptions attempt]) := by
  rw [hmemory] at hsubscriptions
  obtain rfl := Except.ok.inj hsubscriptions
  refine ⟨fun {other cycle} hcrawling => ?_, fun {other send} hsend user huser => ?_⟩
  · rw [hnext] at hcrawling
    rcases getElem?_set_cases hcrawling with ⟨rfl, heq⟩ | ⟨-, hold⟩
    · cases heq
      -- no lookup has been made yet
      refine ⟨motions, [], rfl, fun errand herrand => ?_⟩
      obtain ⟨board, -, rfl⟩ := List.mem_map.mp herrand
      exact ⟨rfl, trivial⟩
    · exact (h.crawling hold).concat _
  · rw [hnext] at hsend
    rcases List.mem_append.mp hsend with hold | hnew
    · exact (h.sends hold user huser).concat _
    · cases List.mem_singleton.mp hnew

/-- What is done by a step of a cycle is what its trace gains. -/
theorem since_append (before gained : Trace) :
    before.since (before.append gained) =
      gained.calls.map .call ++ gained.sends.map .send := by
  rw [Trace.since, Trace.append, List.drop_left, List.drop_left]

/-- A step of a cycle keeps track of whom its lookups found, and sends to
nobody else. -/
theorem Tracked.worked (hmemory : ∀ attempt, (settings attempt).registry = Registry.memory)
    {motions : List (Motion Store)} (h : Tracked settings gate motions) {attempt position : Nat}
    {step : Step} {cycle next : Cycle} {flying : List Send}
    (hcrawling : (gate.after settings motions).passages[attempt]? = some (.crawling cycle))
    (hstep : cycle.step (settings attempt).site (settings attempt).registry
      (gate.after settings motions).state position step = some next)
    (hnext : gate.after settings (motions ++ [.work attempt position step]) =
      { ((gate.after settings motions).note attempt (cycle.trace.since next.trace)).withPassage
          attempt (.crawling next) with flying }) :
    Tracked settings gate (motions ++ [.work attempt position step]) := by
  obtain ⟨errand, moved, trace, herrand, hmoves, rfl⟩ := Cycle.step_eq_some_iff.mp hstep
  dsimp only at hnext
  rw [since_append] at hnext
  obtain ⟨start, during, rfl, hall⟩ := h.crawling hcrawling
  obtain ⟨hfrom, hsourced⟩ := hall errand (List.mem_of_getElem? herrand)
  have hlater := hsourced.mono fun s found (hfound : LookedUp settings gate attempt start during
    s found) => hfound.concat (.work attempt position step)
  refine ⟨fun {other crawled} hother => ?_, fun {other send} hsend user huser => ?_⟩
  · rw [hnext] at hother
    rcases getElem?_set_cases hother with ⟨rfl, heq⟩ | ⟨-, hold⟩
    · cases heq
      -- of the errands of the cycle, only the one at the position has made a step
      refine ⟨start, during ++ [.work other position step], by simp, fun one hone => ?_⟩
      rcases List.mem_or_eq_of_mem_set hone with hbefore | rfl
      · obtain ⟨hsame, hbefore⟩ := hall one hbefore
        exact ⟨hsame, hbefore.mono fun s found hfound => hfound.concat _⟩
      · have hboard := hmoves.board_eq
        refine ⟨by rw [hboard.1, hboard.2, hfrom], hmoves.sourced hlater ?_⟩
        rintro index s rfl rfl
        -- the lookup that is made right now
        refine ⟨during, position, index, [], rfl, ?_, ?_⟩
        · rw [after_append, after_cons, after_nil] at hnext
          rw [LooksUp, hnext]
          rfl
        · rw [hmemory]
          rfl
    · exact (h.crawling hold).concat _
  · rw [hnext] at hsend
    rcases List.mem_append.mp hsend with hold | hnew
    · exact (h.sends hold user huser).concat _
    · obtain ⟨deed, hdeed, heq⟩ := List.mem_map.mp hnew
      cases heq
      -- what is sent now is for users whom a lookup found before
      have hsent : send ∈ trace.sends := by simpa using hdeed
      obtain ⟨s, hs, hselects, found, hfound, hmem⟩ := hmoves.exists_looked hsourced hsent huser
      rw [hfrom] at hs
      obtain ⟨hread, hboard⟩ := List.mem_filter.mp hs
      rw [← of_decide_eq_true hboard] at hselects
      exact ⟨start, during ++ [.work attempt position step], s, found, by simp, hread, hselects,
        hfound.concat _, hmem⟩

/-- One more motion, of any sort, keeps what is tracked. -/
theorem Tracked.concat (hmemory : ∀ attempt, (settings attempt).registry = Registry.memory)
    {motions : List (Motion Store)} (h : Tracked settings gate motions) (motion : Motion Store) :
    Tracked settings gate (motions ++ [motion]) := by
  have hlast : gate.after settings (motions ++ [motion]) =
      (gate.after settings motions).handle settings motion := after_append settings _ _ gate
  have hdoes := handle_does settings (gate.after settings motions) motion
  generalize hnext : (gate.after settings motions).handle settings motion = next at hdoes
  rw [hnext] at hlast
  -- of the five sorts, only the beginning of a cycle and a step in one have anything to show
  cases hdoes with
  | quiet hquiet => exact h.concat_of_quiet (hlast ▸ hquiet)
  | changed change => exact h.concat_of_quiet (hlast ▸ ⟨id, id⟩)
  | advanced hquiet => exact h.concat_of_quiet (hlast ▸ hquiet)
  | began cursor width hsubscriptions => exact h.began hmemory hsubscriptions hlast
  | worked flying hcrawling hstep => exact h.worked hmemory hcrawling hstep hlast

/-- **In every run, whatever is sent goes to users that were looked up for a
subscription that was read.** -/
theorem tracked_after (hmemory : ∀ attempt, (settings attempt).registry = Registry.memory)
    (attempts : Nat) (store : Store) (motions : List (Motion Store)) :
    Tracked settings (opening attempts store) motions := by
  -- the run grows at its end, so that what was read and looked up stays before what is sent
  induction motions using List.reverseRecOn with
  | nil =>
    refine ⟨fun {attempt cycle} hcrawling => ?_, fun hsend => (List.not_mem_nil hsend).elim⟩
    cases List.eq_of_mem_replicate (List.mem_of_getElem? hcrawling)
  | append_singleton motions motion ih => exact ih.concat hmemory motion

end Memory

end Turnstile

/-! ## §4. Who a file is for. -/

/-- Whatever attempts over one store in memory do, and whatever others ask of
the store in between: every receiver of a file was linked, when the attempt
looked it up, to the identifier of a subscription that the attempt had read and
whose filter selects the file.  Some subscription had that identifier then, and
if nothing was removed between reading and lookup, it was still that one. -/
theorem receivers_linked {settings : Nat → Setting Store}
    (hmemory : ∀ attempt, (settings attempt).registry = Registry.memory) (attempts : Nat)
    (store : Store) {motions : List (Motion Store)}
    (hmotions : ∀ motion ∈ motions, motion.Within fun _ => True) {attempt : Nat} {send : Send}
    (hsend : (attempt, .send send) ∈
      ((Turnstile.opening attempts store).after settings motions).log)
    {user : User} (huser : user ∈ send.receivers) :
    ∃ start before position index rest s,
      motions = start ++ .readSubscriptions attempt :: before ++
        .work attempt position (.lookup index) :: rest ∧
      s ∈ ((Turnstile.opening attempts store).after settings start).state.subscriptions ∧
      Selects (settings attempt).site s.board s send ∧
      let asked := (Turnstile.opening attempts store).after settings
        (start ++ .readSubscriptions attempt :: before)
      asked.LooksUp settings attempt position index s ∧
        user ∈ asked.state.users ∧ asked.state.linked user.id s.id = true ∧
        (∃ now ∈ asked.state.subscriptions, now.id = s.id) ∧
        ((∀ motion ∈ before, motion.Within fun deed => deed.removes = false) →
          s ∈ asked.state.subscriptions) := by
  obtain ⟨start, during, s, found, rfl, hs, hselects,
    ⟨before, position, index, rest, rfl, hlooks, rfl⟩, hmem⟩ :=
    (Turnstile.tracked_after hmemory attempts store motions).sends hsend user huser
  obtain ⟨hknown, hlinked⟩ := List.mem_filter.mp hmem
  have hafter := Turnstile.after_append settings start (.readSubscriptions attempt :: before)
    (Turnstile.opening attempts store)
  refine ⟨start, before, position, index, rest, s, by simp, hs, hselects, hlooks, hknown, hlinked,
    ?_, fun hkept => ?_⟩
  · have hborne : (Turnstile.after settings (start ++ .readSubscriptions attempt :: before)
        (Turnstile.opening attempts store)).state.Borne s.id := by
      rw [hafter]
      refine Turnstile.state_keeps hmemory (fun _ => trivial)
        (fun deed _ _ hbefore => hbefore.onStore deed) (fun _ _ _ => ⟨s, hs, rfl⟩)
        fun motion hmotion => hmotions motion ?_
      exact List.mem_append_right _ (List.mem_append_left _ hmotion)
    -- no link is to an identifier that a subscription had and nobody has any more
    obtain ⟨link, hlink, hids⟩ := List.any_eq_true.mp hlinked
    exact hborne link hlink (of_decide_eq_true (Bool.and_eq_true_iff.mp hids).2)
  · rw [hafter]
    refine Turnstile.state_keeps (P := fun store => s ∈ store.subscriptions) hmemory (fun _ => rfl)
      (fun _ _ hallowed => Store.Deed.mem_onStore hallowed) hs fun motion hmotion => ?_
    rcases List.mem_cons.mp hmotion with rfl | hbefore
    · trivial
    · exact hkept motion hbefore

/-- A cycle over a store in memory that finds one file to send. -/
def oneFileKept : Setting Store :=
  ⟨oneFile.site, .instant, .memory, oneFile.limits⟩

/-- The motions of such a cycle, with deeds of others before its lookup. -/
def oneFileAmid (deeds : List Store.Deed) : List (Motion Store) :=
  [.knock 0, .readCursor 0, .readSubscriptions 0, .work 0 0 .list, .work 0 0 .listed] ++
    deeds.map .asking ++ [.work 0 0 (.lookup 0), .work 0 0 .fetch, .work 0 0 (.fetched 0)]

/-- Someone subscribes to another board. -/
def dogLover : Store.Deed :=
  .update (.add 60 ⟨0, "x", "\"dog\"", ".img", "", false⟩)

theorem oneFileAmid_within (deeds : List Store.Deed) :
    ∀ motion ∈ oneFileAmid deeds, motion.Within fun _ => True := by
  intro motion hmotion
  rcases List.mem_append.mp hmotion with hbefore | hafter
  · rcases List.mem_append.mp hbefore with hfirst | hdeed
    · simp only [List.mem_cons, List.not_mem_nil, or_false] at hfirst
      rcases hfirst with rfl | rfl | rfl | rfl | rfl <;> trivial
    · obtain ⟨deed, -, rfl⟩ := List.mem_map.mp hdeed
      exact ⟨deed, trivial, fun _ => rfl⟩
  · simp only [List.mem_cons, List.not_mem_nil, or_false] at hafter
    rcases hafter with rfl | rfl | rfl <;> trivial

/-- The file is sent to the user that was linked when the lookup was made. -/
theorem oneFileAmid_sent : (0, .send ⟨[⟨1, 50⟩], "/7.png", "7"⟩) ∈
    ((Turnstile.opening 1 oneFan).after (fun _ => oneFileKept) (oneFileAmid [dogLover])).log := by
  decide +kernel

/-- The fan gets the file whoever else subscribes in the meantime. -/
theorem oneFileAmid_linked : ∃ start before position index rest s,
    oneFileAmid [dogLover] = start ++ .readSubscriptions 0 :: before ++
      .work 0 position (.lookup index) :: rest ∧
    s ∈ ((Turnstile.opening 1 oneFan).after (fun _ => oneFileKept) start).state.subscriptions ∧
    Selects oneFileKept.site s.board s ⟨[⟨1, 50⟩], "/7.png", "7"⟩ ∧
    let asked := (Turnstile.opening 1 oneFan).after (fun _ => oneFileKept)
      (start ++ .readSubscriptions 0 :: before)
    asked.LooksUp (fun _ => oneFileKept) 0 position index s ∧
      ⟨1, 50⟩ ∈ asked.state.users ∧ asked.state.linked 1 s.id = true ∧
      (∃ now ∈ asked.state.subscriptions, now.id = s.id) ∧
      ((∀ motion ∈ before, motion.Within fun deed => deed.removes = false) →
        s ∈ asked.state.subscriptions) :=
  receivers_linked (fun _ => rfl) 1 oneFan (oneFileAmid_within _) oneFileAmid_sent
    (List.mem_singleton_self _)

/-- A fan leaves, and the next to subscribe gets the identifier that is free:
the file of the one is sent to the other, who is linked to nothing on that
board at any time. -/
theorem sent_to_another :
    let motions := oneFileAmid [.update (.remove 50 1), dogLover]
    let after := fun taken =>
      (Turnstile.opening 1 oneFan).after (fun _ => oneFileKept) (motions.take taken)
    (0, .send ⟨[⟨2, 60⟩], "/7.png", "7"⟩) ∈ (after motions.length).log ∧
      ∀ taken < motions.length + 1, ∀ s ∈ (after taken).state.subscriptions, s.board = "b" →
        (after taken).state.linked 2 s.id = false := by
  decide +kernel

end BoardRelay.Crawl
