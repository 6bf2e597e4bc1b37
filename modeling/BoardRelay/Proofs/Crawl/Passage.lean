/-
  BoardRelay.Proofs.Crawl.Passage
  ────────────────────────────────
  A gate passed one at a time, with attempts that wait at every question.

  Whatever happens, an attempt is turned away, let in, gets on past the gate
  or leaves (`Turnstile.Turn`).  The gate is taken exactly while one attempt
  is past it (`Turnstile.Guarded`), and who is turned away has done nothing
  and never will.  A run of attempts that ask without waiting is one of these
  runs (`Turnstile.Mirrors.after`).
-/
import BoardRelay.Crawl.Passage
import BoardRelay.Proofs.Crawl.Run
import BoardRelay.Proofs.Crawl.Script

namespace BoardRelay.Crawl

variable {σ : Type}

namespace Turnstile

/-! ## §1. Runs. -/

@[simp]
theorem after_nil (settings : Nat → Setting σ) (gate : Turnstile σ) :
    gate.after settings [] = gate :=
  rfl

@[simp]
theorem after_cons (settings : Nat → Setting σ) (motion : Motion σ) (motions : List (Motion σ))
    (gate : Turnstile σ) : gate.after settings (motion :: motions) =
      (gate.handle settings motion).after settings motions :=
  rfl

theorem after_append (settings : Nat → Setting σ) (motions more : List (Motion σ))
    (gate : Turnstile σ) :
    gate.after settings (motions ++ more) = (gate.after settings motions).after settings more :=
  List.foldl_append

/-- What everything that happens keeps holds after any run. -/
theorem after_keeps {settings : Nat → Setting σ} {P : Turnstile σ → Prop}
    (hkeeps : ∀ gate motion, P gate → P (gate.handle settings motion)) {gate : Turnstile σ}
    (hgate : P gate) (motions : List (Motion σ)) : P (gate.after settings motions) := by
  induction motions generalizing gate with
  | nil => exact hgate
  | cons motion motions ih => exact ih (hkeeps gate motion hgate)

/-! ## §2. Turns. -/

/-- What an attempt can do at a gate, and the gate after it. -/
inductive Turn (gate : Turnstile σ) (attempt : Nat) : Turnstile σ → Prop where
  | turnedAway (houtside : gate.passages[attempt]? = some .outside) (htaken : gate.taken = true) :
    Turn gate attempt (gate.withPassage attempt (.returned (.error .cycleInProgress) .none))
  | admitted (houtside : gate.passages[attempt]? = some .outside) (hfree : gate.taken = false) :
    Turn gate attempt { gate.withPassage attempt .admitted with taken := true }
  /-- Gets on, past the gate. -/
  | on {passage next : Passage} (hpassage : gate.passages[attempt]? = some passage)
      (hpast : passage.isPast = true) (hnext : next.isPast = true) (deeds : List Deed)
      (flying : List Send) (state : σ) :
    Turn gate attempt { (gate.note attempt deeds).withPassage attempt next with flying, state }
  | left {passage : Passage} (hpassage : gate.passages[attempt]? = some passage)
      (hpast : passage.isPast = true) (deeds : List Deed) (result : Except Error Report)
      (trace : Trace) (state : σ) :
    Turn gate attempt { (gate.note attempt deeds).leave attempt result trace with state }

theorem note_nil (number : Nat) (gate : Turnstile σ) : gate.note number [] = gate := by
  rw [note, List.map_nil, List.append_nil]

/-- Whatever happens does nothing to the attempts, or is the turn of one. -/
theorem handle_cases (settings : Nat → Setting σ) (gate : Turnstile σ) (motion : Motion σ) :
    (∃ flying state, gate.handle settings motion = { gate with flying, state }) ∨
      ∃ attempt, gate.Turn attempt (gate.handle settings motion) := by
  have hidle : ∃ flying state, gate = { gate with flying, state } := ⟨_, _, rfl⟩
  cases motion with
  | land position => exact .inl ⟨_, _, rfl⟩
  | meanwhile change => exact .inl ⟨_, _, rfl⟩
  | knock attempt =>
    simp only [handle, knock]
    split
    · next houtside =>
      -- taken or free: the one question that the gate asks
      split
      · next htaken => exact .inr ⟨attempt, .turnedAway houtside htaken⟩
      · next hfree => exact .inr ⟨attempt, .admitted houtside (Bool.not_eq_true _ ▸ hfree)⟩
    · exact .inl hidle
  | readCursor attempt =>
    simp only [handle, readCursor]
    split
    · next hpassage =>
      split
      · exact .inr ⟨attempt, .left hpassage rfl [.cursor] _ _ gate.state⟩
      · exact .inr ⟨attempt, .on hpassage rfl rfl [.cursor] gate.flying gate.state⟩
    · exact .inl hidle
  | readSubscriptions attempt =>
    simp only [handle, readSubscriptions]
    split
    · next hpassage =>
      split
      · exact .inr ⟨attempt, .left hpassage rfl [.subscriptions] _ _ gate.state⟩
      · exact .inr ⟨attempt, .on hpassage rfl rfl [.subscriptions] gate.flying gate.state⟩
    · exact .inl hidle
  | work attempt position step =>
    simp only [handle, work]
    split
    · next hpassage =>
      split
      · exact .inr ⟨attempt, .on hpassage rfl rfl _ _ gate.state⟩
      · exact .inl hidle
    · exact .inl hidle
  | expire attempt =>
    simp only [handle, expire]
    split
    · next hpassage =>
      refine .inr ⟨attempt, ?_⟩
      have hleft := Turn.left hpassage rfl [] (.error (.cycleDeadline
        (settings attempt).limits.deadlineSeconds)) ‹Cycle›.trace gate.state
      rwa [note_nil] at hleft
    · exact .inl hidle
  | conclude attempt =>
    simp only [handle, conclude]
    split
    · next cycle hpassage =>
      split
      · split
        · split
          · exact .inr ⟨attempt, .left hpassage rfl _ _ _ _⟩
          · exact .inr ⟨attempt, .left hpassage rfl _ _ _ _⟩
          · exact .inr ⟨attempt, .on hpassage rfl rfl _ gate.flying _⟩
        · refine .inr ⟨attempt, ?_⟩
          have hleft := Turn.left hpassage rfl [] (.ok (cycle.report cycle.cursor)) cycle.trace
            gate.state
          rwa [note_nil] at hleft
      · exact .inl hidle
    · exact .inl hidle
  | reread attempt =>
    simp only [handle, reread]
    split
    · next hpassage => exact .inr ⟨attempt, .left hpassage rfl [.cursor] _ _ gate.state⟩
    · exact .inl hidle

/-! ## §3. One at a time. -/

/-- The gate is taken while one attempt is past it, and else nobody is. -/
def Guarded (gate : Turnstile σ) : Prop :=
  gate.passages.countP Passage.isPast = gate.taken.toNat

/-- A turnstile that has just opened is free, with nobody past it. -/
theorem guarded_opening (attempts : Nat) (state : σ) : (opening attempts state).Guarded := by
  show (List.replicate attempts Passage.outside).countP Passage.isPast = 0
  rw [List.countP_replicate]
  rfl

/-- **One turn**: who is let in takes the gate, who leaves frees it, and who
stays past it goes on holding it. -/
theorem Turn.guarded {gate next : Turnstile σ} {attempt : Nat} (hturn : gate.Turn attempt next)
    (h : gate.Guarded) : next.Guarded := by
  unfold Guarded at h ⊢
  cases hturn with
  | turnedAway houtside htaken =>
    have hcount := countP_set Passage.isPast houtside (.returned (.error .cycleInProgress) .none)
    exact (Nat.add_right_cancel hcount).trans h
  -- the gate was free, so the count goes from none to one
  | admitted houtside hfree =>
    have hcount := countP_set Passage.isPast houtside .admitted
    rw [h, hfree] at hcount
    exact hcount
  | @on passage next hpassage hpast hnext deeds flying state =>
    have hcount := countP_set Passage.isPast hpassage next
    rw [hpast, hnext] at hcount
    exact (Nat.add_right_cancel hcount).trans h
  | @left passage hpassage hpast deeds result trace state =>
    -- Whoever leaves was the one that the gate was taken by.
    have hcount := countP_set Passage.isPast hpassage (.returned result trace)
    have hle : gate.taken.toNat ≤ 1 := Bool.toNat_le gate.taken
    rw [h, hpast] at hcount
    show (gate.passages.set attempt (.returned result trace)).countP Passage.isPast = 0
    simp only [Passage.isPast, Bool.toNat_true, Bool.toNat_false] at hcount
    omega

theorem Guarded.handle {settings : Nat → Setting σ} {gate : Turnstile σ} (h : gate.Guarded)
    (motion : Motion σ) : (gate.handle settings motion).Guarded := by
  rcases handle_cases settings gate motion with ⟨flying, state, hsame⟩ | ⟨attempt, hturn⟩
  · rw [hsame]
    exact h
  · exact hturn.guarded h

/-- Whether the attempt of a number is past the gate and has not returned. -/
def IsPast (gate : Turnstile σ) (attempt : Nat) : Prop :=
  ∃ passage, gate.passages[attempt]? = some passage ∧ passage.isPast = true

/-- Whoever is past the gate has taken it. -/
theorem Guarded.taken_of_past {gate : Turnstile σ} (h : gate.Guarded) {holder : Nat}
    (hholder : gate.IsPast holder) : gate.taken = true := by
  obtain ⟨passage, hpassage, hpast⟩ := hholder
  -- the count is positive, and it is the gate's
  have hpos : 0 < gate.passages.countP Passage.isPast :=
    List.countP_pos_iff.mpr ⟨passage, List.mem_of_getElem? hpassage, hpast⟩
  rw [h] at hpos
  cases htaken : gate.taken with
  | true => rfl
  | false => rw [htaken] at hpos; cases hpos

/-- The gate is free if nobody is past it. -/
theorem Guarded.free_of_none {gate : Turnstile σ} (h : gate.Guarded)
    (hnone : ∀ holder, ¬ gate.IsPast holder) : gate.taken = false := by
  have hzero : gate.passages.countP Passage.isPast = 0 := by
    refine List.countP_eq_zero.mpr fun passage hmem hpast => ?_
    obtain ⟨holder, hholder⟩ := List.getElem?_of_mem hmem
    exact hnone holder ⟨passage, hholder, hpast⟩
  rw [h] at hzero
  cases htaken : gate.taken with
  | false => rfl
  | true => rw [htaken] at hzero; cases hzero

/-- Two attempts past the gate would be counted twice. -/
theorem Guarded.alone {gate : Turnstile σ} (h : gate.Guarded) {first second : Nat}
    (hfirst : gate.IsPast first) (hsecond : gate.IsPast second) : first = second := by
  by_contra hne
  obtain ⟨passage, hfirst, hpast⟩ := hfirst
  obtain ⟨other, hsecond, hother⟩ := hsecond
  -- With the first one taken out, the second is still counted.
  have hcount := countP_set Passage.isPast hfirst .outside
  have hstill : 0 < (gate.passages.set first .outside).countP Passage.isPast := by
    refine List.countP_pos_iff.mpr ⟨other, List.mem_iff_getElem?.mpr ⟨second, ?_⟩, hother⟩
    rwa [List.getElem?_set_ne hne]
  have hle : gate.taken.toNat ≤ 1 := Bool.toNat_le gate.taken
  rw [h, hpast] at hcount
  simp only [Passage.isPast, Bool.toNat_true, Bool.toNat_false] at hcount
  omega

/-! ## §4. What an attempt has done. -/

/-- What an attempt has done so far. -/
def deeds (attempt : Nat) (gate : Turnstile σ) : List Deed :=
  (gate.log.filter fun entry => entry.1 = attempt).map (·.2)

/-- Deeds are noted for the attempt that they are of. -/
theorem deeds_note (attempt other : Nat) (deeds : List Deed) (gate : Turnstile σ) :
    (gate.note other deeds).deeds attempt =
      gate.deeds attempt ++ if other = attempt then deeds else [] := by
  rw [Turnstile.deeds, note, List.filter_append, List.map_append, List.filter_map, List.map_map]
  refine congrArg (gate.deeds attempt ++ ·) ?_
  show List.map (fun deed => deed) (List.filter (fun _ => decide (other = attempt)) deeds) = _
  rw [List.map_id']
  by_cases heq : other = attempt
  · rw [if_pos heq, List.filter_eq_self.mpr fun _ _ => decide_eq_true heq]
  · rw [if_neg heq, List.filter_eq_nil_iff.mpr fun _ _ => by simpa using heq]

/-- The turn of another attempt changes nothing for one, and the turn of one
that is not past the gate does nothing that anyone notices. -/
theorem Turn.deeds_eq {gate next : Turnstile σ} {attempt other : Nat}
    (hturn : gate.Turn other next) {passage : Passage}
    (hpassage : gate.passages[attempt]? = some passage) (hout : passage.isPast = false) :
    next.deeds attempt = gate.deeds attempt := by
  -- deeds are written down for those who are past the stile, and this attempt is not
  have hquiet : ∀ deeds, (∃ there : Passage, gate.passages[other]? = some there ∧
      there.isPast = true) → (gate.note other deeds).deeds attempt = gate.deeds attempt := by
    rintro deeds ⟨there, hthere, hpast⟩
    have hne : other ≠ attempt := by
      rintro rfl
      cases hthere.symm.trans hpassage
      rw [hpast] at hout
      cases hout
    rw [deeds_note, if_neg hne, List.append_nil]
  cases hturn with
  | turnedAway => rfl
  | admitted => rfl
  | on hthere hpast hnext deeds => exact hquiet deeds ⟨_, hthere, hpast⟩
  | left hthere hpast deeds => exact hquiet deeds ⟨_, hthere, hpast⟩

/-- Who has returned stays as it is. -/
theorem Turn.returned {gate next : Turnstile σ} {attempt other : Nat}
    (hturn : gate.Turn other next) {result : Except Error Report} {trace : Trace}
    (hreturned : gate.passages[attempt]? = some (.returned result trace)) :
    next.passages[attempt]? = some (.returned result trace) := by
  -- another attempt had the turn, and its passage is all that changes
  have hset : ∀ there : Passage, gate.passages[other]? = some there →
      (∀ result trace, there ≠ .returned result trace) → ∀ passage,
      (gate.passages.set other passage)[attempt]? = some (.returned result trace) := by
    intro there hthere hopen passage
    have hne : other ≠ attempt := by
      rintro rfl
      exact hopen result trace (Option.some.inj (hthere.symm.trans hreturned))
    rwa [List.getElem?_set_ne hne]
  have hopen : ∀ {there : Passage}, there.isPast = true →
      ∀ result trace, there ≠ .returned result trace := by
    rintro there hpast result trace rfl
    cases hpast
  cases hturn with
  | turnedAway houtside => exact hset _ houtside nofun _
  | admitted houtside => exact hset _ houtside nofun _
  | on hthere hpast => exact hset _ hthere (hopen hpast) _
  | left hthere hpast => exact hset _ hthere (hopen hpast) _

/-- Who is still outside has done nothing. -/
def Fresh (gate : Turnstile σ) : Prop :=
  ∀ attempt, gate.passages[attempt]? = some .outside → gate.deeds attempt = []

/-- Whatever happens, an attempt that is still outside has done nothing. -/
theorem Fresh.handle {settings : Nat → Setting σ} {gate : Turnstile σ} (h : gate.Fresh)
    (motion : Motion σ) : (gate.handle settings motion).Fresh := by
  intro attempt houtside
  rcases handle_cases settings gate motion with ⟨flying, state, hsame⟩ | ⟨other, hturn⟩
  · rw [hsame] at houtside ⊢
    exact h attempt houtside
  · -- Nobody comes back outside, so that the attempt was there before.
    have hbefore : gate.passages[attempt]? = some .outside := by
      generalize gate.handle settings motion = next at houtside hturn
      cases hturn with
      | turnedAway =>
        rcases getElem?_set_cases houtside with ⟨-, hnew⟩ | ⟨-, hold⟩
        · cases hnew
        · exact hold
      | admitted =>
        rcases getElem?_set_cases houtside with ⟨-, hnew⟩ | ⟨-, hold⟩
        · cases hnew
        · exact hold
      | on hthere hpast hnext =>
        rcases getElem?_set_cases houtside with ⟨-, hnew⟩ | ⟨-, hold⟩
        · rw [← hnew] at hnext
          cases hnext
        · exact hold
      | left =>
        rcases getElem?_set_cases houtside with ⟨-, hnew⟩ | ⟨-, hold⟩
        · cases hnew
        · exact hold
    exact (hturn.deeds_eq hbefore rfl).trans (h attempt hbefore)

/-- Who has returned does nothing more. -/
theorem returned_after (settings : Nat → Setting σ) (motions : List (Motion σ))
    {gate : Turnstile σ} {attempt : Nat} {result : Except Error Report} {trace : Trace}
    (hreturned : gate.passages[attempt]? = some (.returned result trace)) :
    (gate.after settings motions).passages[attempt]? = some (.returned result trace) ∧
      (gate.after settings motions).deeds attempt = gate.deeds attempt := by
  refine after_keeps (P := fun later => later.passages[attempt]? = some (.returned result trace) ∧
    later.deeds attempt = gate.deeds attempt) (fun later motion hlater => ?_)
    ⟨hreturned, rfl⟩ motions
  rcases handle_cases settings later motion with ⟨flying, state, hsame⟩ | ⟨other, hturn⟩
  · rw [hsame]
    exact hlater
  · exact ⟨hturn.returned hlater.1, (hturn.deeds_eq hlater.1 rfl).trans hlater.2⟩

/-! ## §5. Attempts that need not wait. -/

/-- A phase of an attempt whose questions are answered at once. -/
def ofPhase : Phase → Passage
  | .outside => .outside
  | .inside cycle => .crawling cycle
  | .returned result trace => .returned result trace

/-- What makes up an event at a gate. -/
def motionsOf : Event → List (Motion σ)
  | .enter attempt => [.knock attempt, .readCursor attempt, .readSubscriptions attempt]
  | .work attempt position step => [.work attempt position step]
  | .expire attempt => [.expire attempt]
  | .finish attempt => [.conclude attempt, .reread attempt]

/-- A turnstile where the attempts are as far as they are at a gate. -/
structure Mirrors (gate : Gate σ) (stile : Turnstile σ) : Prop where
  taken : stile.taken = gate.taken
  passages : stile.passages = gate.phases.map ofPhase
  state : stile.state = gate.state

/-- Gate and turnstile open alike. -/
theorem mirrors_opening (attempts : Nat) (state : σ) :
    Mirrors (Gate.free attempts state) (opening attempts state) where
  taken := rfl
  passages := by
    show List.replicate attempts .outside = (List.replicate attempts .outside).map ofPhase
    rw [List.map_replicate, ofPhase]
  state := rfl

theorem Mirrors.set {gate next : Gate σ} {stile later : Turnstile σ} (h : Mirrors gate stile)
    {attempt : Nat} (phase : Phase) (hnext : next.phases = gate.phases.set attempt phase)
    (hlater : later.passages = stile.passages.set attempt (ofPhase phase))
    (htaken : later.taken = next.taken) (hstate : later.state = next.state) :
    Mirrors next later :=
  ⟨htaken, by rw [hlater, hnext, h.passages, List.map_set], hstate⟩

theorem passages_set {stile : Turnstile σ} {attempt : Nat} {passage : Passage}
    (hpassage : stile.passages[attempt]? = some passage) (next : Passage) :
    (stile.passages.set attempt next)[attempt]? = some next :=
  List.getElem?_set_self (List.getElem?_eq_some_iff.mp hpassage).1

/-- Nothing happens to an attempt that is not there. -/
theorem handle_of_none (settings : Nat → Setting σ) {stile : Turnstile σ} {event : Event}
    (hnone : stile.passages[event.attempt]? = none) :
    stile.after settings (motionsOf event) = stile := by
  cases event <;>
    · simp only [Event.attempt] at hnone
      simp only [motionsOf, after_cons, after_nil, Turnstile.handle, knock, readCursor,
        readSubscriptions, work, expire, conclude, reread, hnone]

/-- Coming to the gate and reading what a cycle begins with. -/
theorem Mirrors.enter {settings : Nat → Setting σ} {gate : Gate σ} {stile : Turnstile σ}
    (h : Mirrors gate stile) {attempt : Nat} {phase : Phase}
    (hpassage : stile.passages[attempt]? = some (ofPhase phase))
    (hphase : gate.phase attempt = phase) :
    Mirrors (gate.enter (settings attempt).registry (settings attempt).limits attempt)
      (stile.after settings (motionsOf (.enter attempt))) := by
  have hset := passages_set hpassage
  simp only [motionsOf, after_cons, after_nil, Turnstile.handle]
  cases phase with
  | inside cycle =>
    simp only [ofPhase] at hpassage
    simpa only [knock, readCursor, readSubscriptions, Gate.enter, hpassage, hphase] using h
  | returned result trace =>
    simp only [ofPhase] at hpassage
    simpa only [knock, readCursor, readSubscriptions, Gate.enter, hpassage, hphase] using h
  | outside =>
    simp only [ofPhase] at hpassage
    -- the gate opens for the first question, and either read may still fail
    cases htaken : stile.taken with
    | true =>
      simp only [knock, readCursor, readSubscriptions, hpassage, htaken, if_true, withPassage, hset,
        Gate.enter, hphase, ← h.taken]
      exact h.set (.returned _ _) rfl rfl (htaken.symm.trans h.taken) h.state
    | false =>
      simp only [knock, readCursor, note, hpassage, htaken, Bool.false_eq_true, if_false,
        withPassage, hset, Gate.enter, hphase, ← h.taken, ← h.state, Cycle.start]
      cases hcursor : (settings attempt).registry.cursor stile.state with
      | error e =>
        simp only [readSubscriptions, leave, withPassage, hset, List.set_set]
        exact h.set (.returned _ _) rfl rfl (htaken.symm.trans h.taken) h.state
      | ok cursor =>
        simp only [readSubscriptions, leave, note, withPassage, hset, List.set_set]
        cases hsubscriptions : (settings attempt).registry.subscriptions stile.state with
        | error e => exact h.set (.returned _ _) rfl rfl (htaken.symm.trans h.taken) h.state
        | ok subscriptions => exact h.set (.inside _) rfl rfl rfl h.state

/-- Ending a cycle, with another look at the cursor if there is need. -/
theorem Mirrors.finish {settings : Nat → Setting σ} {gate : Gate σ} {stile : Turnstile σ}
    (h : Mirrors gate stile) {attempt : Nat} {phase : Phase}
    (hpassage : stile.passages[attempt]? = some (ofPhase phase))
    (hphase : gate.phase attempt = phase) :
    Mirrors (gate.finish (settings attempt).registry attempt)
      (stile.after settings (motionsOf (.finish attempt))) := by
  have hset := passages_set hpassage
  simp only [motionsOf, after_cons, after_nil, Turnstile.handle]
  cases phase with
  | outside =>
    simp only [ofPhase] at hpassage
    simpa only [conclude, reread, Gate.finish, hpassage, hphase] using h
  | returned result trace =>
    simp only [ofPhase] at hpassage
    simpa only [conclude, reread, Gate.finish, hpassage, hphase] using h
  | inside cycle =>
    simp only [ofPhase] at hpassage
    simp only [conclude, hpassage, Gate.finish, hphase]
    by_cases hsettled : cycle.isSettled
    · rw [if_pos hsettled, if_pos hsettled]
      -- only a newer post makes the cycle move the cursor, and only a cursor that another has
      -- moved is read again
      by_cases hnewer : cycle.cursor < cycle.newest
      · simp only [Cycle.commit, hnewer, if_true, ← h.state, note]
        cases hadvance : (settings attempt).registry.advance cycle.newest stile.state with
        | mk result state =>
          cases result with
          | error e =>
            simp only [leave, withPassage, reread, hset]
            exact h.set (.returned _ _) rfl rfl rfl rfl
          | ok moved =>
            cases moved with
            | true =>
              simp only [leave, withPassage, reread, hset]
              exact h.set (.returned _ _) rfl rfl rfl rfl
            | false =>
              simp only [leave, withPassage, reread, note, hset, List.set_set]
              exact h.set (.returned _ _) rfl rfl rfl rfl
      · simp only [Cycle.commit, hnewer, if_false, leave, withPassage, reread, hset]
        exact h.set (.returned _ _) rfl rfl rfl h.state
    · rw [if_neg hsettled, if_neg hsettled]
      simpa only [reread, hpassage] using h

/-- An event at the gate is made up of what happens at the turnstile. -/
theorem Mirrors.handle {settings : Nat → Setting σ} {gate : Gate σ} {stile : Turnstile σ}
    (h : Mirrors gate stile) (event : Event) :
    Mirrors (gate.handle settings event) (stile.after settings (motionsOf event)) := by
  have hpassage : stile.passages[event.attempt]? =
      gate.phases[event.attempt]?.map ofPhase := by
    rw [h.passages, List.getElem?_map]
  -- an attempt that does not exist moves neither the gate nor the turnstile
  cases hfound : gate.phases[event.attempt]? with
  | none =>
    rw [hfound] at hpassage
    have hbound := Nat.not_lt.mpr (List.getElem?_eq_none_iff.mp hfound)
    rw [handle_of_none settings hpassage]
    simpa only [Gate.handle, hbound, if_false] using h
  | some phase =>
    have hbound := (List.getElem?_eq_some_iff.mp hfound).1
    have hphase : gate.phase event.attempt = phase := by
      rw [Gate.phase, hfound, Option.getD_some]
    rw [hfound] at hpassage
    simp only [Gate.handle, hbound, if_true]
    cases event with
    | enter attempt => exact h.enter hpassage hphase
    | finish attempt => exact h.finish hpassage hphase
    | expire attempt =>
      simp only [Event.attempt, Option.map_some] at hpassage hphase
      simp only [motionsOf, after_cons, after_nil, Turnstile.handle, expire, Gate.expire, hpassage,
        hphase]
      cases phase with
      | outside => exact h
      | inside cycle => exact h.set (.returned _ _) rfl rfl rfl h.state
      | returned result trace => exact h
    | work attempt position step =>
      simp only [Event.attempt, Option.map_some] at hpassage hphase
      simp only [motionsOf, after_cons, after_nil, Turnstile.handle, work, Gate.work, hpassage,
        hphase, h.state]
      cases phase with
      | outside => exact h
      | inside cycle =>
        simp only [ofPhase]
        cases cycle.step (settings attempt).site (settings attempt).registry gate.state position
            step with
        | none => exact h
        | some next => exact h.set (.inside next) rfl rfl h.taken h.state
      | returned result trace => exact h

/-- A run at a gate is a run at the turnstile. -/
theorem Mirrors.after {settings : Nat → Setting σ} {gate : Gate σ} {stile : Turnstile σ}
    (h : Mirrors gate stile) (events : List Event) :
    Mirrors (gate.after settings events)
      (stile.after settings (events.flatMap motionsOf)) := by
  -- each event at the gate stands for its motions at the turnstile
  induction events generalizing gate stile with
  | nil => exact h
  | cons event events ih =>
    rw [Gate.after_cons, List.flatMap_cons, after_append]
    exact ih (h.handle event)

end Turnstile

/-! ## §6. The gate. -/

/-- Whatever so many attempts at cycles do at one gate, in whatever order, and
whatever others do in between: at most one attempt is past the gate and has
not returned; one that comes while another is past it is told so, which is
all that happens, and never asks or sends anything; and one that comes while
nobody is past it is let in.  A run of attempts whose questions are answered
at once is made up of such steps. -/
theorem at_most_one_past (settings : Nat → Setting σ) (attempts : Nat) (state : σ)
    (motions : List (Motion σ)) :
    (∀ first second, ((Turnstile.opening attempts state).after settings motions).IsPast first →
      ((Turnstile.opening attempts state).after settings motions).IsPast second →
      first = second) ∧
    (∀ attempt holder,
      ((Turnstile.opening attempts state).after settings motions).passages[attempt]? =
        some .outside →
      ((Turnstile.opening attempts state).after settings motions).IsPast holder →
      (Turnstile.opening attempts state).after settings (motions ++ [.knock attempt]) =
        ((Turnstile.opening attempts state).after settings motions).withPassage attempt
          (.returned (.error .cycleInProgress) .none) ∧
      ∀ more, ((Turnstile.opening attempts state).after settings
          (motions ++ .knock attempt :: more)).passages[attempt]? =
            some (.returned (.error .cycleInProgress) .none) ∧
        ((Turnstile.opening attempts state).after settings
          (motions ++ .knock attempt :: more)).deeds attempt = []) ∧
    (∀ attempt,
      ((Turnstile.opening attempts state).after settings motions).passages[attempt]? =
        some .outside →
      (∀ holder, ¬ ((Turnstile.opening attempts state).after settings motions).IsPast holder) →
      (Turnstile.opening attempts state).after settings (motions ++ [.knock attempt]) =
        { ((Turnstile.opening attempts state).after settings motions).withPassage attempt
          .admitted with taken := true }) ∧
    ∀ events : List Event, Turnstile.Mirrors ((Gate.free attempts state).after settings events)
      ((Turnstile.opening attempts state).after settings
        (events.flatMap Turnstile.motionsOf)) := by
  -- both invariants hold from the opening on, so they hold where the motions lead
  have hguarded : ((Turnstile.opening attempts state).after settings motions).Guarded :=
    Turnstile.after_keeps (fun _ motion h => h.handle motion)
      (Turnstile.guarded_opening attempts state) motions
  have hfresh : ((Turnstile.opening attempts state).after settings motions).Fresh :=
    Turnstile.after_keeps (fun _ motion h => h.handle motion) (fun _ _ => rfl) motions
  have hmirrors := Turnstile.mirrors_opening attempts state
  simp only [Turnstile.after_append, Turnstile.after_cons, Turnstile.after_nil]
  generalize (Turnstile.opening attempts state).after settings motions = gate at hguarded hfresh
  refine ⟨fun first second hfirst hsecond => hguarded.alone hfirst hsecond,
    fun attempt holder houtside hholder => ?_, fun attempt houtside hnone => ?_,
    fun events => hmirrors.after events⟩
  · have htaken := hguarded.taken_of_past hholder
    have hknock : gate.handle settings (.knock attempt) =
        gate.withPassage attempt (.returned (.error .cycleInProgress) .none) := by
      simp only [Turnstile.handle, Turnstile.knock, houtside, htaken, if_true]
    have hreturned : (gate.withPassage attempt
        (.returned (.error .cycleInProgress) .none)).passages[attempt]? =
          some (.returned (.error .cycleInProgress) .none) :=
      Turnstile.passages_set houtside _
    rw [hknock]
    refine ⟨rfl, fun more => ?_⟩
    obtain ⟨hstays, hdeeds⟩ := Turnstile.returned_after settings more hreturned
    -- Until then the attempt was outside, where nothing can be done.
    exact ⟨hstays, hdeeds.trans (hfresh attempt houtside)⟩
  · have hfree := hguarded.free_of_none hnone
    simp only [Turnstile.handle, Turnstile.knock, houtside, hfree, Bool.false_eq_true, if_false]

/-- One attempt meets its deadline with a file on its way; another came
before that and a third after it. -/
example :
    let gate := (Turnstile.opening 3 oneFan).after (fun _ => oneFile.setting)
      [.knock 0, .knock 1, .readCursor 0, .readSubscriptions 0, .work 0 0 .list, .work 0 0 .listed,
        .work 0 0 (.lookup 0), .work 0 0 .fetch, .work 0 0 (.fetched 0), .expire 0, .knock 2]
    gate.passages[1]? = some (.returned (.error .cycleInProgress) .none) ∧
      gate.passages[2]? = some .admitted ∧ gate.flying.length = 1 := by
  decide +kernel

end BoardRelay.Crawl
