/-
  BoardRelay.Proofs.Crawl.Solo
  ────────────────────────────────
  An errand alone on a clock.  Between two answers it rests, and its agenda
  has the answers that it waits for (`Solo.Waits`).  Each answer leaves fewer
  to come (`Solo.Waits.pull`), also one that the errand dies of: the answers
  that it waited for before do nothing any more.
-/
import BoardRelay.Proofs.Crawl.Share
import BoardRelay.Proofs.Crawl.Timed

namespace BoardRelay.Crawl

variable {σ : Type}

/-! ## §1. Playing alone. -/

/-- The seat of an errand in a cycle: its position, and what it works with. -/
structure Seat (σ : Type) where
  setting : Setting σ
  state : σ
  cursor : UInt64
  position : Nat

/-- An errand alone on a clock, with what it asked and sent. -/
structure Solo where
  errand : Errand
  agenda : Clock.Agenda (Nat × Step)
  trace : Trace

namespace Seat

/-- How many threads are fetched at a time. -/
def width (seat : Seat σ) : Nat :=
  max 1 seat.setting.limits.maxConcurrent

/-- What becomes of an errand, and what it asks and sends, by some steps. -/
def follow (seat : Seat σ) (steps : List Step) (errand : Errand) : Errand × Trace :=
  errand.follow seat.setting.site seat.setting.registry seat.state seat.cursor seat.width steps

/-- The step that takes an errand to another. -/
def Moves (seat : Seat σ) (errand : Errand) (step : Step) (next : Errand) (trace : Trace) : Prop :=
  errand.Moves seat.setting.site seat.setting.registry seat.state seat.cursor seat.width step next
    trace

/-- Makes a step. -/
def work (seat : Seat σ) (step : Step) (solo : Solo) : Solo :=
  let (errand, trace) := seat.follow [step] solo.errand
  ⟨errand, solo.agenda, solo.trace.append trace⟩

/-- Makes a step that an answer brings, after a delay. -/
def answerAfter (seat : Seat σ) (now delay : Nat) (step : Step) (solo : Solo) : Solo :=
  if delay = 0 then seat.work step solo
  else { solo with agenda := solo.agenda.note (now + delay) (seat.position, step) }

/-- Asks for the listing. -/
def begin (seat : Seat σ) (solo : Solo) : Solo :=
  seat.answerAfter 0 (seat.setting.pace.listing solo.errand.board) .listed (seat.work .list solo)

/-- Makes up to so many steps, as long as it need not wait. -/
def proceed (seat : Seat σ) (now : Nat) : Nat → Solo → Solo
  | 0, solo => solo
  | count + 1, solo =>
    match solo.errand.stage with
    | .looking _ (next :: _) _ => seat.proceed now count (seat.work (.lookup next) solo)
    | .fetching (job :: _) running _ =>
      if running.length < seat.width then
        seat.proceed now count (seat.answerAfter now
          (seat.setting.pace.posts solo.errand.board job.thread) (.fetched job.number)
          (seat.work .fetch solo))
      else solo
    | _ => solo

/-- Makes the steps that need no waiting. -/
def proceedAll (seat : Seat σ) (now : Nat) (solo : Solo) : Solo :=
  seat.proceed now (Session.effort solo.errand) solo

/-- Takes the next answer, if one is to come, and goes on as far as it can. -/
def pull (seat : Seat σ) (solo : Solo) : Solo :=
  match solo.agenda.next? with
  | none => solo
  | some ((due, _, step), agenda) => seat.proceedAll due (seat.work step { solo with agenda })

/-- An errand that has begun and goes on as far as it can. -/
def opened (seat : Seat σ) (errand : Errand) : Solo :=
  seat.proceedAll 0 (seat.begin ⟨errand, Clock.Agenda.empty, .none⟩)

/-- An errand that has begun, after so many answers. -/
def alone (seat : Seat σ) (errand : Errand) (answers : Nat) : Solo :=
  seat.pull^[answers] (seat.opened errand)

end Seat

section Steps

variable {seat : Seat σ} {solo : Solo} {step : Step} {next : Errand} {trace : Trace}

/-- A step that can be made takes the errand on, and is traced. -/
theorem Seat.work_of_moves (h : seat.Moves solo.errand step next trace) :
    seat.work step solo = ⟨next, solo.agenda, solo.trace.append trace⟩ := by
  have hstep := Errand.step_eq_some_iff.mpr h
  rw [work, follow, Errand.follow_cons_some hstep]
  simp [Errand.follow]

/-- A settled errand makes no step. -/
theorem Seat.work_of_isSettled (h : solo.errand.isSettled = true) (step : Step) :
    seat.work step solo = solo := by
  rw [work, follow, Errand.follow_of_isSettled h]
  simp

theorem Session.effort_of_isSettled {errand : Errand} (h : errand.isSettled = true) :
    Session.effort errand = 0 := by
  obtain ⟨board, subscriptions, stage⟩ := errand
  cases stage with
  | reported tally => rfl
  | dead => rfl
  | _ => cases h

variable (seat) in
/-- A settled errand takes no notice of what comes in. -/
theorem Seat.pull_of_isSettled (h : solo.errand.isSettled = true) :
    (seat.pull solo).errand = solo.errand ∧ (seat.pull solo).trace = solo.trace ∧
      (seat.pull solo).agenda.entries = solo.agenda.entries.tail := by
  rw [pull, Clock.Agenda.next?]
  cases hentries : solo.agenda.entries with
  | nil => exact ⟨rfl, rfl, hentries⟩
  | cons entry entries =>
    obtain ⟨due, position, step⟩ := entry
    dsimp only
    let rest : Solo := { solo with agenda := ⟨entries⟩ }
    have hrest : rest.errand.isSettled = true := h
    rw [work_of_isSettled hrest, proceedAll, Session.effort_of_isSettled hrest]
    exact ⟨rfl, rfl, rfl⟩

/-- So nothing becomes of a settled errand, however many answers come. -/
theorem Seat.alone_of_isSettled {errand : Errand} {answers : Nat}
    (h : (seat.alone errand answers).errand.isSettled = true) (more : Nat) :
    (seat.alone errand (more + answers)).errand = (seat.alone errand answers).errand ∧
      (seat.alone errand (more + answers)).trace = (seat.alone errand answers).trace := by
  rw [alone] at h
  rw [alone, alone, Function.iterate_add_apply]
  generalize seat.pull^[answers] (seat.opened errand) = solo at h ⊢
  -- every further answer finds it settled as before
  induction more with
  | zero => exact ⟨rfl, rfl⟩
  | succ more ih =>
    rw [Function.iterate_succ_apply']
    obtain ⟨herrand, htrace⟩ := ih
    obtain ⟨hsame, hsame', -⟩ := pull_of_isSettled seat (herrand ▸ h)
    exact ⟨hsame.trans herrand, hsame'.trans htrace⟩

end Steps

/-! ## §2. What is to come. -/

/-- No more answers are awaited than are still to come. -/
theorem Errand.length_awaited_le (site : Site) (position : Nat) (errand : Errand) :
    (errand.awaited position).length ≤ errand.unanswered site := by
  obtain ⟨board, subscriptions, stage⟩ := errand
  cases stage with
  | listing => exact Nat.succ_le_succ (Nat.zero_le _)
  | fetching queued running tally =>
    rw [awaited, List.length_map]
    exact Nat.le_add_left _ _
  | _ => exact Nat.zero_le _

/-- How many answers are still to come; those to a settled errand count until
they have come. -/
def Solo.pending (site : Site) (solo : Solo) : Nat :=
  if solo.errand.isSettled then solo.agenda.entries.length else solo.errand.unanswered site

/-- Of an errand that is not settled, those answers are to come that it has not
had. -/
theorem Solo.pending_of_open {solo : Solo} (h : solo.errand.isSettled = false) (site : Site) :
    solo.pending site = solo.errand.unanswered site := by
  rw [pending, h, if_neg Bool.false_ne_true]

/-- Whether an agenda, with some more, has the answers that its errand waits
for, unless that is settled. -/
structure Solo.Tracks (seat : Seat σ) (more : List (Nat × Step)) (solo : Solo) : Prop where
  sane : solo.errand.Sane
  awaited : solo.errand.isSettled = false →
    (solo.errand.awaited seat.position).Perm (more ++ solo.agenda.entries.map (·.2))

/-- Whether an errand rests, with all that it waits for on its agenda. -/
structure Solo.Waits (seat : Seat σ) (solo : Solo) : Prop where
  tracks : solo.Tracks seat []
  rests : solo.errand.Resting seat.width

namespace Solo

variable {seat : Seat σ} {solo : Solo}

/-- No more is on the agenda than is still to come. -/
theorem Tracks.pending_le (h : solo.Tracks seat []) :
    solo.agenda.entries.length ≤ solo.pending seat.setting.site := by
  rw [pending]
  split
  · exact Nat.le_refl _
  · next hopen =>
    have hlength := (h.awaited (by simpa using hopen)).length_eq
    rw [List.nil_append, List.length_map] at hlength
    rw [← hlength]
    exact Errand.length_awaited_le _ _ _

/-- An errand that waits for nothing more is settled. -/
theorem Waits.isSettled (h : solo.Waits seat) (hnone : solo.agenda.entries = []) :
    solo.errand.isSettled = true := by
  cases hsettled : solo.errand.isSettled with
  | true => rfl
  | false =>
    have hawaited := h.tracks.awaited hsettled
    rw [hnone] at hawaited
    have hwidth : 0 < seat.width := Nat.lt_of_lt_of_le Nat.one_pos (Nat.le_max_left _ _)
    rw [← hsettled]
    exact h.rests.isSettled hwidth h.tracks.sane hawaited.eq_nil

/-- A step that is no answer and starts no fetch. -/
theorem Tracks.silent {step : Step} {next : Errand} {trace : Trace} (h : solo.Tracks seat [])
    (hopen : solo.errand.isSettled = false) (hmoves : seat.Moves solo.errand step next trace)
    (hawaited : next.awaited seat.position = solo.errand.awaited seat.position) :
    (seat.work step solo).Tracks seat [] ∧
      (seat.work step solo).pending seat.setting.site ≤ solo.pending seat.setting.site := by
  have hfew := Nat.le_of_add_right_le hmoves.unanswered_le
  have hlength := h.pending_le
  rw [Seat.work_of_moves hmoves]
  refine ⟨⟨hmoves.sane h.sane, fun _ => ?_⟩, ?_⟩
  · dsimp only
    rw [hawaited]
    exact h.awaited hopen
  · rw [pending_of_open hopen] at hlength ⊢
    rw [pending]
    -- a settled errand waits for nothing more
    split
    · exact hlength
    · exact hfew

/-- An answer that comes is one that the errand waited for. -/
theorem Tracks.taken {step : Step} (h : solo.Tracks seat [(seat.position, step)])
    (hopen : solo.errand.isSettled = false) :
    ∃ next trace, seat.Moves solo.errand step next trace ∧
      seat.work step solo = ⟨next, solo.agenda, solo.trace.append trace⟩ ∧
      (seat.work step solo).Tracks seat [] ∧
      (seat.work step solo).pending seat.setting.site <
        solo.errand.unanswered seat.setting.site := by
  have hall := h.awaited hopen
  obtain ⟨-, hanswer, next, trace, hmoves⟩ := Errand.exists_moves_of_mem_awaited
    seat.setting.site seat.setting.registry seat.state seat.cursor seat.width
    (hall.mem_iff.mpr (List.mem_append_left _ List.mem_cons_self))
  have hwork : seat.work step solo = ⟨next, solo.agenda, solo.trace.append trace⟩ :=
    Seat.work_of_moves hmoves
  refine ⟨next, trace, hmoves, hwork, ?_, ?_⟩
  · rw [hwork]
    refine ⟨hmoves.sane h.sane, fun hlater => ?_⟩
    have hlives : next.stage ≠ .dead := by
      intro hdead
      rw [Errand.isSettled, hdead] at hlater
      cases hlater
    exact ((hmoves.awaited_perm h.sane hlives hanswer seat.position).symm.trans hall).cons_inv
  · rw [hwork, pending]
    split
    · -- what was awaited before is still on the agenda, but for this answer
      have hlength := hall.length_eq
      rw [List.length_append, List.length_singleton, List.length_map] at hlength
      have hle := Errand.length_awaited_le seat.setting.site seat.position solo.errand
      dsimp only
      omega
    · have hfewer := hmoves.unanswered_le
      rw [if_pos hanswer] at hfewer
      exact hfewer

/-- A question is asked, and its answer comes back at once or is noted. -/
theorem Tracks.ask {question : Step} {asked : Errand} {trace : Trace}
    (h : solo.Tracks seat []) (answer : Step) (hopen : solo.errand.isSettled = false)
    (hmoves : seat.Moves solo.errand question asked trace)
    (hwaits : asked.isSettled = false)
    (hawaited : (asked.awaited seat.position).Perm
      (solo.errand.awaited seat.position ++ [(seat.position, answer)])) (now delay : Nat) :
    let later := seat.answerAfter now delay answer (seat.work question solo)
    later.Tracks seat [] ∧ later.pending seat.setting.site ≤ solo.pending seat.setting.site ∧
      (later.errand = asked ∨ ∃ trace, seat.Moves asked answer later.errand trace) := by
  have hfew := Nat.le_of_add_right_le hmoves.unanswered_le
  have hwork : seat.work question solo = ⟨asked, solo.agenda, solo.trace.append trace⟩ :=
    Seat.work_of_moves hmoves
  -- until the answer is taken or noted, the agenda lacks just that one
  have hall : (asked.awaited seat.position).Perm
      ([(seat.position, answer)] ++ solo.agenda.entries.map (·.2)) :=
    hawaited.trans (((h.awaited hopen).append_right _).trans (List.perm_append_singleton _ _))
  have hasked : (seat.work question solo).Tracks seat [(seat.position, answer)] := by
    rw [hwork]
    exact ⟨hmoves.sane h.sane, fun _ => hall⟩
  have hnow : (seat.work question solo).errand = asked := by rw [hwork]
  intro later
  rw [pending_of_open hopen]
  by_cases hdelay : delay = 0
  · have hlater : later = seat.work answer (seat.work question solo) := if_pos hdelay
    obtain ⟨next, more, hback, htaken, htracks, hfewer⟩ := hasked.taken (hnow ▸ hwaits)
    rw [hlater]
    refine ⟨htracks, Nat.le_trans (Nat.le_of_lt hfewer) (hnow ▸ hfew), .inr ⟨more, ?_⟩⟩
    rw [htaken, ← hnow]
    exact hback
  · have hlater : later = { seat.work question solo with
        agenda := solo.agenda.note (now + delay) (seat.position, answer) } := by
      show seat.answerAfter _ _ _ _ = _
      rw [Seat.answerAfter, if_neg hdelay, hwork]
    have hnote := (Clock.Agenda.perm_insertEntry (now + delay, seat.position, answer)
      solo.agenda.entries).map fun entry => entry.2
    rw [hlater, hwork]
    refine ⟨⟨hmoves.sane h.sane, fun _ => hall.trans hnote.symm⟩, ?_, .inl rfl⟩
    exact (pending_of_open hwaits _).trans_le hfew

/-- A lookup is done at once. -/
theorem Tracks.lookup {found : List Match} {first : Nat} {missing : List Nat} {users : Subscribers}
    (h : solo.Tracks seat [])
    (hstage : solo.errand.stage = .looking found (first :: missing) users) :
    let later := seat.work (.lookup first) solo
    later.Tracks seat [] ∧ later.pending seat.setting.site ≤ solo.pending seat.setting.site ∧
      later.errand.stage ≠ .waiting ∧
      Session.effort later.errand ≤ missing.length + found.length := by
  obtain ⟨⟨board, subscriptions, stage⟩, agenda, trace⟩ := solo
  dsimp only at hstage
  subst hstage
  obtain ⟨-, hbound⟩ := h.sane
  -- what is missing is a position of a subscription, so the lookup can be made
  obtain ⟨s, hs⟩ : ∃ s, subscriptions[first]? = some s :=
    ⟨_, List.getElem?_eq_getElem (hbound first List.mem_cons_self)⟩
  have hmoves : seat.Moves ⟨board, subscriptions, .looking found (first :: missing) users⟩
      (.lookup first) _ _ := .lookup board hs List.mem_cons_self
  obtain ⟨htracks, hpending⟩ := h.silent rfl hmoves (Errand.awaited_lookingOrFetching _ _ _ _ _ _ _)
  refine ⟨htracks, hpending, ?_⟩
  rw [Seat.work_of_moves hmoves]
  refine ⟨Session.stage_ne_waiting hmoves, ?_⟩
  have heffort := Session.effort_lookingOrFetching_le board seat.cursor subscriptions found
    ((first :: missing).erase first)
    (users ++ [(first, seat.setting.registry.known seat.state s.id)])
  rwa [List.erase_cons_head] at heffort ⊢

/-- A fetch may take its time. -/
theorem Tracks.fetch {job : Job} {queued running : List Job} {tally : Tally}
    (h : solo.Tracks seat []) (hstage : solo.errand.stage = .fetching (job :: queued) running tally)
    (hwidth : running.length < seat.width) (now delay : Nat) :
    let later := seat.answerAfter now delay (.fetched job.number) (seat.work .fetch solo)
    later.Tracks seat [] ∧ later.pending seat.setting.site ≤ solo.pending seat.setting.site ∧
      later.errand.stage ≠ .waiting ∧ Session.effort later.errand ≤ queued.length := by
  obtain ⟨⟨board, subscriptions, stage⟩, agenda, trace⟩ := solo
  dsimp only at hstage
  subst hstage
  have hmoves : seat.Moves ⟨board, subscriptions, .fetching (job :: queued) running tally⟩ .fetch
      _ _ := .fetch board subscriptions job queued tally hwidth
  obtain ⟨htracks, hpending, hafter⟩ :=
    h.ask (.fetched job.number) rfl hmoves rfl (.of_eq List.map_append) now delay
  refine ⟨htracks, hpending, ?_⟩
  -- the answer is still to come, or it came at once
  rcases hafter with hasked | ⟨more, hanswered⟩
  · rw [hasked]
    exact ⟨Stage.noConfusion, Nat.le_refl _⟩
  · exact ⟨Session.stage_ne_waiting hanswered, Session.effort_le_of_fetched hanswered⟩

/-- Whatever needs no waiting is done, and then the errand rests. -/
theorem Tracks.proceed (h : solo.Tracks seat []) (hbegun : solo.errand.stage ≠ .waiting)
    (now : Nat) {count : Nat} (hcount : Session.effort solo.errand ≤ count) :
    (seat.proceed now count solo).Waits seat ∧
      (seat.proceed now count solo).pending seat.setting.site ≤
        solo.pending seat.setting.site := by
  -- on the steps left; without any, the bound says that nothing is to do
  induction count generalizing solo with
  | zero =>
    refine ⟨⟨h, ?_⟩, Nat.le_refl _⟩
    have hsane := h.sane
    obtain ⟨⟨board, subscriptions, stage⟩, agenda, trace⟩ := solo
    cases stage with
    | waiting => exact hbegun rfl
    | looking found missing users =>
      have hmissing : missing.length + found.length ≤ 0 := hcount
      exact hsane.1 (List.eq_nil_of_length_eq_zero (by omega))
    | fetching queued running tally =>
      exact .inl (List.eq_nil_of_length_eq_zero (Nat.le_zero.mp hcount))
    | _ => trivial
  | succ count ih =>
    rw [Seat.proceed]
    split
    · next found next missing users hstage =>
      obtain ⟨htracks, hpending, hwaiting, heffort⟩ := h.lookup hstage
      rw [Session.effort, hstage] at hcount
      dsimp only at hcount
      rw [List.length_cons] at hcount
      obtain ⟨hwaits, hle⟩ := ih htracks hwaiting (by omega)
      exact ⟨hwaits, Nat.le_trans hle hpending⟩
    · next job queued running tally hstage =>
      split
      · next hwidth =>
        obtain ⟨htracks, hpending, hwaiting, heffort⟩ := h.fetch hstage hwidth now
          (seat.setting.pace.posts solo.errand.board job.thread)
        rw [Session.effort, hstage] at hcount
        dsimp only at hcount
        rw [List.length_cons] at hcount
        obtain ⟨hwaits, hle⟩ := ih htracks hwaiting (by omega)
        exact ⟨hwaits, Nat.le_trans hle hpending⟩
      · next hfull =>
        refine ⟨⟨h, ?_⟩, Nat.le_refl _⟩
        rw [Errand.Resting, hstage]
        exact .inr (Nat.le_of_not_lt hfull)
    · -- an errand that rests already is left as it is
      next hlooking hfetching =>
      refine ⟨⟨h, ?_⟩, Nat.le_refl _⟩
      have hsane := h.sane
      obtain ⟨⟨board, subscriptions, stage⟩, agenda, trace⟩ := solo
      cases stage with
      | waiting => exact hbegun rfl
      | looking found missing users =>
        cases missing with
        | nil => exact absurd rfl hsane.1
        | cons first missing => exact absurd rfl (hlooking found first missing users)
      | fetching queued running tally =>
        cases queued with
        | nil => exact .inl rfl
        | cons job queued => exact absurd rfl (hfetching job queued running tally)
      | _ => trivial

/-- An errand is begun and goes on until it rests. -/
theorem waits_opened (seat : Seat σ) {errand : Errand} (hwaiting : errand.stage = .waiting) :
    (seat.opened errand).Waits seat ∧
      (seat.opened errand).pending seat.setting.site ≤ errand.unanswered seat.setting.site := by
  obtain ⟨board, subscriptions, stage⟩ := errand
  obtain rfl : stage = .waiting := hwaiting
  -- an errand that waits to begin has nothing on its agenda
  have htracks : Solo.Tracks seat []
      ⟨⟨board, subscriptions, .waiting⟩, Clock.Agenda.empty, .none⟩ :=
    ⟨trivial, fun _ => .refl _⟩
  have hmoves : seat.Moves ⟨board, subscriptions, .waiting⟩ .list _ _ := .list board subscriptions
  have hawaited : (Errand.awaited seat.position ⟨board, subscriptions, .listing⟩).Perm
      (Errand.awaited seat.position ⟨board, subscriptions, .waiting⟩ ++
        [(seat.position, .listed)]) :=
    .refl _
  obtain ⟨hbegun, hpending, hafter⟩ :=
    htracks.ask .listed rfl hmoves rfl hawaited 0 (seat.setting.pace.listing board)
  have hstage : (seat.begin ⟨⟨board, subscriptions, .waiting⟩, Clock.Agenda.empty,
      .none⟩).errand.stage ≠ .waiting := by
    rcases hafter with hasked | ⟨more, hanswered⟩
    · rw [Seat.begin, hasked]
      exact Stage.noConfusion
    · exact Session.stage_ne_waiting hanswered
  obtain ⟨hwaits, hle⟩ := hbegun.proceed hstage 0 (Nat.le_refl _)
  exact ⟨hwaits, Nat.le_trans hle hpending⟩

/-- The next answer comes, and the errand goes on until it rests again. -/
theorem Waits.pull (h : solo.Waits seat) {entry : Nat × (Nat × Step)}
    {entries : List (Nat × (Nat × Step))} (hentries : solo.agenda.entries = entry :: entries) :
    (seat.pull solo).Waits seat ∧
      (seat.pull solo).pending seat.setting.site < solo.pending seat.setting.site := by
  -- A settled errand has one answer fewer on its agenda; any other takes the answer that it waited
  -- for, and goes on.
  cases hsettled : solo.errand.isSettled with
  | true =>
    obtain ⟨herrand, -, hrest⟩ := Seat.pull_of_isSettled seat hsettled
    refine ⟨⟨⟨herrand ▸ h.tracks.sane, fun hopen => ?_⟩, herrand ▸ h.rests⟩, ?_⟩
    · rw [herrand, hsettled] at hopen
      cases hopen
    · rw [pending, pending, herrand, hsettled, if_pos rfl, if_pos rfl, hrest, hentries]
      exact Nat.lt_succ_self _
  | false =>
    obtain ⟨due, position, step⟩ := entry
    have hall := h.tracks.awaited hsettled
    rw [hentries] at hall
    obtain ⟨rfl, -⟩ := Errand.exists_moves_of_mem_awaited seat.setting.site
      seat.setting.registry seat.state seat.cursor seat.width (hall.mem_iff.mpr List.mem_cons_self)
    have hbefore : Solo.Tracks seat [(seat.position, step)] { solo with agenda := ⟨entries⟩ } :=
      ⟨h.tracks.sane, fun _ => hall⟩
    obtain ⟨next, trace, hmoves, hwork, htracks, hfewer⟩ := hbefore.taken hsettled
    have hstage : (seat.work step { solo with agenda := ⟨entries⟩ }).errand.stage ≠ .waiting := by
      rw [hwork]
      exact Session.stage_ne_waiting hmoves
    obtain ⟨hwaits, hle⟩ := htracks.proceed hstage due (Nat.le_refl _)
    rw [Seat.pull, Clock.Agenda.next?, hentries, pending_of_open hsettled]
    exact ⟨hwaits, Nat.lt_of_le_of_lt hle hfewer⟩

end Solo

/-! ## §3. Settings that agree on a board. -/

/-- Two settings that do the same for one board, at the same pace. -/
structure Setting.AgreesOn (board : String) (setting other : Setting σ) : Prop where
  site : setting.site.AgreesOn board other.site
  listing : other.pace.listing board = setting.pace.listing board
  posts (thread : String) : other.pace.posts board thread = setting.pace.posts board thread
  registry : other.registry = setting.registry
  limits : other.limits = setting.limits

namespace Seat

variable {seat : Seat σ} {other : Setting σ}

theorem board_work (seat : Seat σ) (step : Step) (solo : Solo) :
    (seat.work step solo).errand.board = solo.errand.board :=
  Errand.board_follow [step] solo.errand

theorem board_answerAfter (seat : Seat σ) (now delay : Nat) (step : Step) (solo : Solo) :
    (seat.answerAfter now delay step solo).errand.board = solo.errand.board := by
  rw [answerAfter]
  split
  · exact seat.board_work step solo
  · rfl

/-- However far it goes on, an errand stays with its board. -/
theorem board_proceed (seat : Seat σ) (now count : Nat) (solo : Solo) :
    (seat.proceed now count solo).errand.board = solo.errand.board := by
  induction count generalizing solo with
  | zero => rfl
  | succ count ih =>
    rw [proceed]
    split
    · rw [ih, board_work]
    · split
      · rw [ih, board_answerAfter, board_work]
      · rfl
    · rfl

theorem board_pull (seat : Seat σ) (solo : Solo) :
    (seat.pull solo).errand.board = solo.errand.board := by
  rw [pull]
  split
  · rfl
  · exact (seat.board_proceed _ _ _).trans (seat.board_work _ _)

theorem board_alone (seat : Seat σ) (errand : Errand) (answers : Nat) :
    (seat.alone errand answers).errand.board = errand.board := by
  induction answers with
  | zero =>
    exact (seat.board_proceed _ _ _).trans
      ((seat.board_answerAfter _ _ _ _).trans (seat.board_work _ _))
  | succ answers ih =>
    rw [alone, Function.iterate_succ_apply', board_pull]
    exact ih

theorem work_congr (solo : Solo) (h : seat.setting.AgreesOn solo.errand.board other)
    (step : Step) : { seat with setting := other }.work step solo = seat.work step solo := by
  have hfollow : { seat with setting := other }.follow [step] solo.errand =
      seat.follow [step] solo.errand := by
    rw [follow, follow, width, width, h.registry, h.limits]
    exact Errand.follow_congr h.site [step]
  rw [work, work, hfollow]

theorem answerAfter_congr {solo : Solo} (h : seat.setting.AgreesOn solo.errand.board other)
    (now delay : Nat) (step : Step) :
    { seat with setting := other }.answerAfter now delay step solo =
      seat.answerAfter now delay step solo := by
  rw [answerAfter, answerAfter, work_congr _ h]

theorem proceed_congr {solo : Solo} (h : seat.setting.AgreesOn solo.errand.board other)
    (now count : Nat) :
    { seat with setting := other }.proceed now count solo = seat.proceed now count solo := by
  -- the board is the same after every step, and so is what the settings do for it
  induction count generalizing solo with
  | zero => rfl
  | succ count ih =>
    have hwidth : { seat with setting := other }.width = seat.width := by
      rw [width, width, h.limits]
    have hworked : ∀ step, seat.setting.AgreesOn (seat.work step solo).errand.board other :=
      fun step => by rwa [board_work]
    rw [proceed, proceed]
    split
    · rw [work_congr _ h, ih (hworked _)]
    · rw [hwidth]
      split
      · have hasked : ∀ delay step, seat.setting.AgreesOn
            (seat.answerAfter now delay step (seat.work .fetch solo)).errand.board other :=
          fun delay step => by rw [board_answerAfter]; exact hworked .fetch
        dsimp only
        rw [h.posts, work_congr _ h, answerAfter_congr (hworked .fetch), ih (hasked _ _)]
      · rfl
    · rfl

theorem pull_congr {solo : Solo} (h : seat.setting.AgreesOn solo.errand.board other) :
    { seat with setting := other }.pull solo = seat.pull solo := by
  rw [pull, pull]
  split
  · rfl
  · next due position step agenda hnext =>
    have hworked :
        seat.setting.AgreesOn (seat.work step { solo with agenda }).errand.board other := by
      rwa [board_work]
    rw [work_congr { solo with agenda } h, proceedAll, proceedAll,
      proceed_congr hworked]

variable (seat) in
/-- An errand alone does the same in settings that agree on its board. -/
theorem alone_congr {errand : Errand} (h : seat.setting.AgreesOn errand.board other)
    (answers : Nat) :
    { seat with setting := other }.alone errand answers = seat.alone errand answers := by
  -- the beginning and each answer are looked at on the errand's own board only
  induction answers with
  | zero =>
    have hworked : seat.setting.AgreesOn
        (seat.work .list ⟨errand, Clock.Agenda.empty, .none⟩).errand.board other := by
      rwa [board_work]
    have hbegun : seat.setting.AgreesOn
        (seat.begin ⟨errand, Clock.Agenda.empty, .none⟩).errand.board other := by
      rw [begin, board_answerAfter]
      exact hworked
    have hbegin : { seat with setting := other }.begin ⟨errand, Clock.Agenda.empty, .none⟩ =
        seat.begin ⟨errand, Clock.Agenda.empty, .none⟩ := by
      rw [begin, begin, work_congr ⟨errand, Clock.Agenda.empty, .none⟩ h]
      dsimp only
      rw [h.listing, answerAfter_congr hworked]
    show proceedAll _ 0 (begin _ _) = proceedAll _ 0 (begin _ _)
    rw [hbegin, proceedAll, proceedAll, proceed_congr hbegun]
  | succ answers ih =>
    rw [alone, alone, Function.iterate_succ_apply', Function.iterate_succ_apply']
    have hboard : seat.setting.AgreesOn (seat.alone errand answers).errand.board other := by
      rwa [board_alone]
    exact (congrArg _ ih).trans (pull_congr hboard)

end Seat

end BoardRelay.Crawl
