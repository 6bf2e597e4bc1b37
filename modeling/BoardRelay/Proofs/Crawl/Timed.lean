/-
  BoardRelay.Proofs.Crawl.Timed
  ────────────────────────────────
  What an errand waits for.  Between two answers it rests: it is settled,
  waits for its listing, or has as many threads in the air as it may.  Each
  answer leaves fewer to come (`Errand.Moves.unanswered_le`), and an errand
  that waits for none is settled (`Errand.Resting.isSettled`).
-/
import BoardRelay.Crawl.Timed
import BoardRelay.Proofs.Clock.Agenda
import BoardRelay.Proofs.Crawl.Cycle

namespace BoardRelay.Crawl

variable {σ : Type}

/-! ## §1. Answers of an errand. -/

/-- Whether a step is an answer coming back. -/
def Step.isAnswer : Step → Bool
  | .listed => true
  | .fetched _ => true
  | _ => false

namespace Errand

/-- The answers that an errand waits for, with its position. -/
def awaited (position : Nat) (errand : Errand) : List (Nat × Step) :=
  match errand.stage with
  | .listing => [(position, .listed)]
  | .fetching _ running _ => running.map fun job => (position, .fetched job.number)
  | _ => []

/-- How many answers may still come for an errand. -/
def unanswered (site : Site) (errand : Errand) : Nat :=
  match errand.stage with
  | .waiting => threadCount site errand.board + 1
  | .listing => threadCount site errand.board + 1
  | .looking found _ _ => found.length
  | .fetching queued running _ => queued.length + running.length
  | _ => 0

/-- An errand that can only wait. -/
def Resting (width : Nat) (errand : Errand) : Prop :=
  match errand.stage with
  | .waiting => False
  | .looking _ _ _ => False
  | .fetching queued running _ => queued = [] ∨ width ≤ running.length
  | _ => True

theorem awaited_fetchingOrDone (position : Nat) (board : String)
    (subscriptions : List Subscription) (queued running : List Job) (tally : Tally) :
    awaited position ⟨board, subscriptions, fetchingOrDone queued running tally⟩ =
      running.map fun job => (position, .fetched job.number) := by
  rw [fetchingOrDone]
  split
  · next hempty =>
    obtain ⟨-, hrunning⟩ := Bool.and_eq_true_iff.mp hempty
    rw [List.isEmpty_iff.mp hrunning]
    rfl
  · rfl

theorem awaited_lookingOrFetching (position : Nat) (board : String) (cursor : UInt64)
    (subscriptions : List Subscription) (found : List Match) (missing : List Nat)
    (users : Subscribers) :
    awaited position
      ⟨board, subscriptions, lookingOrFetching cursor subscriptions found missing users⟩ = [] := by
  cases missing with
  | nil => rw [lookingOrFetching_nil, awaited_fetchingOrDone]; rfl
  | cons first missing => rfl

theorem unanswered_fetchingOrDone_le (site : Site) (board : String)
    (subscriptions : List Subscription) (queued running : List Job) (tally : Tally) :
    unanswered site ⟨board, subscriptions, fetchingOrDone queued running tally⟩ ≤
      queued.length + running.length := by
  rw [fetchingOrDone]
  split
  · exact Nat.zero_le _
  · exact Nat.le_refl _

theorem unanswered_lookingOrFetching_le (site : Site) (board : String) (cursor : UInt64)
    (subscriptions : List Subscription) (found : List Match) (missing : List Nat)
    (users : Subscribers) :
    unanswered site
        ⟨board, subscriptions, lookingOrFetching cursor subscriptions found missing users⟩ ≤
      found.length := by
  cases missing with
  | nil =>
    rw [lookingOrFetching_nil]
    exact Nat.le_trans (unanswered_fetchingOrDone_le _ _ _ _ _ _) (length_jobs_le _ _ _)
  | cons first missing => exact Nat.le_refl _

/-- An answer is one that the errand waited for; the others are still
awaited. -/
theorem Moves.awaited_perm {site : Site} {registry : Registry σ} {state : σ} {cursor : UInt64}
    {width : Nat} {errand next : Errand} {step : Step} {trace : Trace}
    (h : errand.Moves site registry state cursor width step next trace) (hsane : errand.Sane)
    (hlives : next.stage ≠ .dead) (hanswer : step.isAnswer = true) (position : Nat) :
    (errand.awaited position).Perm ((position, step) :: next.awaited position) := by
  cases h with
  | list => cases hanswer
  | lookup => cases hanswer
  | fetch => cases hanswer
  | listed board subscriptions =>
    cases hlisting : site.listing board with
    | answer listing =>
      rw [takeListing]
      dsimp only
      rw [awaited_lookingOrFetching]
      exact .refl _
    | failure => exact .refl _
    | collapse =>
      rw [hlisting] at hlives
      exact absurd rfl hlives
  | @fetched board subscriptions queued running tally number job hjob =>
    obtain ⟨-, hnodup⟩ := hsane
    have hrunning := perm_running hjob (nodup_running hnodup)
    have hnumber : job.number = number := by simpa using List.find?_some hjob
    -- the fetch that was answered is awaited no longer, and the others as before
    have hothers := hrunning.map fun job => (position, Step.fetched job.number)
    rw [List.map_cons, hnumber] at hothers
    cases hposts : site.posts board job.thread with
    | answer posts =>
      refine hothers.trans (.of_eq (congrArg _ ?_))
      exact (awaited_fetchingOrDone _ _ _ _ _ _).symm
    | failure =>
      refine hothers.trans (.of_eq (congrArg _ ?_))
      exact (awaited_fetchingOrDone _ _ _ _ _ _).symm
    | collapse =>
      rw [hposts] at hlives
      exact absurd rfl hlives

/-- An answer leaves fewer to come, and no other step makes more of them. -/
theorem Moves.unanswered_le {site : Site} {registry : Registry σ} {state : σ} {cursor : UInt64}
    {width : Nat} {errand next : Errand} {step : Step} {trace : Trace}
    (h : errand.Moves site registry state cursor width step next trace) :
    next.unanswered site + (if step.isAnswer then 1 else 0) ≤ errand.unanswered site := by
  cases h with
  | list => exact Nat.le_refl _
  | listed board subscriptions =>
    show unanswered site _ + 1 ≤ threadCount site board + 1
    refine Nat.succ_le_succ ?_
    cases hlisting : site.listing board with
    | answer listing =>
      have hcount : threadCount site board = listing.threads.length := by
        rw [threadCount, hlisting]
      rw [hcount]
      exact Nat.le_trans (unanswered_lookingOrFetching_le _ _ _ _ _ _ _) (length_matched_le _ _)
    | failure => exact Nat.zero_le _
    | collapse => exact Nat.zero_le _
  | lookup => exact unanswered_lookingOrFetching_le _ _ _ _ _ _ _
  | fetch board subscriptions job queued tally hwidth =>
    simp only [unanswered, List.length_cons, List.length_append, List.length_nil, Step.isAnswer]
    simp only [Bool.false_eq_true, if_false]
    omega
  | @fetched board subscriptions queued running tally number job hjob =>
    have hothers := length_others_lt hjob
    -- what is left is asked at most once, the answered fetch not again
    have hle : unanswered site ⟨board, subscriptions, (takePosts site cursor job
        (site.posts board job.thread) queued
        (running.filter fun other => other.number != number) tally).1⟩ ≤
        queued.length + (running.filter fun other => other.number != number).length := by
      cases site.posts board job.thread with
      | answer posts => exact unanswered_fetchingOrDone_le _ _ _ _ _ _
      | failure => exact unanswered_fetchingOrDone_le _ _ _ _ _ _
      | collapse => exact Nat.zero_le _
    show unanswered site _ + 1 ≤ queued.length + running.length
    omega

/-- What an errand waits for can come. -/
theorem exists_moves_of_mem_awaited (site : Site) (registry : Registry σ) (state : σ)
    (cursor : UInt64) (width : Nat) {errand : Errand} {position other : Nat} {step : Step}
    (h : (other, step) ∈ errand.awaited position) :
    other = position ∧ step.isAnswer = true ∧
      ∃ next trace, errand.Moves site registry state cursor width step next trace := by
  obtain ⟨board, subscriptions, stage⟩ := errand
  cases stage with
  | listing =>
    obtain ⟨rfl, rfl⟩ := Prod.mk.inj (List.mem_singleton.mp h)
    exact ⟨rfl, rfl, _, _, .listed board subscriptions⟩
  | fetching queued running tally =>
    obtain ⟨job, hmem, heq⟩ := List.mem_map.mp h
    obtain ⟨rfl, rfl⟩ := Prod.mk.inj heq
    obtain ⟨found, hfound⟩ : ∃ found, running.find? (fun other => other.number = job.number) =
        some found :=
      Option.isSome_iff_exists.mp (List.find?_isSome.mpr ⟨job, hmem, decide_eq_true rfl⟩)
    exact ⟨rfl, rfl, _, _, .fetched board subscriptions queued tally hfound⟩
  | waiting => cases h
  | looking found missing users => cases h
  | reported tally => cases h
  | dead => cases h

/-- An errand that rests and waits for nothing is settled. -/
theorem Resting.isSettled {width : Nat} {errand : Errand} (hrests : errand.Resting width)
    (hwidth : 0 < width) (hsane : errand.Sane) {position : Nat}
    (hnone : errand.awaited position = []) : errand.isSettled = true := by
  obtain ⟨board, subscriptions, stage⟩ := errand
  cases stage with
  | reported tally => rfl
  | dead => rfl
  | waiting => exact hrests.elim
  | looking found missing users => exact hrests.elim
  | listing => cases hnone
  | fetching queued running tally =>
    obtain ⟨hsome, -⟩ := hsane
    -- Nothing is in the air, so the queue is not empty and need not wait.
    have hrunning : running = [] := List.map_eq_nil_iff.mp hnone
    subst hrunning
    rcases hrests with rfl | hwide
    · exact absurd rfl hsome
    · exact absurd hwide (Nat.not_le.mpr hwidth)

end Errand

/-! ## §2. Until an errand rests. -/

namespace Session

/-- What is left to do after the listing is at most one lookup for each miss
and one fetch for each match. -/
theorem effort_lookingOrFetching_le (board : String) (cursor : UInt64)
    (subscriptions : List Subscription) (found : List Match) (missing : List Nat)
    (users : Subscribers) :
    effort ⟨board, subscriptions,
      Errand.lookingOrFetching cursor subscriptions found missing users⟩ ≤
      missing.length + found.length := by
  cases missing with
  | nil =>
    rw [Errand.lookingOrFetching_nil, Errand.fetchingOrDone]
    split
    · exact Nat.zero_le _
    · rw [List.length_nil, Nat.zero_add]
      exact length_jobs_le subscriptions users found
  | cons position missing => exact Nat.le_refl _

/-- An answered fetch leaves no more to do than before. -/
theorem effort_le_of_fetched {site : Site} {registry : Registry σ} {state : σ} {cursor : UInt64}
    {width job : Nat} {errand next : Errand} {trace : Trace}
    (h : errand.Moves site registry state cursor width (.fetched job) next trace) :
    effort next ≤ effort errand := by
  -- the errand goes on with what is queued, or is over
  have hdone : ∀ (board : String) subscriptions queued running tally,
      effort ⟨board, subscriptions, Errand.fetchingOrDone queued running tally⟩ ≤
        queued.length := by
    intro board subscriptions queued running tally
    rw [Errand.fetchingOrDone]
    split
    · exact Nat.zero_le _
    · exact Nat.le_refl _
  cases h with
  | @fetched board subscriptions queued running tally number job hjob =>
    show effort ⟨_, _, _⟩ ≤ queued.length
    cases site.posts board job.thread with
    | answer posts => exact hdone _ _ _ _ _
    | failure => exact hdone _ _ _ _ _
    | collapse => exact Nat.zero_le _

/-- No step leads back to the beginning. -/
theorem stage_ne_waiting {site : Site} {registry : Registry σ} {state : σ} {cursor : UInt64}
    {width : Nat} {errand next : Errand} {step : Step} {trace : Trace}
    (h : errand.Moves site registry state cursor width step next trace) :
    next.stage ≠ .waiting := by
  -- no stage that a step leads to is the first one
  have hdone : ∀ queued running tally,
      Errand.fetchingOrDone queued running tally ≠ .waiting := by
    intro queued running tally
    rw [Errand.fetchingOrDone]
    split <;> exact Stage.noConfusion
  have hlooking : ∀ subscriptions found missing users,
      Errand.lookingOrFetching cursor subscriptions found missing users ≠ .waiting := by
    intro subscriptions found missing users
    cases missing with
    | nil =>
      rw [Errand.lookingOrFetching_nil]
      exact hdone _ _ _
    | cons position missing => exact Stage.noConfusion
  cases h with
  | list => exact Stage.noConfusion
  | listed board subscriptions =>
    dsimp only [Errand.takeListing]
    cases site.listing board with
    | answer listing => exact hlooking _ _ _ _
    | failure => exact Stage.noConfusion
    | collapse => exact Stage.noConfusion
  | lookup => exact hlooking _ _ _ _
  | fetch => exact Stage.noConfusion
  | @fetched board subscriptions queued running tally number job hjob =>
    dsimp only [Errand.takePosts]
    cases site.posts board job.thread with
    | answer posts => exact hdone _ _ _
    | failure => exact hdone _ _ _
    | collapse => exact Stage.noConfusion

/-- The bound on the answers of a cycle is enough. -/
theorem foldl_answers (site : Site) {errands : List Errand}
    (hwaiting : ∀ errand ∈ errands, errand.stage = .waiting) (start : Nat) :
    errands.foldl (fun sum errand => sum + answers site errand) start =
      start + (errands.map (·.unanswered site)).sum := by
  induction errands generalizing start with
  | nil => rfl
  | cons errand errands ih =>
    -- an errand that waits counts its listing and one answer for each listed thread
    have hanswers : answers site errand = errand.unanswered site := by
      rw [answers, Errand.unanswered, hwaiting errand List.mem_cons_self, threadCount]
      cases site.listing errand.board with
      | answer listing => exact Nat.add_comm _ _
      | failure => rfl
      | collapse => rfl
    rw [List.foldl_cons, ih (fun other hother => hwaiting other (List.mem_cons_of_mem _ hother)),
      List.map_cons, List.sum_cons, hanswers, Nat.add_assoc]

end Session

end BoardRelay.Crawl
