/-
  BoardRelay.Crawl.Timed
  ────────────────────────────────
  Cycles on a clock.  Answers take as long as the pace says; everything else
  takes no time.  A cycle whose errands are not settled when its deadline
  comes is given up, and an answer due at the deadline comes too late.
-/
import BoardRelay.Clock.Agenda
import BoardRelay.Crawl.Gate

namespace BoardRelay.Crawl

/-- How long a site takes to answer, in milliseconds. -/
structure Pace where
  listing : String → Nat
  posts : String → String → Nat

/-- The pace of a site that answers at once. -/
def Pace.instant : Pace :=
  ⟨fun _ => 0, fun _ _ => 0⟩

/-- All that a cycle runs with. -/
structure Setting (σ : Type) where
  site : Site
  pace : Pace
  registry : Registry σ
  limits : Limits

/-- A gate with the answers that the attempt past it waits for, each with
the position of its errand. -/
structure Session (σ : Type) where
  gate : Gate σ
  agenda : Clock.Agenda (Nat × Step)

namespace Session

variable {σ : Type}

/-! ## §1. Errands -/

/-- The errand at a position of the attempt of a number. -/
def errand? (number position : Nat) (session : Session σ) : Option Errand :=
  match session.gate.phase number with
  | .inside cycle => cycle.errands[position]?
  | _ => none

/-- Makes a step of an errand. -/
def work (setting : Setting σ) (number position : Nat) (step : Step) (session : Session σ) :
    Session σ :=
  { session with gate := session.gate.work setting.site setting.registry number position step }

/-- Makes a step of an errand that an answer brings, after a delay. -/
def answerAfter (setting : Setting σ) (now delay number position : Nat) (step : Step)
    (session : Session σ) : Session σ :=
  if delay = 0 then session.work setting number position step
  else { session with agenda := session.agenda.note (now + delay) (position, step) }

/-- Begins an errand. -/
def begin (setting : Setting σ) (number position : Nat) (session : Session σ) : Session σ :=
  match session.errand? number position with
  | none => session
  | some errand =>
    (session.work setting number position .list).answerAfter setting 0
      (setting.pace.listing errand.board) number position .listed

/-- How many steps an errand can make at most before it waits. -/
def effort (errand : Errand) : Nat :=
  match errand.stage with
  | .looking found missing _ => missing.length + found.length
  | .fetching queued _ _ => queued.length
  | _ => 0

/-- Makes up to so many steps of an errand, as long as it need not wait. -/
def proceed (setting : Setting σ) (now number position : Nat) : Nat → Session σ → Session σ
  | 0, session => session
  | count + 1, session =>
    match session.errand? number position with
    | none => session
    | some errand =>
      match errand.stage with
      | .looking _ (next :: _) _ =>
        proceed setting now number position count
          (session.work setting number position (.lookup next))
      | .fetching (job :: _) running _ =>
        if running.length < max 1 setting.limits.maxConcurrent then
          proceed setting now number position count
            ((session.work setting number position .fetch).answerAfter setting now
              (setting.pace.posts errand.board job.thread) number position (.fetched job.number))
        else session
      | _ => session

/-- Makes the steps of an errand that need no waiting. -/
def proceedAll (setting : Setting σ) (now number position : Nat) (session : Session σ) :
    Session σ :=
  match session.errand? number position with
  | none => session
  | some errand => session.proceed setting now number position (effort errand)

/-! ## §2. Cycles -/

/-- How many answers an errand can wait for at most. -/
def answers (site : Site) (errand : Errand) : Nat :=
  match site.listing errand.board with
  | .answer listing => 1 + listing.threads.length
  | _ => 1

/-- Runs the attempt of a number to its end, with a bound on the answers.
Gives the instant of its end. -/
def run (setting : Setting σ) (number : Nat) : Nat → Nat → Session σ → Nat × Session σ
  | 0, now, session => (now, session)
  | count + 1, now, session =>
    match session.gate.phase number with
    | .inside cycle =>
      if cycle.isSettled then
        (now, { session with gate := session.gate.finish setting.registry number })
      else
        match session.agenda.next? with
        | none => (now, session)
        | some ((due, position, step), agenda) =>
          if setting.limits.deadline ≤ due then
            (setting.limits.deadline,
              { session with gate := session.gate.expire setting.limits number })
          else
            run setting number count due
              (({ session with agenda }.work setting number position step).proceedAll setting due
                number position)
    | _ => (now, session)

/-- Runs an attempt that is past the gate from its beginning to its end. -/
def runAll (setting : Setting σ) (number : Nat) (session : Session σ) : Nat × Session σ :=
  match session.gate.phase number with
  | .inside cycle =>
    let begun := (List.range cycle.errands.length).foldl
      (fun session position =>
        (session.begin setting number position).proceedAll setting 0 number position) session
    let bound := cycle.errands.foldl (fun sum errand => sum + answers setting.site errand) 1
    run setting number bound 0 begun
  | _ => (0, session)

/-- An attempt comes to the gate.  It is over at once if it is turned away,
if no board is subscribed to, or if there is no time at all. -/
def enter (setting : Setting σ) (session : Session σ) (number : Nat) : Session σ :=
  let entered := session.gate.enter setting.registry setting.limits number
  let ended := match entered.phase number with
    | .inside cycle =>
      if cycle.isSettled then entered.finish setting.registry number
      else if setting.limits.deadline = 0 then entered.expire setting.limits number
      else entered
    | _ => entered
  { session with gate := ended }

end Session

/-- Whether the attempt of a number is past the gate. -/
def Gate.isInside {σ : Type} (gate : Gate σ) (number : Nat) : Bool :=
  match gate.phase number with
  | .inside _ => true
  | _ => false

/-- So many attempts at one instant: how long until all are over, and the
gate then. -/
def play {σ : Type} (setting : Setting σ) (attempts : Nat) (state : σ) : Nat × Gate σ :=
  let session : Session σ := ⟨Gate.free attempts state, Clock.Agenda.empty⟩
  let entered := (List.range attempts).foldl (Session.enter setting) session
  match (List.range attempts).find? entered.gate.isInside with
  | none => (0, entered.gate)
  | some number =>
    let (elapsed, session) := entered.runAll setting number
    (elapsed, session.gate)

end BoardRelay.Crawl
