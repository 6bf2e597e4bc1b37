/-
  BoardRelay.Crawl.Passage
  ────────────────────────────────
  A gate whose attempts wait for every question they ask, so that others may
  take their turns in between.  An attempt goes

      outside ──knock──▶ admitted ──cursor──▶ counted ──subscriptions──▶
        crawling ──conclude──▶ overtaken ──cursor──▶ returned

  and leaves early by a failing question, at the deadline, or when the cursor
  has moved.  It holds the gate from its admission until it returns; what it
  has sent by then is on its way by itself.
-/
import BoardRelay.Crawl.Timed

namespace BoardRelay.Crawl

/-! ## §1. Attempts, question by question -/

/-- How far an attempt at a cycle is, question by question. -/
inductive Passage where
  | outside
  /-- Past the gate, about to read the cursor. -/
  | admitted
  /-- About to read the subscriptions. -/
  | counted (cursor : UInt64)
  | crawling (cycle : Cycle)
  /-- Someone else has moved the cursor, which is about to be read again. -/
  | overtaken (cycle : Cycle)
  | returned (result : Except Error Report) (trace : Trace)
  deriving DecidableEq

/-- Whether an attempt is past the gate and has not returned. -/
def Passage.isPast : Passage → Bool
  | .outside => false
  | .admitted => true
  | .counted _ => true
  | .crawling _ => true
  | .overtaken _ => true
  | .returned _ _ => false

/-- What an attempt does that others may notice. -/
inductive Deed where
  /-- Reads the cursor. -/
  | cursor
  /-- Reads the subscriptions. -/
  | subscriptions
  | call (call : Call)
  | send (send : Send)
  deriving Repr, DecidableEq

/-- What is done between two traces, the first of which begins the
second. -/
def Trace.since (before after : Trace) : List Deed :=
  (after.calls.drop before.calls.length).map .call ++
    (after.sends.drop before.sends.length).map .send

/-- A gate with the attempts at it, by number, and what they all work on. -/
structure Turnstile (σ : Type) where
  taken : Bool
  passages : List Passage
  state : σ
  /-- What was sent and has not arrived. -/
  flying : List Send
  /-- All that was done, with the attempt that did it. -/
  log : List (Nat × Deed)

/-- What may happen at a turnstile. -/
inductive Motion (σ : Type) where
  | knock (attempt : Nat)
  | readCursor (attempt : Nat)
  | readSubscriptions (attempt : Nat)
  /-- A step of the errand at a position. -/
  | work (attempt position : Nat) (step : Step)
  | expire (attempt : Nat)
  /-- All errands are settled: the cursor is moved if there is need. -/
  | conclude (attempt : Nat)
  | reread (attempt : Nat)
  /-- A delivery ends, whichever way. -/
  | land (position : Nat)
  /-- Someone else changes what the attempts work on. -/
  | meanwhile (change : σ → σ)

namespace Turnstile

variable {σ : Type}

/-- A free gate before so many attempts. -/
def opening (attempts : Nat) (state : σ) : Turnstile σ :=
  ⟨false, List.replicate attempts .outside, state, [], []⟩

/-- The gate with the attempt of a number taken on. -/
def withPassage (number : Nat) (passage : Passage) (gate : Turnstile σ) : Turnstile σ :=
  { gate with passages := gate.passages.set number passage }

/-- The gate with what an attempt does noted down. -/
def note (number : Nat) (deeds : List Deed) (gate : Turnstile σ) : Turnstile σ :=
  { gate with log := gate.log ++ deeds.map fun deed => (number, deed) }

/-- The gate given back by an attempt that is over. -/
def leave (number : Nat) (result : Except Error Report) (trace : Trace) (gate : Turnstile σ) :
    Turnstile σ :=
  { gate.withPassage number (.returned result trace) with taken := false }

/-! ## §2. What happens -/

/-- An attempt comes to the gate. -/
def knock (number : Nat) (gate : Turnstile σ) : Turnstile σ :=
  match gate.passages[number]? with
  | some .outside =>
    if gate.taken then gate.withPassage number (.returned (.error .cycleInProgress) .none)
    else { gate.withPassage number .admitted with taken := true }
  | _ => gate

/-- An attempt past the gate reads the cursor. -/
def readCursor (registry : Registry σ) (number : Nat) (gate : Turnstile σ) : Turnstile σ :=
  match gate.passages[number]? with
  | some .admitted =>
    let asked := gate.note number [.cursor]
    match registry.cursor gate.state with
    | .error e => asked.leave number (.error e) .none
    | .ok cursor => asked.withPassage number (.counted cursor)
  | _ => gate

/-- An attempt reads who subscribes to what, and begins its errands. -/
def readSubscriptions (registry : Registry σ) (limits : Limits) (number : Nat)
    (gate : Turnstile σ) : Turnstile σ :=
  match gate.passages[number]? with
  | some (.counted cursor) =>
    let asked := gate.note number [.subscriptions]
    match registry.subscriptions gate.state with
    | .error e => asked.leave number (.error e) .none
    | .ok subscriptions =>
      asked.withPassage number (.crawling ⟨cursor, max 1 limits.maxConcurrent,
        (boardsOf subscriptions).map (errandOf subscriptions), .none⟩)
  | _ => gate

/-- A step of an errand, by the positions of attempt and errand. -/
def work (site : Site) (registry : Registry σ) (number position : Nat) (step : Step)
    (gate : Turnstile σ) : Turnstile σ :=
  match gate.passages[number]? with
  | some (.crawling cycle) =>
    match cycle.step site registry gate.state position step with
    | some next =>
      let sent := next.trace.sends.drop cycle.trace.sends.length
      { (gate.note number (cycle.trace.since next.trace)).withPassage number (.crawling next) with
        flying := gate.flying ++ sent }
    | none => gate
  | _ => gate

/-- The deadline of an attempt. -/
def expire (limits : Limits) (number : Nat) (gate : Turnstile σ) : Turnstile σ :=
  match gate.passages[number]? with
  | some (.crawling cycle) =>
    gate.leave number (.error (.cycleDeadline limits.deadlineSeconds)) cycle.trace
  | _ => gate

/-- The end of the errands of an attempt: the cursor is moved if a newer
post was seen. -/
def conclude (registry : Registry σ) (number : Nat) (gate : Turnstile σ) : Turnstile σ :=
  match gate.passages[number]? with
  | some (.crawling cycle) =>
    if cycle.isSettled then
      if cycle.cursor < cycle.newest then
        let call := Call.advance cycle.newest
        let trace := cycle.trace.append (.call call)
        let asked := gate.note number [.call call]
        match registry.advance cycle.newest gate.state with
        | (.error e, state) => { asked with state }.leave number (.error e) trace
        | (.ok true, state) =>
          { asked with state }.leave number (.ok (cycle.report cycle.newest)) trace
        | (.ok false, state) =>
          { asked with state }.withPassage number (.overtaken { cycle with trace })
      else gate.leave number (.ok (cycle.report cycle.cursor)) cycle.trace
    else gate
  | _ => gate

/-- An attempt that was overtaken reads how far the cursor is. -/
def reread (registry : Registry σ) (number : Nat) (gate : Turnstile σ) : Turnstile σ :=
  match gate.passages[number]? with
  | some (.overtaken cycle) =>
    let asked := gate.note number [.cursor]
    asked.leave number ((registry.cursor gate.state).map fun now => cycle.report now) cycle.trace
  | _ => gate

/-- What happens at a turnstile, if each attempt has a setting of its own. -/
def handle (settings : Nat → Setting σ) (gate : Turnstile σ) : Motion σ → Turnstile σ
  | .knock attempt => gate.knock attempt
  | .readCursor attempt => gate.readCursor (settings attempt).registry attempt
  | .readSubscriptions attempt =>
    gate.readSubscriptions (settings attempt).registry (settings attempt).limits attempt
  | .work attempt position step =>
    gate.work (settings attempt).site (settings attempt).registry attempt position step
  | .expire attempt => gate.expire (settings attempt).limits attempt
  | .conclude attempt => gate.conclude (settings attempt).registry attempt
  | .reread attempt => gate.reread (settings attempt).registry attempt
  | .land position => { gate with flying := gate.flying.eraseIdx position }
  | .meanwhile change => { gate with state := change gate.state }

/-- The turnstile after all this has happened. -/
def after (settings : Nat → Setting σ) (motions : List (Motion σ)) (gate : Turnstile σ) :
    Turnstile σ :=
  motions.foldl (handle settings) gate

end Turnstile

end BoardRelay.Crawl
