/-
  BoardRelay.Ledger.Waiting
  ────────────────────────────────
  Waiting for space.  One who wants space first registers for news of
  releases and only then looks, so that no release in between is missed;
  who finds no space parks until notified, and then starts over.  A release
  first gives the bytes back and then notifies all who are registered.

  §1 has these as atomic steps, §2 runs them on a clock.
-/
import BoardRelay.Clock.Agenda
import BoardRelay.Ledger.Basic

namespace BoardRelay.Ledger

/-! ## §1. Atomic steps -/

/-- Someone who wants space. -/
structure Waiter where
  number : Nat
  size : UInt64
  /-- Whether the last look found no space. -/
  parked : Bool
  /-- Whether a release was announced since registering. -/
  notified : Bool
  deriving Repr, DecidableEq

/-- A ledger and those around it. -/
structure Room where
  ledger : Ledger
  /-- Those who wait, in the order in which they registered. -/
  waiters : List Waiter
  /-- Releases that have given their bytes back and notified nobody yet. -/
  unannounced : Nat
  deriving Repr, DecidableEq

namespace Room

/-- The room around a ledger when nobody is there. -/
def empty (ledger : Ledger) : Room :=
  ⟨ledger, [], 0⟩

/-- The waiter of a number. -/
def waiter? (number : Nat) (room : Room) : Option Waiter :=
  room.waiters.find? fun w => w.number = number

/-- The waiters without the one of a number. -/
def others (number : Nat) (room : Room) : List Waiter :=
  room.waiters.filter fun w => w.number != number

/-- Registers someone. -/
def register (number : Nat) (size : UInt64) (room : Room) : Room :=
  { room with waiters := room.others number ++ [⟨number, size, false, false⟩] }

/-- Looks for space once: takes it and goes, or parks.  Says whether there
was space. -/
def attempt (number : Nat) (room : Room) : Bool × Room :=
  match room.waiter? number with
  | none => (false, room)
  | some w =>
    if room.ledger.fits w.size then
      (true, { room with ledger := room.ledger.take w.size, waiters := room.others number })
    else
      let park (w : Waiter) : Waiter := if w.number = number then { w with parked := true } else w
      (false, { room with waiters := room.waiters.map park })

/-- Starts over after a notice. -/
def wake (number : Nat) (room : Room) : Room :=
  match room.waiter? number with
  | none => room
  | some w => if w.parked && w.notified then room.register number w.size else room

/-- Goes away without space. -/
def leave (number : Nat) (room : Room) : Room :=
  { room with waiters := room.others number }

/-- Gives bytes back. -/
def subtract (size : UInt64) (room : Room) : Room :=
  { room with ledger := room.ledger.release size, unannounced := room.unannounced + 1 }

/-- Announces a release to all who are registered. -/
def announce (room : Room) : Room :=
  { room with
    waiters := room.waiters.map fun w => { w with notified := true }
    unannounced := room.unannounced - 1 }

end Room

/-! ## §2. On a clock -/

/-- A wish for space: when it comes up, how long it waits, and for how long
the space is kept if it is given back at all. -/
structure Demand where
  arrival : Nat
  size : UInt64
  patience : Nat
  hold : Option Nat
  deriving Repr, DecidableEq

/-- What became of a wish, when, and how much was taken right then. -/
structure Verdict where
  result : Except Error Unit
  time : Nat
  loaded : UInt64

/-- A look for space: who looked when, and at what ledger. -/
structure Look where
  number : Nat
  time : Nat
  ledger : Ledger
  deriving Repr, DecidableEq

/-- What happens at an instant, by the number of the wish. -/
inductive Event where
  | arrives (number : Nat)
  | givesUp (number : Nat)
  | givesBack (number : Nat)
  deriving Repr, DecidableEq

/-- A room on a clock. -/
structure Hall where
  room : Room
  /-- All looks that were taken, oldest first. -/
  looks : List Look
  verdicts : List (Nat × Verdict)
  agenda : Clock.Agenda Event

namespace Hall

/-- Notes what became of a wish. -/
def settle (number now : Nat) (result : Except Error Unit) (hall : Hall) : Hall :=
  { hall with
    verdicts := hall.verdicts ++ [(number, ⟨result, now, hall.room.ledger.loaded⟩)] }

/-- Lets someone who has registered and not parked yet look for space; one who
gets it notes when to give it back. -/
def look (now number : Nat) (demand : Demand) (hall : Hall) : Hall :=
  if (hall.room.waiter? number).any (!·.parked) then
    let hall := { hall with looks := hall.looks ++ [Look.mk number now hall.room.ledger] }
    match hall.room.attempt number with
    | (false, room) => { hall with room }
    | (true, room) =>
      let hall := { hall with room }.settle number now (.ok ())
      match demand.hold with
      | none => hall
      | some hold => { hall with agenda := hall.agenda.note (now + hold) (.givesBack number) }
  else hall

/-- Lets everyone start over in order who was notified, and so has registered
anew; the others stay parked and do not look. -/
def lookAgain (demands : List Demand) (now : Nat) : List Waiter → Hall → Hall
  | [], hall => hall
  | w :: others, hall =>
    let woken := { hall with room := hall.room.wake w.number }
    let hall := match demands[w.number]? with
      | none => woken
      | some demand => woken.look now w.number demand
    lookAgain demands now others hall

/-- Someone arrives: turned away at once if the size can never fit, served
if it fits, waiting otherwise. -/
def arrive (now number : Nat) (demand : Demand) (hall : Hall) : Hall :=
  match hall.room.ledger.checkSize demand.size with
  | .error e => hall.settle number now (.error e)
  | .ok () =>
    let registered := { hall with room := hall.room.register number demand.size }
    let looked := registered.look now number demand
    if (looked.room.waiter? number).isSome then
      { looked with agenda := looked.agenda.note (now + demand.patience) (.givesUp number) }
    else looked

/-- What an event does. -/
def handle (demands : List Demand) (now : Nat) (event : Event) (hall : Hall) : Hall :=
  match event with
  | .arrives number =>
    match demands[number]? with
    | none => hall
    | some demand => hall.arrive now number demand
  | .givesUp number =>
    match hall.room.waiter? number with
    | none => hall
    | some w =>
      { hall with room := hall.room.leave number }.settle number now
        (.error (.quotaExhausted w.size))
  | .givesBack number =>
    match demands[number]? with
    | none => hall
    | some demand =>
      let room := (hall.room.subtract demand.size).announce
      lookAgain demands now room.waiters { hall with room }

/-- Handles up to this many events. -/
def run (demands : List Demand) : Nat → Hall → Hall
  | 0, hall => hall
  | budget + 1, hall =>
    match hall.agenda.next? with
    | none => hall
    | some ((now, event), agenda) =>
      run demands budget (handle demands now event { hall with agenda })

/-- A hall where all wishes are still to come. -/
def opening (ledger : Ledger) (demands : List Demand) : Hall :=
  let agenda := demands.zipIdx.foldl
    (fun agenda (demand, number) => agenda.note demand.arrival (.arrives number)) Clock.Agenda.empty
  ⟨Room.empty ledger, [], [], agenda⟩

/-- Everything that happens: each wish arrives, and gives up and gives back
at most once. -/
def play (ledger : Ledger) (demands : List Demand) : Hall :=
  run demands (3 * demands.length) (opening ledger demands)

end Hall

end BoardRelay.Ledger
