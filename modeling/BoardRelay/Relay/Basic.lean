/-
  BoardRelay.Relay.Basic
  ────────────────────────────────
  The relay as a whole: a site that is asked through a client, and the sink
  that files end up in, both as the settings say.
-/
import BoardRelay.Board.Remote
import BoardRelay.Crawl.Timed
import BoardRelay.Delivery.Conversion

namespace BoardRelay

open BoardRelay.Crawl
open BoardRelay.Delivery

/-! ## §1. Parts -/

/-- A remote site as crawls see it: whatever goes wrong is a failure. -/
def Remote.site (remote : Remote) : Site where
  listing board :=
    match remote.listing board with
    | .ok listing => .answer listing
    | .error _ => .failure
  posts board thread :=
    match remote.posts board thread with
    | .ok posts => .answer posts
    | .error _ => .failure
  resource path := remote.resource path

/-- What is outside: servers and programs. -/
structure Surroundings where
  network : Http.Network
  /-- The programs, by name. -/
  program : String → Program

/-- Surroundings without servers and without programs. -/
def Surroundings.none : Surroundings :=
  ⟨Http.Network.unreachable, fun _ => Program.missing⟩

/-- Where files end up: handed on as they are, or converted before. -/
structure Outlet where
  workshop : Workshop Unit
  converts : Bool

/-- The sink that files are handed on to. -/
def innerSink (settings : Settings.Delivery) (client : Http.Client) : Sink Unit :=
  match settings.webhook with
  | some url => Sink.webhook client url
  | none => Sink.log

/-- The outlet that the settings ask for.  The staging area is made only if
files are converted. -/
def Outlet.make (settings : Settings) (client : Http.Client) (surroundings : Surroundings)
    (disk : Disk) : Except Error (Outlet × Depot Unit) := do
  let root := Disk.Path.ofText settings.staging.path
  let converter :=
    Converter.ofProgram settings.delivery.converter
      (surroundings.program settings.delivery.converter)
  let workshop : Workshop Unit := ⟨client.get, converter, innerSink settings.delivery client⟩
  if settings.delivery.convertsVideo then
    let (area, disk) ← Staging.Area.onDisk root settings.staging.maxBytes disk
    return (⟨workshop, true⟩, ⟨area, disk, ()⟩)
  else
    return (⟨workshop, false⟩, ⟨Staging.Area.empty root settings.staging.maxBytes, disk, ()⟩)

/-- Delivers a file. -/
def Outlet.deliver (outlet : Outlet) (send : Send) (depot : Depot Unit) :
    Except Error Unit × Depot Unit :=
  if outlet.converts then Delivery.deliver outlet.workshop send depot
  else (outlet.workshop.inner.send send depot.disk depot.inner |>.1, depot)

/-! ## §2. The relay -/

/-- A relay. -/
structure Relay where
  remote : Remote
  outlet : Outlet
  limits : Limits

namespace Relay

/-- The relay that the settings ask for, and the disk to begin with. -/
def make (settings : Settings) (surroundings : Surroundings) (disk : Disk) :
    Except Error (Relay × Depot Unit) := do
  let client ← (Http.Client.make settings.crawl.userAgent surroundings.network).mapError .http
  let (outlet, depot) ← Outlet.make settings client surroundings disk
  return (⟨⟨client, settings.endpoints⟩, outlet, Limits.ofSettings settings.crawl⟩, depot)

/-- All that a cycle of the relay runs with. -/
def setting {σ : Type} (registry : Registry σ) (relay : Relay) : Setting σ :=
  ⟨relay.remote.site, Pace.instant, registry, relay.limits⟩

/-- Delivers files one after another. -/
def deliverAll (relay : Relay) (sends : List Send) (depot : Depot Unit) : Depot Unit :=
  sends.foldl (fun depot send => (relay.outlet.deliver send depot).2) depot

/-- What an attempt at a cycle has come to. -/
def resultOf (phase : Phase) : Except Error Report × Trace :=
  match phase with
  | .returned result trace => (result, trace)
  | .inside cycle => (.error .cycleInProgress, cycle.trace)
  | .outside => (.error .cycleInProgress, .none)

/-- One attempt at a cycle: its result, and what is to be delivered. -/
def crawl {σ : Type} (registry : Registry σ) (relay : Relay) (state : σ) :
    Except Error Report × List Send × σ :=
  let (_, gate) := play (relay.setting registry) 1 state
  let (result, trace) := resultOf (gate.phase 0)
  (result, trace.sends, gate.state)

/-- One cycle over a store in a file, and its deliveries. -/
def cycle (relay : Relay) (saved : Store.Saved) (depot : Depot Unit) :
    Except Error Report × Store.Saved × Depot Unit :=
  let (result, sends, saved, disk) := relay.crawl Registry.saved (saved, depot.disk)
  (result, saved, relay.deliverAll sends { depot with disk })

end Relay

end BoardRelay
