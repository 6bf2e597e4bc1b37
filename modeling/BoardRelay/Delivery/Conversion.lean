/-
  BoardRelay.Delivery.Conversion
  ────────────────────────────────
  Videos are staged and converted before they are handed on; everything else
  is handed on as it is.  The staged video and the converted file go again
  whatever came of it, and nothing that fails while they go matters.

      saving ──▶ converting ──▶ handing ──▶ freeing ──▶ clearing ──▶ done
-/
import BoardRelay.Delivery.Converter
import BoardRelay.Delivery.Sink
import BoardRelay.Staging.Task

namespace BoardRelay.Delivery

open BoardRelay.Staging

/-- What a conversion works with. -/
structure Workshop (σ : Type) where
  fetch : String → Except Http.Error Text.Bytes
  converter : Converter
  /-- Where files are handed on to. -/
  inner : Sink σ

/-- What conversions change. -/
structure Depot (σ : Type) where
  area : Area
  disk : Disk
  /-- The state of the sink that files are handed on to. -/
  inner : σ

/-- How far the delivery of a file is. -/
inductive Handover where
  | saving (send : Send)
  /-- The video is staged at a path. -/
  | converting (send : Send) (staged : Disk.Path)
  | handing (send : Send)
  /-- The result is settled; the staged video is to go. -/
  | freeing (send : Send) (result : Except Error Unit)
  /-- The converted file is to go. -/
  | clearing (send : Send) (result : Except Error Unit)
  | done (result : Except Error Unit)
  deriving DecidableEq

namespace Depot

variable {σ : Type}

/-- Where the converted form of a video is put. -/
def output (send : Send) (depot : Depot σ) : Disk.Path :=
  depot.area.place (convertedLocator send.locator)

/-- Stages a file. -/
def save (workshop : Workshop σ) (locator : String) (depot : Depot σ) : Result × Depot σ :=
  let (result, area, disk) := depot.area.save workshop.fetch locator depot.disk
  (result, { depot with area, disk })

/-- Stages a content that is at hand. -/
def stage (locator : String) (content : Text.Bytes) (depot : Depot σ) : Result × Depot σ :=
  let (result, area, disk) := depot.area.stage locator content depot.disk
  (result, { depot with area, disk })

/-- Lets a staged file go. -/
def free (locator : String) (depot : Depot σ) : Result × Depot σ :=
  let (result, area, disk) := depot.area.free locator depot.disk
  (result, { depot with area, disk })

end Depot

namespace Handover

variable {σ : Type}

/-- The next step of a delivery. -/
def step (workshop : Workshop σ) (delivery : Handover) (depot : Depot σ) : Handover × Depot σ :=
  match delivery with
  | .saving send =>
    if isVideo send.locator then
      match depot.save workshop send.locator with
      | (.error e, depot) => (.done (.error e), depot)
      | (.ok staged, depot) => (.converting send staged, depot)
    else
      let (result, inner) := workshop.inner.send send depot.disk depot.inner
      (.done result, { depot with inner })
  | .converting send staged =>
    let (result, disk) := workshop.converter staged (depot.output send) depot.disk
    match result with
    | .error e => (.freeing send (.error e), { depot with disk })
    | .ok () => (.handing send, { depot with disk })
  | .handing send =>
    let upload : Upload := ⟨send.receivers, depot.output send, send.caption⟩
    let (result, inner) := workshop.inner.upload upload depot.disk depot.inner
    (.freeing send result, { depot with inner })
  | .freeing send result => (.clearing send result, (depot.free send.locator).2)
  | .clearing send result =>
    if depot.disk.isThere (depot.output send) then
      (.done result, (depot.free (convertedLocator send.locator)).2)
    else (.done result, depot)
  | .done result => (.done result, depot)

/-- How many steps a delivery makes at most until it is done. -/
def distance : Handover → Nat
  | .saving _ => 5
  | .converting _ _ => 4
  | .handing _ => 3
  | .freeing _ _ => 2
  | .clearing _ _ => 1
  | .done _ => 0

/-- What a delivery has come to, if it is over. -/
def result? : Handover → Option (Except Error Unit)
  | .done result => some result
  | _ => none

/-- Every step brings a delivery nearer to its end. -/
theorem distance_step_lt (workshop : Workshop σ) (delivery : Handover) (depot : Depot σ)
    (unfinished : delivery.result? = none) :
    (step workshop delivery depot).1.distance < delivery.distance := by
  cases delivery with
  | saving send =>
    simp only [step]
    split
    · split <;> simp [distance]
    · simp [distance]
  | converting send staged => simp only [step]; split <;> simp [distance]
  | handing send => simp [step, distance]
  | freeing send result => simp [step, distance]
  | clearing send result => simp only [step]; split <;> simp [distance]
  | done result => simp [result?] at unfinished

/-- What a delivery comes to with nobody else around. -/
def run (workshop : Workshop σ) (delivery : Handover) (depot : Depot σ) :
    Except Error Unit × Depot σ :=
  match _unfinished : delivery.result? with
  | some result => (result, depot)
  | none =>
    let next := step workshop delivery depot
    run workshop next.1 next.2
termination_by delivery.distance
decreasing_by exact distance_step_lt workshop delivery depot (by assumption)

end Handover

/-- Delivers a file. -/
def deliver {σ : Type} (workshop : Workshop σ) (send : Send) (depot : Depot σ) :
    Except Error Unit × Depot σ :=
  Handover.run workshop (.saving send) depot

/-- Delivers a file on disk: it is handed on as it is. -/
def deliverUpload {σ : Type} (workshop : Workshop σ) (upload : Upload) (depot : Depot σ) :
    Except Error Unit × Depot σ :=
  let (result, inner) := workshop.inner.upload upload depot.disk depot.inner
  (result, { depot with inner })

end BoardRelay.Delivery
