/-
  BoardRelay.Delivery.Rehearsal
  ────────────────────────────────
  Sinks and converters made up for trying deliveries out.
-/
import BoardRelay.Delivery.Conversion

namespace BoardRelay.Delivery

/-- What a recording sink has taken. -/
structure Record where
  send : Send
  /-- The size of the file that the locator names on disk, if there is one. -/
  size : Option Nat
  deriving Repr, DecidableEq

/-- The sink that records what it takes, in order, and may refuse it
nevertheless. -/
def Sink.recorder (refuses : Bool) : Sink (List Record) :=
  .ofSend fun send disk records =>
    let size := (disk.read (Disk.Path.ofText send.locator)).toOption.map List.length
    (if refuses then .error (.fetch "inner" (.refused "refused")) else .ok (),
      records ++ [⟨send, size⟩])

/-- The failure of a made-up converter. -/
def brokenInput : Error :=
  .conversion (.reported "broken input")

/-- The converter that copies its input. -/
def Converter.copying : Converter := fun input output disk =>
  match (disk.read input).bind (disk.write output) with
  | .ok disk => (.ok (), disk)
  | .error fault => (.error (.disk fault), disk)

/-- The converter that fails. -/
def Converter.failing : Converter :=
  fun _ _ disk => (.error brokenInput, disk)

/-- The converter that copies its input and then fails. -/
def Converter.failingLate : Converter := fun input output disk =>
  match Converter.copying input output disk with
  | (.ok (), disk) => (.error brokenInput, disk)
  | failed => failed

/-- The converter that claims success and makes nothing. -/
def Converter.idle : Converter :=
  fun _ _ disk => (.ok (), disk)

end BoardRelay.Delivery
