/-
  BoardRelay.Settings.Record
  ────────────────────────────────
  Settings as JSON records.  Every section and every setting may be left
  out and then has its default; unknown ones are skipped.
-/
import BoardRelay.Json.Record
import BoardRelay.Settings.Basic

namespace BoardRelay.Settings

open BoardRelay.Json

/-- A word as a value. -/
def word (value : UInt64) : Json :=
  .integer value.toNat

/-! ## Sections -/

/-- The crawl section as a record. -/
def Crawl.encode (part : Crawl) : Json :=
  .record [("user_agent", .text part.userAgent), ("timeout_secs", word part.timeoutSeconds),
    ("max_concurrent", word part.maxConcurrent),
    ("cycle_deadline_secs", word part.deadlineSeconds)]

/-- The crawl section that a record stands for. -/
def Crawl.decode (surplus : Surplus) : Decoder Crawl := fun value => do
  let standard : Crawl := {}
  let given ← fields surplus
    ["user_agent", "timeout_secs", "max_concurrent", "cycle_deadline_secs"] value
  let userAgent ← optional standard.userAgent asText given "user_agent"
  let timeout ← optional standard.timeoutSeconds asWord given "timeout_secs"
  let maxConcurrent ← optional standard.maxConcurrent asWord given "max_concurrent"
  let deadline ← optional standard.deadlineSeconds asWord given "cycle_deadline_secs"
  return ⟨userAgent, timeout, maxConcurrent, deadline⟩

/-- The endpoint section as a record. -/
def Endpoints.encode (part : Endpoints) : Json :=
  .record [("threads_url", .text part.listing), ("thread_url", .text part.thread),
    ("resource_url", .text part.resource)]

/-- The endpoint section that a record stands for. -/
def Endpoints.decode (surplus : Surplus) : Decoder Endpoints := fun value => do
  let standard : Endpoints := {}
  let given ← fields surplus ["threads_url", "thread_url", "resource_url"] value
  let listing ← optional standard.listing asText given "threads_url"
  let thread ← optional standard.thread asText given "thread_url"
  let resource ← optional standard.resource asText given "resource_url"
  return ⟨listing, thread, resource⟩

/-- The staging section as a record. -/
def Staging.encode (part : Staging) : Json :=
  .record [("path", .text part.path), ("max_space_bytes", word part.maxBytes),
    ("reserve_wait_secs", word part.waitSeconds)]

/-- The staging section that a record stands for. -/
def Staging.decode (surplus : Surplus) : Decoder Staging := fun value => do
  let standard : Staging := {}
  let given ← fields surplus ["path", "max_space_bytes", "reserve_wait_secs"] value
  let path ← optional standard.path asText given "path"
  let maxBytes ← optional standard.maxBytes asWord given "max_space_bytes"
  let wait ← optional standard.waitSeconds asWord given "reserve_wait_secs"
  return ⟨path, maxBytes, wait⟩

/-- The polling section as a record. -/
def Polling.encode (part : Polling) : Json :=
  .record [("interval_secs", word part.intervalSeconds)]

/-- The polling section that a record stands for. -/
def Polling.decode (surplus : Surplus) : Decoder Polling := fun value => do
  let standard : Polling := {}
  let given ← fields surplus ["interval_secs"] value
  let interval ← optional standard.intervalSeconds asWord given "interval_secs"
  return ⟨interval⟩

/-- The delivery section as a record. -/
def Delivery.encode (part : Delivery) : Json :=
  .record [("webhook_url", (part.webhook.map Json.text).getD .null),
    ("convert_webm", .boolean part.convertsVideo), ("ffmpeg_path", .text part.converter)]

/-- The delivery section that a record stands for. -/
def Delivery.decode (surplus : Surplus) : Decoder Delivery := fun value => do
  let standard : Delivery := {}
  let given ← fields surplus ["webhook_url", "convert_webm", "ffmpeg_path"] value
  let webhook ← optional standard.webhook (asNullable asText) given "webhook_url"
  let convertsVideo ← optional standard.convertsVideo asBoolean given "convert_webm"
  let converter ← optional standard.converter asText given "ffmpeg_path"
  return ⟨webhook, convertsVideo, converter⟩

/-- The storage section as a record. -/
def Storage.encode (part : Storage) : Json :=
  .record [("path", .text part.path)]

/-- The storage section that a record stands for. -/
def Storage.decode (surplus : Surplus) : Decoder Storage := fun value => do
  let standard : Storage := {}
  let given ← fields surplus ["path"] value
  let path ← optional standard.path asText given "path"
  return ⟨path⟩

/-- The logging section as a record. -/
def Logging.encode (part : Logging) : Json :=
  .record [("level", .text part.level)]

/-- The logging section that a record stands for. -/
def Logging.decode (surplus : Surplus) : Decoder Logging := fun value => do
  let standard : Logging := {}
  let given ← fields surplus ["level"] value
  let level ← optional standard.level asText given "level"
  return ⟨level⟩

/-! ## All settings -/

/-- Settings as a record. -/
def encode (settings : Settings) : Json :=
  .record [("crawler", settings.crawl.encode), ("api", settings.endpoints.encode),
    ("staging", settings.staging.encode), ("poller", settings.polling.encode),
    ("delivery", settings.delivery.encode), ("storage", settings.storage.encode),
    ("logging", settings.logging.encode)]

/-- The settings that a record stands for. -/
def decode (surplus : Surplus) : Decoder Settings := fun value => do
  let given ← fields surplus
    ["crawler", "api", "staging", "poller", "delivery", "storage", "logging"] value
  let crawl ← optional {} (Crawl.decode surplus) given "crawler"
  let endpoints ← optional {} (Endpoints.decode surplus) given "api"
  let staging ← optional {} (Staging.decode surplus) given "staging"
  let polling ← optional {} (Polling.decode surplus) given "poller"
  let delivery ← optional {} (Delivery.decode surplus) given "delivery"
  let storage ← optional {} (Storage.decode surplus) given "storage"
  let logging ← optional {} (Logging.decode surplus) given "logging"
  return ⟨crawl, endpoints, staging, polling, delivery, storage, logging⟩

end BoardRelay.Settings
