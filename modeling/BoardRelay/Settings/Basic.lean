/-
  BoardRelay.Settings.Basic
  ────────────────────────────────
  The settings of the relay, with their defaults, and the check that makes
  them usable.  The check names the first setting that is not sound.
-/
import BoardRelay.Endpoint
import BoardRelay.Error
import BoardRelay.Text.Blank
import BoardRelay.Url.Reader

namespace BoardRelay

/-! ## §1. Settings and their defaults -/

/-- How a crawl goes about its work. -/
structure Settings.Crawl where
  /-- What the client calls itself. -/
  userAgent : String := "Mozilla/5.0 (compatible; threadwatch/0.1)"
  /-- How long one request may take. -/
  timeoutSeconds : UInt64 := 30
  /-- How many threads of a board are fetched at a time. -/
  maxConcurrent : UInt64 := 8
  /-- How long a whole cycle may take. -/
  deadlineSeconds : UInt64 := 240
  deriving Repr, DecidableEq

/-- The templates of the URLs that a site answers. -/
structure Settings.Endpoints where
  listing : String := "https://2ch.hk/\x7bboard\x7d/threads.json"
  thread : String := "https://2ch.hk/\x7bboard\x7d/res/\x7bthread\x7d.json"
  resource : String := "https://2ch.hk\x7bpath\x7d"
  deriving Repr, DecidableEq

/-- The staging area on disk. -/
structure Settings.Staging where
  path : String := "data/staging"
  maxBytes : UInt64 := 536870912
  /-- How long to wait for space. -/
  waitSeconds : UInt64 := 120
  deriving Repr, DecidableEq

/-- When cycles start. -/
structure Settings.Polling where
  intervalSeconds : UInt64 := 300
  deriving Repr, DecidableEq

/-- Where files go. -/
structure Settings.Delivery where
  /-- Receives what is delivered; without one it is only noted. -/
  webhook : Option String := none
  /-- Whether videos are converted first. -/
  convertsVideo : Bool := true
  /-- The program that converts them. -/
  converter : String := "ffmpeg"
  deriving Repr, DecidableEq

/-- Where the store is. -/
structure Settings.Storage where
  path : String := "data/store.json"
  deriving Repr, DecidableEq

/-- What is noted. -/
structure Settings.Logging where
  level : String := "info"
  deriving Repr, DecidableEq

/-- All settings. -/
structure Settings where
  crawl : Settings.Crawl := {}
  endpoints : Settings.Endpoints := {}
  staging : Settings.Staging := {}
  polling : Settings.Polling := {}
  delivery : Settings.Delivery := {}
  storage : Settings.Storage := {}
  logging : Settings.Logging := {}
  deriving Repr, DecidableEq

namespace Settings

/-! ## §2. Soundness -/

/-- Refuses zero. -/
def requirePositive (setting : String) (value : UInt64) : Except Error Unit :=
  if value = 0 then .error (.invalid (.zeroSetting setting)) else .ok ()

/-- Refuses a template without the place that it is for. -/
def requirePlace (setting template name : String) : Except Error Unit :=
  if Endpoint.mentions template name then .ok ()
  else .error (.invalid (.missingPlaceholder setting name))

/-- Refuses a text that is no URL. -/
def requireUrl (text : String) : Except Error Unit :=
  match Url.read text with
  | .ok _ => .ok ()
  | .error e => .error (.url e)

/-- Refuses settings of which one is not sound. -/
def check (settings : Settings) : Except Error Unit := do
  if Text.allBlank settings.crawl.userAgent.toList then
    .error (.invalid (.emptySetting "crawler.user_agent"))
  requirePositive "crawler.timeout_secs" settings.crawl.timeoutSeconds
  requirePositive "crawler.max_concurrent" settings.crawl.maxConcurrent
  requirePositive "crawler.cycle_deadline_secs" settings.crawl.deadlineSeconds
  requirePlace "api.threads_url" settings.endpoints.listing "board"
  requirePlace "api.thread_url" settings.endpoints.thread "thread"
  requirePlace "api.resource_url" settings.endpoints.resource "path"
  requirePositive "staging.max_space_bytes" settings.staging.maxBytes
  requirePositive "poller.interval_secs" settings.polling.intervalSeconds
  match settings.delivery.webhook with
  | none => .ok ()
  | some webhook => requireUrl webhook

end Settings

end BoardRelay
