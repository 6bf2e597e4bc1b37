import BoardRelay.Board
import BoardRelay.Board.Payload
import BoardRelay.Board.Remote
import BoardRelay.Clock.Agenda
import BoardRelay.Clock.Date
import BoardRelay.CommandLine.Command
import BoardRelay.CommandLine.Run
import BoardRelay.CommandLine.Words
import BoardRelay.Crawl.Cycle
import BoardRelay.Crawl.Errand
import BoardRelay.Crawl.Gate
import BoardRelay.Crawl.Landing
import BoardRelay.Crawl.Limits
import BoardRelay.Crawl.Match
import BoardRelay.Crawl.Passage
import BoardRelay.Crawl.Poller
import BoardRelay.Crawl.Rehearsal
import BoardRelay.Crawl.Site
import BoardRelay.Crawl.Timed
import BoardRelay.Delivery.Conversion
import BoardRelay.Delivery.Converter
import BoardRelay.Delivery.Rehearsal
import BoardRelay.Delivery.Send
import BoardRelay.Delivery.Sink
import BoardRelay.Disk.Basic
import BoardRelay.Disk.Fault
import BoardRelay.Disk.Path
import BoardRelay.Endpoint
import BoardRelay.Error
import BoardRelay.FileKinds
import BoardRelay.Http.Client
import BoardRelay.Http.Error
import BoardRelay.Json.Basic
import BoardRelay.Json.Compact
import BoardRelay.Json.Printer
import BoardRelay.Json.Reader
import BoardRelay.Json.Record
import BoardRelay.Json.Token
import BoardRelay.Ledger.Basic
import BoardRelay.Ledger.Waiting
import BoardRelay.Main
import BoardRelay.Proofs.Clock.Agenda
import BoardRelay.Proofs.Clock.Calendar
import BoardRelay.Proofs.Clock.Written
import BoardRelay.Proofs.CommandLine.Cursor
import BoardRelay.Proofs.Crawl.Again
import BoardRelay.Proofs.Crawl.Apart
import BoardRelay.Proofs.Crawl.Asked
import BoardRelay.Proofs.Crawl.Boards
import BoardRelay.Proofs.Crawl.Cursor
import BoardRelay.Proofs.Crawl.Cycle
import BoardRelay.Proofs.Crawl.Dispatch
import BoardRelay.Proofs.Crawl.Errand
import BoardRelay.Proofs.Crawl.Failure
import BoardRelay.Proofs.Crawl.Follow
import BoardRelay.Proofs.Crawl.Landing
import BoardRelay.Proofs.Crawl.Linked
import BoardRelay.Proofs.Crawl.Origin
import BoardRelay.Proofs.Crawl.Owed
import BoardRelay.Proofs.Crawl.Passage
import BoardRelay.Proofs.Crawl.Poller
import BoardRelay.Proofs.Crawl.Run
import BoardRelay.Proofs.Crawl.Schedule
import BoardRelay.Proofs.Crawl.Script
import BoardRelay.Proofs.Crawl.Share
import BoardRelay.Proofs.Crawl.Solo
import BoardRelay.Proofs.Crawl.Timed
import BoardRelay.Proofs.Crawl.Walk
import BoardRelay.Proofs.Delivery.Converted
import BoardRelay.Proofs.Delivery.Handovers
import BoardRelay.Proofs.Delivery.Roles
import BoardRelay.Proofs.Delivery.Traceless
import BoardRelay.Proofs.Delivery.Videos
import BoardRelay.Proofs.Disk.Entries
import BoardRelay.Proofs.Disk.Goal
import BoardRelay.Proofs.Disk.Operations
import BoardRelay.Proofs.Disk.Parents
import BoardRelay.Proofs.Endpoint
import BoardRelay.Proofs.FileKinds
import BoardRelay.Proofs.Json.RoundTrip
import BoardRelay.Proofs.Json.Scalar
import BoardRelay.Proofs.Ledger.Books
import BoardRelay.Proofs.Ledger.Crowd
import BoardRelay.Proofs.Ledger.Diary
import BoardRelay.Proofs.Ledger.Tally
import BoardRelay.Proofs.Ledger.Waiting
import BoardRelay.Proofs.Lists
import BoardRelay.Proofs.Staging.Account
import BoardRelay.Proofs.Staging.Alone
import BoardRelay.Proofs.Staging.Calls
import BoardRelay.Proofs.Staging.Content
import BoardRelay.Proofs.Staging.Files
import BoardRelay.Proofs.Staging.Holders
import BoardRelay.Proofs.Staging.Place
import BoardRelay.Proofs.Staging.Solo
import BoardRelay.Proofs.Staging.Use
import BoardRelay.Proofs.Store.Borne
import BoardRelay.Proofs.Store.Handles
import BoardRelay.Proofs.Store.Interrupted
import BoardRelay.Proofs.Store.Mirror
import BoardRelay.Proofs.Store.Peak
import BoardRelay.Proofs.Store.RoundTrip
import BoardRelay.Proofs.Store.Rounds
import BoardRelay.Proofs.Store.Saving
import BoardRelay.Proofs.Store.Views
import BoardRelay.Proofs.Store.WellFormed
import BoardRelay.Proofs.Subscription.Request
import BoardRelay.Proofs.Tags.Grammar
import BoardRelay.Proofs.Tags.Matching
import BoardRelay.Proofs.Tags.Problem
import BoardRelay.Proofs.Tags.Verbatim
import BoardRelay.Proofs.Text.Blank
import BoardRelay.Proofs.Text.Lowercase
import BoardRelay.Proofs.Text.Search
import BoardRelay.Relay.Basic
import BoardRelay.Settings.Basic
import BoardRelay.Settings.File
import BoardRelay.Settings.Record
import BoardRelay.Staging.Area
import BoardRelay.Staging.Name
import BoardRelay.Staging.Task
import BoardRelay.Store.Basic
import BoardRelay.Store.Change
import BoardRelay.Store.Record
import BoardRelay.Store.Saved
import BoardRelay.Subscription
import BoardRelay.Subscription.Filter
import BoardRelay.Subscription.Record
import BoardRelay.Subscription.Request
import BoardRelay.Tags.Basic
import BoardRelay.Tags.Error
import BoardRelay.Tags.Reader
import BoardRelay.Text.Blank
import BoardRelay.Text.CaseTable
import BoardRelay.Text.Digits
import BoardRelay.Text.Lowercase
import BoardRelay.Text.PrintTable
import BoardRelay.Text.Quoted
import BoardRelay.Text.Search
import BoardRelay.Text.Utf8
import BoardRelay.Toml.Number
import BoardRelay.Toml.Reader
import BoardRelay.Toml.Text
import BoardRelay.Toml.Tree
import BoardRelay.Url.Basic
import BoardRelay.Url.Error
import BoardRelay.Url.Escape
import BoardRelay.Url.Host
import BoardRelay.Url.Punycode
import BoardRelay.Url.Reader
import BoardRelay.Word64
