import EventRelay.Binary64.Basic
import EventRelay.Binary64.Shortest
import EventRelay.Client.Bus
import EventRelay.Client.Call
import EventRelay.Client.Connection
import EventRelay.Client.ConnectionRecord
import EventRelay.Client.Controller
import EventRelay.Client.Conversation
import EventRelay.Client.Link
import EventRelay.Client.Mailbox
import EventRelay.Client.Script
import EventRelay.Client.ScriptRecord
import EventRelay.Client.Steering
import EventRelay.Client.Surroundings
import EventRelay.Client.Switchboard
import EventRelay.Client.Tasks
import EventRelay.CommandLine.Listen
import EventRelay.CommandLine.Options
import EventRelay.CommandLine.Serve
import EventRelay.Config.Client
import EventRelay.Config.Defaults
import EventRelay.Config.Environment
import EventRelay.Config.Origins
import EventRelay.Config.Record
import EventRelay.Config.Server
import EventRelay.Duration
import EventRelay.Event
import EventRelay.Fault
import EventRelay.FaultRecord
import EventRelay.Feed
import EventRelay.Fingerprint
import EventRelay.Http.Api
import EventRelay.Http.Caller
import EventRelay.Http.Cors
import EventRelay.Http.ErrorBody
import EventRelay.Http.HostName
import EventRelay.Http.MediaType
import EventRelay.Http.Message
import EventRelay.Http.Record
import EventRelay.Http.Route
import EventRelay.Http.Status
import EventRelay.Http.Url
import EventRelay.Identity
import EventRelay.Jobs
import EventRelay.Json.Access
import EventRelay.Json.Decode
import EventRelay.Json.Literal
import EventRelay.Json.Printer
import EventRelay.Json.Raw
import EventRelay.Json.Reader
import EventRelay.Json.Value
import EventRelay.Log.Basic
import EventRelay.Log.Readers
import EventRelay.Log.Schedule
import EventRelay.Log.Wait
import EventRelay.Main
import EventRelay.Proofs.Blanks
import EventRelay.Proofs.Client.AtWork
import EventRelay.Proofs.Client.Calls
import EventRelay.Proofs.Client.Coupled
import EventRelay.Proofs.Client.Delivery
import EventRelay.Proofs.Client.Dispatch
import EventRelay.Proofs.Client.Errands
import EventRelay.Proofs.Client.Faithful
import EventRelay.Proofs.Client.Journal
import EventRelay.Proofs.Client.Linked
import EventRelay.Proofs.Client.Order
import EventRelay.Proofs.Client.Wanted
import EventRelay.Proofs.Decimals
import EventRelay.Proofs.Forms
import EventRelay.Proofs.Http.Addressed
import EventRelay.Proofs.Http.Below
import EventRelay.Proofs.Http.Classified
import EventRelay.Proofs.Http.Probed
import EventRelay.Proofs.Http.Reached
import EventRelay.Proofs.Http.Sent
import EventRelay.Proofs.Instants
import EventRelay.Proofs.Json.Payloads
import EventRelay.Proofs.Json.Records
import EventRelay.Proofs.Json.Texts
import EventRelay.Proofs.Log.Drains
import EventRelay.Proofs.Log.Readers
import EventRelay.Proofs.Log.Ring
import EventRelay.Proofs.Log.Timing
import EventRelay.Proofs.Messages
import EventRelay.Proofs.Origins
import EventRelay.Proofs.RoundTrips
import EventRelay.Proofs.Server.Alike
import EventRelay.Proofs.Server.Alone
import EventRelay.Proofs.Server.Apart
import EventRelay.Proofs.Server.Attended
import EventRelay.Proofs.Server.Coherent
import EventRelay.Proofs.Server.Consumption
import EventRelay.Proofs.Server.Expiry
import EventRelay.Proofs.Server.Finality
import EventRelay.Proofs.Server.InTouch
import EventRelay.Proofs.Server.Isolation
import EventRelay.Proofs.Server.Lifetimes
import EventRelay.Proofs.Server.Locality
import EventRelay.Proofs.Server.Moves
import EventRelay.Proofs.Server.Orderly
import EventRelay.Proofs.Server.Overflow
import EventRelay.Proofs.Server.Passages
import EventRelay.Proofs.Server.PollStep
import EventRelay.Proofs.Server.Punctual
import EventRelay.Proofs.Server.Replies
import EventRelay.Proofs.Server.Resumable
import EventRelay.Proofs.Server.Runs
import EventRelay.Proofs.Server.Shared
import EventRelay.Proofs.Server.Sound
import EventRelay.Proofs.Server.Telling
import EventRelay.Proofs.Server.Turns
import EventRelay.Proofs.Server.Uninterrupted
import EventRelay.Proofs.Server.Unnoticed
import EventRelay.Proofs.Session.Apart
import EventRelay.Proofs.Session.Ending
import EventRelay.Proofs.Session.Lapsing
import EventRelay.Proofs.Session.Lifecycle
import EventRelay.Proofs.Session.Marks
import EventRelay.Proofs.Session.Shared
import EventRelay.Proofs.Session.Telling
import EventRelay.Proofs.Session.Wanting
import EventRelay.Proofs.Spellings
import EventRelay.Proofs.Steering.Course
import EventRelay.Proofs.Steering.Disciplined
import EventRelay.Proofs.Steering.Pacing
import EventRelay.Proofs.Switchboard.Accounted
import EventRelay.Proofs.Switchboard.Covered
import EventRelay.Proofs.Switchboard.Early
import EventRelay.Proofs.Switchboard.Listed
import EventRelay.Proofs.Switchboard.Moves
import EventRelay.Proofs.Switchboard.Tidy
import EventRelay.Proofs.Switchboard.Timely
import EventRelay.Proofs.Switchboard.Turns
import EventRelay.Proofs.Tickets
import EventRelay.Server.Basic
import EventRelay.Server.Host
import EventRelay.Server.Poll
import EventRelay.Server.Request
import EventRelay.Server.Traffic
import EventRelay.Session.Basic
import EventRelay.Session.Record
import EventRelay.Session.Registry
import EventRelay.Session.Sweeper
import EventRelay.Text.Blank
import EventRelay.Text.Hex
import EventRelay.Text.Numeral
import EventRelay.Text.Percent
import EventRelay.Text.Quoted
import EventRelay.Text.Shown
import EventRelay.Timeline
import EventRelay.Timestamp
import EventRelay.TypeId
import EventRelay.Uuid
import EventRelay.Wire
