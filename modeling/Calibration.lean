import Calibration.Assoc
import Calibration.BringUp.Check
import Calibration.BringUp.Late
import Calibration.BringUp.Settle
import Calibration.Builtin.DataSavior
import Calibration.Builtin.DictHash
import Calibration.Builtin.Registry
import Calibration.Chain.Basic
import Calibration.Chain.Error
import Calibration.Chain.Run
import Calibration.Chain.Serve
import Calibration.CommandLine.Arguments
import Calibration.CommandLine.Commands
import Calibration.CommandLine.Fault
import Calibration.CommandLine.Help
import Calibration.CommandLine.Report
import Calibration.CommandLine.Request
import Calibration.Config.Basic
import Calibration.Config.Chains
import Calibration.Config.Document
import Calibration.Config.Reading
import Calibration.Demo.SimSensor
import Calibration.Demo.WhitePoint
import Calibration.Dict.Basic
import Calibration.Dict.Document
import Calibration.Dict.Error
import Calibration.Dict.File
import Calibration.Files.Error
import Calibration.Files.Path
import Calibration.Files.Tree
import Calibration.Handle
import Calibration.Host.Basic
import Calibration.Host.Listing
import Calibration.Host.Loading
import Calibration.Item.Basic
import Calibration.Item.Json
import Calibration.Item.Read
import Calibration.Item.Scalar
import Calibration.Item.Types
import Calibration.Item.Write
import Calibration.Lifecycle
import Calibration.Main
import Calibration.Number.Binary64
import Calibration.Number.Decimal
import Calibration.Number.Shortest
import Calibration.Plugin.Basic
import Calibration.Plugin.Code
import Calibration.Plugin.Error
import Calibration.Plugin.Task
import Calibration.Registry.Error
import Calibration.Registry.Module
import Calibration.Registry.Origin
import Calibration.Roster
import Calibration.Sample.Modules
import Calibration.Scheduler
import Calibration.Script.Plugin
import Calibration.Script.Step
import Calibration.Store
import Calibration.Text.Base64
import Calibration.Text.Blank
import Calibration.Text.Json
import Calibration.Text.Printing
import Calibration.Text.Quoted
import Calibration.Text.Utf8
import Calibration.Time.Date
import Calibration.Time.Timestamp
import Calibration.Toml.Document
import Calibration.Toml.Node
import Calibration.Toml.Number
import Calibration.Toml.Reader
import Calibration.Toml.Text
import Calibration.Toml.Writing
import Calibration.Xml.Attribute
import Calibration.Xml.Builder
import Calibration.Xml.Document
import Calibration.Xml.Element
import Calibration.Xml.Error
import Calibration.Xml.Event
import Calibration.Xml.Layout
import Calibration.Xml.Reference
import Calibration.Proofs.BringUp.Closure
import Calibration.Proofs.Roster.Outline
import Calibration.Proofs.BringUp.Phases
import Calibration.Proofs.BringUp.Collaborators
import Calibration.Proofs.BringUp.Steady
import Calibration.Proofs.BringUp.Bounds
import Calibration.Proofs.BringUp.Exactness
import Calibration.Proofs.Xml.Markup
import Calibration.Proofs.Xml.Normal
import Calibration.Proofs.Xml.RoundTrip
import Calibration.Proofs.Number.ReadBack
import Calibration.Proofs.Text.Base64
import Calibration.Proofs.Time.Calendar
import Calibration.Proofs.Time.ReadBack
import Calibration.Proofs.Item.Scalar
import Calibration.Proofs.Item.Stored
import Calibration.Proofs.Item.RoundTrip
import Calibration.Proofs.Dict.RoundTrip
import Calibration.Proofs.Assoc.Writes
import Calibration.Proofs.Dict.Merge
import Calibration.Proofs.Chain.Calls
import Calibration.Proofs.Chain.Contract
import Calibration.Proofs.BringUp.Namesakes
import Calibration.Proofs.BringUp.Acceptance
import Calibration.Proofs.Roster.Course
import Calibration.Proofs.Roster.Follows
import Calibration.Proofs.BringUp.Discipline
import Calibration.Proofs.Host.Loading
import Calibration.Proofs.Config.Assembly
import Calibration.Proofs.Host.Session
import Calibration.Proofs.Config.Chains
import Calibration.Proofs.Outcome
import Calibration.Proofs.Xml.Attributes
import Calibration.Proofs.Xml.Acceptance
import Calibration.Proofs.Files.Order
import Calibration.Proofs.Host.Modules
import Calibration.Proofs.Demo.Reading
import Calibration.Proofs.Demo.ChosenSensor
import Calibration.Proofs.Files.Saved
import Calibration.Proofs.Item.Reread
import Calibration.Proofs.Dict.Reread
import Calibration.Proofs.Xml.Reformat
import Calibration.Proofs.Dict.History
import Calibration.Proofs.Number.Grammar
import Calibration.Proofs.Item.Grammar
import Calibration.Proofs.Store.Tables
import Calibration.Proofs.Store.Sharing
import Calibration.Proofs.Chain.Code
import Calibration.Proofs.Item.Refusal
import Calibration.Proofs.Builtin.DataSavior
import Calibration.Proofs.Builtin.DictHash
import Calibration.Proofs.BringUp.Recursion
import Calibration.Proofs.BringUp.Loops
import Calibration.Proofs.BringUp.LeastClosure
import Calibration.Proofs.BringUp.Nesting
import Calibration.Proofs.Handle.Record
import Calibration.Proofs.Roster.LocalCalls
import Calibration.Proofs.Scheduler.Rounds
import Calibration.Proofs.Chain.Forwarding
import Calibration.Proofs.Demo.BothOrNone
import Calibration.Proofs.BringUp.Groups
import Calibration.Proofs.Guarded.Registry
import Calibration.Proofs.Guarded.Walk
import Calibration.Proofs.Guarded.Phases
import Calibration.Proofs.Guarded.Safety
import Calibration.Proofs.Host.ItemTypes
