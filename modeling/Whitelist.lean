import Whitelist.Action.Basic
import Whitelist.Action.Editor
import Whitelist.CommandLine.Command
import Whitelist.CommandLine.Help
import Whitelist.CommandLine.Program
import Whitelist.CommandLine.Run
import Whitelist.CommandLine.Switch
import Whitelist.Condition.Check
import Whitelist.Condition.Token
import Whitelist.Console.Browse
import Whitelist.Console.Gateway
import Whitelist.Console.Guard
import Whitelist.Fault
import Whitelist.Field
import Whitelist.Json.Basic
import Whitelist.Json.Printer
import Whitelist.Json.Reader
import Whitelist.Lease
import Whitelist.Number.Decimal
import Whitelist.Number.Double
import Whitelist.Number.Word
import Whitelist.Page
import Whitelist.Remote.Client
import Whitelist.Remote.Store
import Whitelist.Remote.Transport
import Whitelist.Remote.Url
import Whitelist.Rest
import Whitelist.Rule.Basic
import Whitelist.Rule.Form
import Whitelist.Rule.Group
import Whitelist.Rule.Query
import Whitelist.Scope
import Whitelist.Settings.Basic
import Whitelist.Settings.Environment
import Whitelist.Settings.File
import Whitelist.Settings.Sources
import Whitelist.Settings.Toml
import Whitelist.Settings.Tree
import Whitelist.Settings.Value
import Whitelist.Settings.Yaml
import Whitelist.Store.Basic
import Whitelist.Store.Clock
import Whitelist.Store.Memory
import Whitelist.Store.Scripted
import Whitelist.Table
import Whitelist.Text.Ascii
import Whitelist.Text.Blank
import Whitelist.Text.Cut
import Whitelist.Text.Escape
import Whitelist.Text.Hidden
import Whitelist.Text.Numeral
import Whitelist.Text.Quoted
import Whitelist.Text.Next
import Whitelist.Wire.Action
import Whitelist.Wire.Envelope
import Whitelist.Wire.Layout
import Whitelist.Wire.Page
import Whitelist.Wire.Rule
import Whitelist.Main
import Whitelist.Proofs.Action.Rows
import Whitelist.Proofs.Action.Submission
import Whitelist.Proofs.Action.TimeOfDay
import Whitelist.Proofs.Attempt
import Whitelist.Proofs.Table
import Whitelist.Proofs.Page.Division
import Whitelist.Proofs.Lease
import Whitelist.Proofs.Lease.Live
import Whitelist.Proofs.Lease.Run
import Whitelist.Proofs.Lease.Views
import Whitelist.Proofs.Condition.Grammar
import Whitelist.Proofs.Condition.Writing
import Whitelist.Proofs.Rule.Form
import Whitelist.Proofs.Rule.ItemText
import Whitelist.Proofs.Store.Ids
import Whitelist.Proofs.Store.LockState
import Whitelist.Proofs.Store.Outcome
import Whitelist.Proofs.Store.LostUpdate
import Whitelist.Proofs.Store.Ownership
import Whitelist.Proofs.Store.Refusal
import Whitelist.Proofs.Store.Run
import Whitelist.Proofs.Store.Frame
import Whitelist.Proofs.Store.Freshness
import Whitelist.Proofs.Store.Lifetime
import Whitelist.Proofs.Console.Gateway
import Whitelist.Proofs.Console.Browse
import Whitelist.Proofs.Console.Normalized
import Whitelist.Proofs.Store.Browse
import Whitelist.Proofs.Console.Options
import Whitelist.Proofs.Console.OptionsWalk
import Whitelist.Proofs.Store.Visibility
import Whitelist.Proofs.Store.Options
import Whitelist.Proofs.Store.Creation
import Whitelist.Proofs.Store.Content
import Whitelist.Proofs.Store.Names
import Whitelist.Proofs.Store.Eviction
import Whitelist.Proofs.Store.GlobalCode
import Whitelist.Proofs.Store.Writes
import Whitelist.Proofs.Text.Ascii
import Whitelist.Proofs.Text.Cut
import Whitelist.Proofs.Text.Numeral
import Whitelist.Proofs.Json.Reading
import Whitelist.Proofs.Json.Reordering
import Whitelist.Proofs.Json.RoundTrip
import Whitelist.Proofs.Wire.Alike
import Whitelist.Proofs.Wire.Fields
import Whitelist.Proofs.Wire.RoundTrip
import Whitelist.Proofs.Wire.Siblings
import Whitelist.Proofs.Wire.Variation
import Whitelist.Proofs.Action.Reload
import Whitelist.Proofs.Remote.Dialog
import Whitelist.Proofs.Remote.Session
import Whitelist.Proofs.Remote.Url
import Whitelist.Proofs.Remote.Server
import Whitelist.Proofs.Remote.Agreement
import Whitelist.Proofs.Remote.Attempts
import Whitelist.Proofs.Remote.Endpoint
import Whitelist.Proofs.Remote.Failover
import Whitelist.Proofs.Remote.SilentLogin
import Whitelist.Proofs.Remote.Renewal
import Whitelist.Proofs.Remote.Faults
import Whitelist.Proofs.Transcript
import Whitelist.Proofs.CommandLine.Changes
import Whitelist.Proofs.Store.Groups
import Whitelist.Proofs.Store.Selection
import Whitelist.Proofs.Store.Listing
import Whitelist.Proofs.Remote.Resending
import Whitelist.Proofs.Remote.GrabAnswer
import Whitelist.Proofs.Remote.FreshToken
import Whitelist.Proofs.Console.DrillDown
