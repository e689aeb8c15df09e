import Logline.Addin
import Logline.Addin.DateTime
import Logline.Calendar.Date
import Logline.Calendar.Fields
import Logline.Calendar.Format
import Logline.Calendar.Instant
import Logline.Calendar.Reading
import Logline.Command.Arguments
import Logline.Command.Filter
import Logline.Command.Program
import Logline.Command.Run
import Logline.Config
import Logline.Error
import Logline.Files
import Logline.Json
import Logline.Key
import Logline.Log
import Logline.Log.Line
import Logline.Main
import Logline.OrderedMap
import Logline.Parser.Basic
import Logline.Parser.Cache
import Logline.Parser.Kind
import Logline.Parser.LineParser
import Logline.Pattern
import Logline.Pattern.CharClass
import Logline.Pattern.Node
import Logline.Pattern.Reader
import Logline.Proofs.Addin.DateTime
import Logline.Proofs.Addin.Setup
import Logline.Proofs.Addin.Zones
import Logline.Proofs.AttributeCalls
import Logline.Proofs.Attributes
import Logline.Proofs.Calendar.Date
import Logline.Proofs.Calendar.Fields
import Logline.Proofs.Calendar.Format
import Logline.Proofs.Calendar.Instant
import Logline.Proofs.Calendar.Stamp
import Logline.Proofs.Calendar.Zones
import Logline.Proofs.Command.Configuration
import Logline.Proofs.Command.Run
import Logline.Proofs.Config
import Logline.Proofs.Deletion
import Logline.Proofs.Edits
import Logline.Proofs.ForeignKeys
import Logline.Proofs.Json
import Logline.Proofs.KeyForms
import Logline.Proofs.Log.Access
import Logline.Proofs.Log.Loading
import Logline.Proofs.OrderedMap
import Logline.Proofs.Parser.Attempts
import Logline.Proofs.Parser.Basic.Decoding
import Logline.Proofs.Parser.Basic.Forms
import Logline.Proofs.Parser.Basic.Records
import Logline.Proofs.Parser.Cache
import Logline.Proofs.Parser.CacheHistory
import Logline.Proofs.Parser.Compilation
import Logline.Proofs.Parser.Confinement
import Logline.Proofs.Parser.Definition
import Logline.Proofs.Parser.Depth
import Logline.Proofs.Parser.Evaluation
import Logline.Proofs.Parser.Freeze
import Logline.Proofs.Parser.Life
import Logline.Proofs.Parser.Lifecycle
import Logline.Proofs.Parser.Reordering
import Logline.Proofs.Parser.Retry
import Logline.Proofs.Parser.Stages
import Logline.Proofs.Parser.Steps
import Logline.Proofs.Pattern.Anchored
import Logline.Proofs.Pattern.Greedy
import Logline.Proofs.Pattern.Groups
import Logline.Proofs.Pattern.Matches
import Logline.Proofs.ReadBack
import Logline.Proofs.Removal
import Logline.Proofs.Rule
import Logline.Proofs.Rule.Merging
import Logline.Proofs.Rule.Shapes
import Logline.Proofs.RuleSet
import Logline.Proofs.Sandbox.Bindings
import Logline.Proofs.Sandbox.Coherence
import Logline.Proofs.Sandbox.Depth
import Logline.Proofs.Sandbox.Path
import Logline.Proofs.Sandbox.Trace
import Logline.Proofs.Statement
import Logline.Proofs.Table
import Logline.Proofs.Text.Utf8
import Logline.Proofs.Value
import Logline.Record
import Logline.Rule
import Logline.RuleSet
import Logline.Sandbox.Code
import Logline.Sandbox.Context
import Logline.Sandbox.Run
import Logline.Sandbox.Surface
import Logline.Script
import Logline.Table
import Logline.Text.Blank
import Logline.Text.Case
import Logline.Text.Letter
import Logline.Text.Quoted
import Logline.Text.Ranges
import Logline.Text.Utf8
import Logline.Text.Visible
import Logline.Text.Words
import Logline.Toml.Document
import Logline.Toml.Item
import Logline.Toml.Scalar
import Logline.Toml.Text
import Logline.Value
