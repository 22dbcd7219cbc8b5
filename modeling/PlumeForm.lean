import PlumeForm.Calendar
import PlumeForm.CommandLine.Arguments
import PlumeForm.CommandLine.Invocation
import PlumeForm.CommandLine.Run
import PlumeForm.CommandLine.Transcript
import PlumeForm.Decimal.Reader
import PlumeForm.Decimal.Shortest
import PlumeForm.Decimal.Whole
import PlumeForm.Decimal.Writer
import PlumeForm.Endpoint
import PlumeForm.EruptionDate
import PlumeForm.Event
import PlumeForm.Field
import PlumeForm.Files
import PlumeForm.Files.Directory
import PlumeForm.FormError
import PlumeForm.Json.Basic
import PlumeForm.Json.Domain
import PlumeForm.Json.Number
import PlumeForm.Json.Page
import PlumeForm.Json.Reader
import PlumeForm.Json.Record
import PlumeForm.Json.Writer
import PlumeForm.Json5.Number
import PlumeForm.Json5.Reader
import PlumeForm.Json5.Text
import PlumeForm.Listing
import PlumeForm.Main
import PlumeForm.Page.Basic
import PlumeForm.Page.Dispatch
import PlumeForm.Page.Form
import PlumeForm.Page.Frame
import PlumeForm.Page.RunOptions
import PlumeForm.Page.Selection
import PlumeForm.Page.Window
import PlumeForm.Power
import PlumeForm.Proofs.Decimal.Characters
import PlumeForm.Proofs.Decimal.Order
import PlumeForm.Proofs.EruptionDate.Columns
import PlumeForm.Proofs.EruptionDate.Reading
import PlumeForm.Proofs.EruptionDate.Strict
import PlumeForm.Proofs.Listing.RoundTrip
import PlumeForm.Proofs.Listing.Writing
import PlumeForm.Proofs.Page.Actions
import PlumeForm.Proofs.Page.Atomicity
import PlumeForm.Proofs.Page.Effect
import PlumeForm.Proofs.Page.Footprint
import PlumeForm.Proofs.Page.Session
import PlumeForm.Proofs.RunOptions.Agreement
import PlumeForm.Proofs.RunOptions.Plan
import PlumeForm.Proofs.Selection.Plan
import PlumeForm.Proofs.Text.Digits
import PlumeForm.Settings
import PlumeForm.Settings.Convert
import PlumeForm.Settings.Environment
import PlumeForm.Settings.Format
import PlumeForm.Settings.Ini
import PlumeForm.Settings.Loader
import PlumeForm.Settings.Place
import PlumeForm.Settings.Ron.Number
import PlumeForm.Settings.Ron.Reader
import PlumeForm.Settings.Ron.Text
import PlumeForm.Settings.Tree
import PlumeForm.Settings.Yaml.Block
import PlumeForm.Settings.Yaml.Cursor
import PlumeForm.Settings.Yaml.Plain
import PlumeForm.Settings.Yaml.Quoted
import PlumeForm.Settings.Yaml.Reader
import PlumeForm.Settings.Yaml.Scalar
import PlumeForm.Settings.Yaml.Scanner
import PlumeForm.Settings.Yaml.Tag
import PlumeForm.Settings.Yaml.Token
import PlumeForm.Text.Blank
import PlumeForm.Text.Caseless
import PlumeForm.Text.CodeRange
import PlumeForm.Text.CodeRow
import PlumeForm.Text.Combining
import PlumeForm.Text.Composed
import PlumeForm.Text.Hex
import PlumeForm.Text.Lines
import PlumeForm.Text.Mark
import PlumeForm.Text.MarkClass
import PlumeForm.Text.Precomposed
import PlumeForm.Text.Quoted
import PlumeForm.Text.Signed
import PlumeForm.Text.Unprintable
import PlumeForm.Text.Unsigned
import PlumeForm.Text.Utf8
import PlumeForm.Toml.Basic
import PlumeForm.Toml.Moment
import PlumeForm.Toml.Number
import PlumeForm.Toml.Outline
import PlumeForm.Toml.Reader
import PlumeForm.Toml.Text
import PlumeForm.Url.Basic
import PlumeForm.Url.Domain
import PlumeForm.Url.Domain.Direction
import PlumeForm.Url.Domain.Ideograph
import PlumeForm.Url.Domain.Joining
import PlumeForm.Url.Domain.Permitted
import PlumeForm.Url.Domain.Shift
import PlumeForm.Url.Domain.Spelling
import PlumeForm.Url.Host
import PlumeForm.Url.Ipv4
import PlumeForm.Url.Ipv6
import PlumeForm.Url.Path
import PlumeForm.Url.Percent
import PlumeForm.Url.Punycode
import PlumeForm.Url.Reader
import PlumeForm.Url.Writer
import PlumeForm.Volcano
import PlumeForm.VolcanoFile
import PlumeForm.WindowFeatures
import PlumeForm.Proofs.Listing.Faults
import PlumeForm.Proofs.Page.Independence
import PlumeForm.Proofs.Page.Records
import PlumeForm.Proofs.Page.Confinement
import PlumeForm.Proofs.Page.Selector
import PlumeForm.Proofs.Listing.Rejection
import PlumeForm.Proofs.Settings.Names
import PlumeForm.Proofs.Settings.Places
import PlumeForm.Proofs.Settings.Leaves
import PlumeForm.Proofs.Settings.Source
import PlumeForm.Proofs.Settings.Layers
import PlumeForm.Proofs.Settings.VolcanoList
import PlumeForm.Proofs.Settings.Order
import PlumeForm.Proofs.Page.Failures
import PlumeForm.Proofs.CommandLine.Dispatch
import PlumeForm.Proofs.CommandLine.Texts
import PlumeForm.Proofs.Settings.Influence
import PlumeForm.Proofs.Calendar.Days
import PlumeForm.Proofs.Calendar.Instants
import PlumeForm.Proofs.EruptionDate.Canonical
import PlumeForm.Proofs.EruptionDate.Compact
import PlumeForm.Proofs.EruptionDate.Relative
import PlumeForm.Proofs.Page.Validation
import PlumeForm.Proofs.Json.Numbers
import PlumeForm.Proofs.Json.Texts
import PlumeForm.Proofs.Json.Tokens
import PlumeForm.Proofs.Json.RoundTrip
import PlumeForm.Proofs.Json.Removal
import PlumeForm.Proofs.Json.Records
import PlumeForm.Proofs.RunOptions.Repetition
import PlumeForm.Proofs.Decimal.Literals
import PlumeForm.Proofs.Page.Missing
import PlumeForm.Proofs.RunOptions.Faults
import PlumeForm.Proofs.RunOptions.Report
import PlumeForm.Proofs.WindowFeatures.Meaning
import PlumeForm.Proofs.WindowFeatures.RoundTrip
import PlumeForm.Proofs.Selection.Populating
import PlumeForm.Proofs.Decimal.Overflow
import PlumeForm.Proofs.EruptionDate.Stability
import PlumeForm.Proofs.Listing.Soundness
import PlumeForm.Proofs.Listing.Layout
import PlumeForm.Proofs.Page.Journeys
import PlumeForm.Proofs.Endpoint.Targets
import PlumeForm.Proofs.Volcano.Names
import PlumeForm.Proofs.CommandLine.Populate
