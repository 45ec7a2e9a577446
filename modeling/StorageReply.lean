import StorageReply.Act
import StorageReply.Calendar
import StorageReply.CaseMap
import StorageReply.Config.Environment
import StorageReply.Config.Merge
import StorageReply.Config.Settings
import StorageReply.Config.SettingsFile
import StorageReply.Container.Attributes
import StorageReply.Container.Datum
import StorageReply.Container.Properties
import StorageReply.Container.Record
import StorageReply.Container.Response
import StorageReply.Failure
import StorageReply.Folder
import StorageReply.Headers.Readers
import StorageReply.Headers.Response
import StorageReply.Headers.View
import StorageReply.Issue
import StorageReply.Json.Reader
import StorageReply.Json.Tree
import StorageReply.Json.Writer
import StorageReply.Lease
import StorageReply.Log.Levels
import StorageReply.Log.Line
import StorageReply.Log.Logbook
import StorageReply.Log.LoggerTree
import StorageReply.Log.Record
import StorageReply.Log.Redaction
import StorageReply.Log.Rotation
import StorageReply.Log.Setup
import StorageReply.Log.Size
import StorageReply.Log.Template
import StorageReply.Number.Binary64
import StorageReply.Number.Decimal
import StorageReply.Number.Format
import StorageReply.Number.Fraction
import StorageReply.Number.Numeral
import StorageReply.Service.Build
import StorageReply.Service.Field
import StorageReply.Service.Properties
import StorageReply.Service.Stats
import StorageReply.Session.Basic
import StorageReply.Session.Command
import StorageReply.Session.Configuration
import StorageReply.Session.Replies
import StorageReply.StorageUri
import StorageReply.Text.Base64
import StorageReply.Text.Blank
import StorageReply.Text.Case
import StorageReply.Text.CaseTable
import StorageReply.Text.CodePoint
import StorageReply.Text.Digit
import StorageReply.Text.Pieces
import StorageReply.Text.Printable
import StorageReply.Text.Quoted
import StorageReply.Text.Utf8
import StorageReply.Timestamp.Iso
import StorageReply.Timestamp.Rfc1123
import StorageReply.Uri.Basic
import StorageReply.Uri.Percent
import StorageReply.Validation.Checked
import StorageReply.Validation.Lax
import StorageReply.Value.Basic
import StorageReply.Value.Display
import StorageReply.Value.Pairs
import StorageReply.Xml.CodePage
import StorageReply.Xml.CodePage.Dos
import StorageReply.Xml.CodePage.Iso8859
import StorageReply.Xml.CodePage.Macintosh
import StorageReply.Xml.CodePage.Regional
import StorageReply.Xml.CodePage.Windows
import StorageReply.Xml.Doctype
import StorageReply.Xml.Document
import StorageReply.Xml.Element
import StorageReply.Xml.Encoding
import StorageReply.Xml.Name
import StorageReply.Xml.Namespace
import StorageReply.Xml.Path
import StorageReply.Xml.Reference
import StorageReply.Xml.Token
import StorageReply.Xml.Walk
import StorageReply.Xml.Writer
import StorageReply.Yaml.Block
import StorageReply.Yaml.Cursor
import StorageReply.Yaml.Kind
import StorageReply.Yaml.Layout
import StorageReply.Yaml.Node
import StorageReply.Yaml.Plain
import StorageReply.Yaml.Property
import StorageReply.Yaml.Quoted
import StorageReply.Yaml.Reader
import StorageReply.Yaml.Scalar
import StorageReply.Yaml.Token
import StorageReply.Proofs.Calendar.Days
import StorageReply.Proofs.Config.KeyPaths
import StorageReply.Proofs.Config.Merge
import StorageReply.Proofs.Config.Precedence
import StorageReply.Proofs.Container.Changes
import StorageReply.Proofs.Container.Replies
import StorageReply.Proofs.Folder.Paths
import StorageReply.Proofs.Headers.CaseMaps
import StorageReply.Proofs.Headers.Forms
import StorageReply.Proofs.Headers.Metadata
import StorageReply.Proofs.Headers.Transport
import StorageReply.Proofs.Headers.Views
import StorageReply.Proofs.Json.Numbers
import StorageReply.Proofs.Json.RoundTrip
import StorageReply.Proofs.Json.Strings
import StorageReply.Proofs.Lease.Words
import StorageReply.Proofs.Log.Ancestors
import StorageReply.Proofs.Log.Calls
import StorageReply.Proofs.Log.Decoded
import StorageReply.Proofs.Log.Deliveries
import StorageReply.Proofs.Log.Directives
import StorageReply.Proofs.Log.Filling
import StorageReply.Proofs.Log.GivenLevels
import StorageReply.Proofs.Log.Handlers
import StorageReply.Proofs.Log.Outlets
import StorageReply.Proofs.Log.Parts
import StorageReply.Proofs.Log.Rotations
import StorageReply.Proofs.Log.Setups
import StorageReply.Proofs.Log.Shown
import StorageReply.Proofs.Log.Sizes
import StorageReply.Proofs.Log.Stamps
import StorageReply.Proofs.Number.Numerals
import StorageReply.Proofs.Number.Overflow
import StorageReply.Proofs.Number.Rounding
import StorageReply.Proofs.Number.Shortest
import StorageReply.Proofs.Redaction.Authorization
import StorageReply.Proofs.Redaction.Idempotence
import StorageReply.Proofs.Redaction.Markers
import StorageReply.Proofs.Redaction.Matching
import StorageReply.Proofs.Redaction.Messages
import StorageReply.Proofs.Redaction.Precision
import StorageReply.Proofs.Redaction.Secrecy
import StorageReply.Proofs.Redaction.Templates
import StorageReply.Proofs.Service.Content
import StorageReply.Proofs.Service.Documents
import StorageReply.Proofs.Service.Edits
import StorageReply.Proofs.Service.Fields
import StorageReply.Proofs.Service.Presentation
import StorageReply.Proofs.Service.Readings
import StorageReply.Proofs.Service.Refusals
import StorageReply.Proofs.Service.Texts
import StorageReply.Proofs.Service.Trees
import StorageReply.Proofs.Session.Frames
import StorageReply.Proofs.Session.Histories
import StorageReply.Proofs.Session.Identifiers
import StorageReply.Proofs.Session.Loading
import StorageReply.Proofs.Session.Logging
import StorageReply.Proofs.Session.Reloading
import StorageReply.Proofs.Session.Remains
import StorageReply.Proofs.Session.Usability
import StorageReply.Proofs.Session.Verdicts
import StorageReply.Proofs.Text.Blanks
import StorageReply.Proofs.Text.LowerCase
import StorageReply.Proofs.Timestamp.Places
import StorageReply.Proofs.Timestamp.Range
import StorageReply.Proofs.Timestamp.Written
import StorageReply.Proofs.Timestamp.Zones
import StorageReply.Proofs.Uri.Appending
import StorageReply.Proofs.Uri.Containers
import StorageReply.Proofs.Uri.Endpoints
import StorageReply.Proofs.Uri.Locations
import StorageReply.Proofs.Uri.Texts
import StorageReply.Proofs.Validation.Accepted
import StorageReply.Proofs.Value.Equality
import StorageReply.Proofs.Value.Numerals
import StorageReply.Proofs.Value.Pairs
import StorageReply.Proofs.Xml.Children
import StorageReply.Proofs.Xml.Legible
import StorageReply.Proofs.Xml.LineBreaks
import StorageReply.Proofs.Xml.Reading
import StorageReply.Proofs.Xml.Tokens
