import HttpTemplates.Charset.Basic
import HttpTemplates.Charset.Codec
import HttpTemplates.Charset.Coding
import HttpTemplates.Charset.ShiftJis
import HttpTemplates.Client.Authority
import HttpTemplates.Client.Environment
import HttpTemplates.Client.Execution
import HttpTemplates.Client.Fault
import HttpTemplates.Client.Settings
import HttpTemplates.Client.Transport
import HttpTemplates.CollectionFormat
import HttpTemplates.CommandLine.Binding
import HttpTemplates.CommandLine.Invocation
import HttpTemplates.CommandLine.Program
import HttpTemplates.CommandLine.Words
import HttpTemplates.Error
import HttpTemplates.Log.Error
import HttpTemplates.Log.Level
import HttpTemplates.Log.Logger
import HttpTemplates.Log.Message
import HttpTemplates.Log.Record
import HttpTemplates.Log.Timestamp
import HttpTemplates.Main
import HttpTemplates.Number.Binary64
import HttpTemplates.Number.Layout
import HttpTemplates.Number.Numeral
import HttpTemplates.Number.Shortest
import HttpTemplates.Percent
import HttpTemplates.Regex.Basic
import HttpTemplates.Regex.Code
import HttpTemplates.Regex.Matcher
import HttpTemplates.Regex.Reader
import HttpTemplates.Regex.Single
import HttpTemplates.Regex.Syntax
import HttpTemplates.Request.Basic
import HttpTemplates.Request.Fields
import HttpTemplates.Request.Template
import HttpTemplates.Request.Timeout
import HttpTemplates.Template.Basic
import HttpTemplates.Template.Body
import HttpTemplates.Template.Expression
import HttpTemplates.Template.Header
import HttpTemplates.Template.Query
import HttpTemplates.Template.Token
import HttpTemplates.Template.Uri
import HttpTemplates.Text.Bands
import HttpTemplates.Text.Basic
import HttpTemplates.Text.Blank
import HttpTemplates.Text.Casing
import HttpTemplates.Text.CharacterName
import HttpTemplates.Text.CharacterName.Aliases
import HttpTemplates.Text.CharacterName.Alphabets
import HttpTemplates.Text.CharacterName.Asian
import HttpTemplates.Text.CharacterName.Historic
import HttpTemplates.Text.CharacterName.Pictures
import HttpTemplates.Text.CharacterName.Symbols
import HttpTemplates.Text.Digit
import HttpTemplates.Text.Identifier
import HttpTemplates.Text.Printable
import HttpTemplates.Text.Quoted
import HttpTemplates.Text.Word
import HttpTemplates.Value.Basic
import HttpTemplates.Value.Display
import HttpTemplates.Value.Json
import HttpTemplates.Proofs.Success
import HttpTemplates.Proofs.Charset.AsciiCompatible
import HttpTemplates.Proofs.Charset.Coding
import HttpTemplates.Proofs.Percent.Escape
import HttpTemplates.Proofs.Percent.Encoding
import HttpTemplates.Proofs.Percent.Disguise
import HttpTemplates.Proofs.Percent.Shortcut
import HttpTemplates.Proofs.Percent.Decoding
import HttpTemplates.Proofs.Percent.RoundTrip
import HttpTemplates.Proofs.Percent.Idempotence
import HttpTemplates.Proofs.Text.Splitting
import HttpTemplates.Proofs.Template.Expansion
import HttpTemplates.Proofs.Template.Rendering
import HttpTemplates.Proofs.Template.Elements
import HttpTemplates.Proofs.Template.Body
import HttpTemplates.Proofs.Template.Constraint
import HttpTemplates.Proofs.Template.Span
import HttpTemplates.Proofs.Template.ExpressionText
import HttpTemplates.Proofs.Template.Segment
import HttpTemplates.Proofs.Template.Seam
import HttpTemplates.Proofs.Template.Tokenization
import HttpTemplates.Proofs.Template.Recognition
import HttpTemplates.Proofs.Template.Rejection
import HttpTemplates.Proofs.Template.Envelope
import HttpTemplates.Proofs.Template.NormalForm
import HttpTemplates.Proofs.Template.Unbound
import HttpTemplates.Proofs.Template.Slashes
import HttpTemplates.Proofs.Query.Exploded
import HttpTemplates.Proofs.Query.Join
import HttpTemplates.Proofs.Query.RoundTrip
import HttpTemplates.Proofs.Query.Literal
import HttpTemplates.Proofs.Query.Elements
import HttpTemplates.Proofs.Query.Entries
import HttpTemplates.Proofs.Uri.Division
import HttpTemplates.Proofs.Uri.Append
import HttpTemplates.Proofs.Uri.Delimiters
import HttpTemplates.Proofs.Uri.Expressions
import HttpTemplates.Proofs.Uri.WholeText
import HttpTemplates.Proofs.Uri.Root
import HttpTemplates.Proofs.Request.Building
import HttpTemplates.Proofs.Request.Dependence
import HttpTemplates.Proofs.Request.Ledger
import HttpTemplates.Proofs.Request.Accumulation
import HttpTemplates.Proofs.Request.Resolution
import HttpTemplates.Proofs.Request.Authority
import HttpTemplates.Proofs.Uri.Path
import HttpTemplates.Proofs.Request.Path
import HttpTemplates.Proofs.Request.SlashSetting
import HttpTemplates.Proofs.Uri.Marks
import HttpTemplates.Proofs.Uri.Characters
import HttpTemplates.Proofs.Request.UrlParts
import HttpTemplates.Proofs.Request.LiteralQuery
import HttpTemplates.Proofs.Request.HeaderValue
import HttpTemplates.Proofs.Request.InlineQuery
import HttpTemplates.Proofs.Header.Expansion
import HttpTemplates.Proofs.Header.Unresolved
import HttpTemplates.Proofs.Text.LetterCase
import HttpTemplates.Proofs.Request.Headers
import HttpTemplates.Proofs.Client.Headers
import HttpTemplates.Proofs.Log.Message
import HttpTemplates.Proofs.Client.Execution
import HttpTemplates.Proofs.Percent.Parts
import HttpTemplates.Proofs.Query.Append
import HttpTemplates.Proofs.Query.Pure
import HttpTemplates.Proofs.Client.Settings
import HttpTemplates.Proofs.CommandLine.Binding
