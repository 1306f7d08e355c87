import Conformity.Assertion
import Conformity.Cache.Basic
import Conformity.Cache.Obtain
import Conformity.Command.Arguments
import Conformity.Command.Basic
import Conformity.Command.Session
import Conformity.Config.Basic
import Conformity.Config.File
import Conformity.Console.Grid
import Conformity.Console.Styled
import Conformity.Data.Checked
import Conformity.Data.Form
import Conformity.Data.Json
import Conformity.Data.Scalar
import Conformity.Data.Shown
import Conformity.Data.Value
import Conformity.Decimal.Double
import Conformity.Decimal.Shortest
import Conformity.Diagnostic.Basic
import Conformity.Diagnostic.Readable
import Conformity.Digest
import Conformity.Engine.Basic
import Conformity.Engine.Processor
import Conformity.Engine.Scripted
import Conformity.Failure
import Conformity.Finding
import Conformity.Finding.Report
import Conformity.Impact.Warning
import Conformity.Impact.Similar
import Conformity.Injection
import Conformity.Main
import Conformity.Markup.ByteTables
import Conformity.Markup.Charset
import Conformity.Markup.Content
import Conformity.Markup.Declarations
import Conformity.Markup.Edit
import Conformity.Markup.Faithful
import Conformity.Markup.Guarded
import Conformity.Markup.Heading
import Conformity.Markup.Lexical
import Conformity.Markup.NameCharacter
import Conformity.Markup.Printed
import Conformity.Markup.Resolved
import Conformity.Markup.Syntax
import Conformity.Markup.Tree
import Conformity.Override
import Conformity.Present
import Conformity.Profile.Basic
import Conformity.Profile.Identifier
import Conformity.Profile.Inheritance
import Conformity.Profile.Record
import Conformity.Profile.Registry
import Conformity.Profile.Store
import Conformity.Regex.Escape
import Conformity.Regex.Expr
import Conformity.Regex.Fault
import Conformity.Regex.Match
import Conformity.Regex.Parser
import Conformity.Regex.Token
import Conformity.Reload.Orchestrator
import Conformity.RuleSet.Artifact
import Conformity.RuleSet.Parameters
import Conformity.RuleSet.Service
import Conformity.Schema.Overridden
import Conformity.Schema.Service
import Conformity.Slot
import Conformity.Storage.Basic
import Conformity.Storage.Path
import Conformity.Suppression.Applied
import Conformity.Suppression.Rule
import Conformity.Table
import Conformity.Text.Base64
import Conformity.Text.Blank
import Conformity.Text.CharName
import Conformity.Text.Comment
import Conformity.Text.Cut
import Conformity.Text.Identifier
import Conformity.Text.Numeral
import Conformity.Text.Lowercase
import Conformity.Text.Order
import Conformity.Text.Printable
import Conformity.Text.Quoted
import Conformity.Text.Ranges
import Conformity.Text.Uri
import Conformity.Text.Utf8
import Conformity.Text.Width
import Conformity.Workspace.Basic
import Conformity.Workspace.Validation
import Conformity.Yaml.Calendar
import Conformity.Yaml.Character
import Conformity.Yaml.Document
import Conformity.Yaml.Fault
import Conformity.Yaml.Kind
import Conformity.Yaml.Node
import Conformity.Yaml.Number
import Conformity.Yaml.Page
import Conformity.Yaml.Printed
import Conformity.Yaml.Token
import Conformity.Yaml.Token.Directive
import Conformity.Yaml.Token.Scalar
import Conformity.Yaml.Token.Stream
import Conformity.Proofs.Cache.Invariant
import Conformity.Proofs.Cache.Source
import Conformity.Proofs.Cache.Calm
import Conformity.Proofs.Cache.Sharing
import Conformity.Proofs.Cache.Freshness
import Conformity.Proofs.Override.Text
import Conformity.Proofs.Text.Order
import Conformity.Proofs.Text.Trim
import Conformity.Proofs.Schema.OverrideKey
import Conformity.Proofs.Text.Utf8
import Conformity.Proofs.Data.Json
import Conformity.Proofs.Assertion.Fingerprint
import Conformity.Proofs.Injection.Checks
import Conformity.Proofs.Injection.Writable
import Conformity.Proofs.Work
import Conformity.Proofs.RuleSet.Callers
import Conformity.Proofs.Cache.Alone
import Conformity.Proofs.RuleSet.Alone
import Conformity.Proofs.Table
import Conformity.Proofs.Data.Misfit
import Conformity.Proofs.Data.Form
import Conformity.Proofs.Data.Bare
import Conformity.Proofs.Data.Entries
import Conformity.Proofs.Storage.Disk
import Conformity.Proofs.Profile.Chain
import Conformity.Proofs.Profile.Resolver
import Conformity.Proofs.Profile.Record
import Conformity.Proofs.Profile.Contents
import Conformity.Proofs.Profile.Document
import Conformity.Proofs.Profile.Reload
import Conformity.Proofs.Profile.Edit
import Conformity.Proofs.Profile.Bare
import Conformity.Proofs.Profile.Removal
import Conformity.Proofs.Profile.Editors
import Conformity.Proofs.Profile.Exclusion
import Conformity.Proofs.Profile.Latest
import Conformity.Proofs.Profile.Globals
import Conformity.Proofs.Profile.RoundTrip
import Conformity.Proofs.Profile.Change
import Conformity.Proofs.Profile.Frame
import Conformity.Proofs.RuleSet.Built
import Conformity.Proofs.Workspace.Calls
import Conformity.Proofs.Workspace.Audits
import Conformity.Proofs.RuleSet.Isolation
import Conformity.Proofs.Workspace.Alone
import Conformity.Proofs.Workspace.Globals
import Conformity.Proofs.Workspace.Validation
import Conformity.Proofs.Regex.Literal
import Conformity.Proofs.Suppression.Meaning
import Conformity.Proofs.Suppression.Saved
import Conformity.Proofs.Reload.Callers
import Conformity.Proofs.Reload.Course
import Conformity.Proofs.Reload.Turns
import Conformity.Proofs.Override.Merge
import Conformity.Proofs.Suppression.Monotone
import Conformity.Proofs.Schema.Twice
import Conformity.Proofs.Profile.Nearest
import Conformity.Proofs.Cache.History
import Conformity.Proofs.Cache.Recency
import Conformity.Proofs.Storage.Frame
import Conformity.Proofs.Impact.Broken
import Conformity.Proofs.RuleSet.Settable
import Conformity.Proofs.Once
import Conformity.Proofs.Markup.Joined
import Conformity.Proofs.Markup.Attribute
import Conformity.Proofs.Schema.Bounds
import Conformity.Proofs.Markup.Scope
import Conformity.Proofs.RuleSet.Exposed
import Conformity.Proofs.Text.Distance
import Conformity.Proofs.Text.Hyphens
import Conformity.Proofs.Text.Comment
import Conformity.Proofs.Storage.Confinement
import Conformity.Proofs.Markup.Comment
import Conformity.Proofs.Markup.Heading
import Conformity.Proofs.Markup.Charset
import Conformity.Proofs.Markup.LeadingComment
import Conformity.Proofs.Injection.Pattern
import Conformity.Proofs.Impact.Similar
import Conformity.Proofs.Suppression.Entries
import Conformity.Proofs.Markup.Places
import Conformity.Proofs.Finding.Report
import Conformity.Proofs.Profile.Section
import Conformity.Proofs.Markup.Label
import Conformity.Proofs.Finding.Unreadable
import Conformity.Proofs.Workspace.Unserved
import Conformity.Proofs.Diagnostic.Qualified
import Conformity.Proofs.Diagnostic.Value
import Conformity.Proofs.Diagnostic.Forms
import Conformity.Proofs.Workspace.Trees
import Conformity.Proofs.Workspace.Renewal
import Conformity.Proofs.Workspace.Harmless
import Conformity.Proofs.Command.Shown
