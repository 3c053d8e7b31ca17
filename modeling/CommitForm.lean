import CommitForm.Command.Arguments
import CommitForm.Command.Assignment
import CommitForm.Command.Notice
import CommitForm.Command.Run
import CommitForm.Document.Mismatch
import CommitForm.Document.Shape
import CommitForm.Files
import CommitForm.Form.Basic
import CommitForm.Form.Field
import CommitForm.Form.File
import CommitForm.Form.Input
import CommitForm.Form.Json
import CommitForm.Form.Problem
import CommitForm.Form.ReadError
import CommitForm.Form.Resolution
import CommitForm.Form.Shape
import CommitForm.Form.Template
import CommitForm.Form.Yaml
import CommitForm.Json.Cursor
import CommitForm.Json.Reader
import CommitForm.Json.Scalar
import CommitForm.Json.Skip
import CommitForm.Json.Tree
import CommitForm.Main
import CommitForm.NameMap
import CommitForm.Number.Binary64
import CommitForm.Number.Decimal
import CommitForm.Number.Literal
import CommitForm.Options
import CommitForm.Pattern.Footprint
import CommitForm.Pattern.Reader
import CommitForm.Pattern.Regex
import CommitForm.Pattern.Search
import CommitForm.Pattern.Setting
import CommitForm.Pattern.Tree
import CommitForm.Repository
import CommitForm.Settings
import CommitForm.Text.Between
import CommitForm.Text.Blank
import CommitForm.Text.Excerpt
import CommitForm.Text.Lines
import CommitForm.Text.Quoted
import CommitForm.Text.Size
import CommitForm.Unicode.Age
import CommitForm.Unicode.CaseFold
import CommitForm.Unicode.Category
import CommitForm.Unicode.CharSet
import CommitForm.Unicode.Folding
import CommitForm.Unicode.Property
import CommitForm.Unicode.Script
import CommitForm.Unicode.ScriptExtension
import CommitForm.Unicode.Segmentation
import CommitForm.Unicode.Sets
import CommitForm.Values
import CommitForm.When.Clause
import CommitForm.When.Evaluation
import CommitForm.When.Expr
import CommitForm.When.Lexer
import CommitForm.When.Parser
import CommitForm.When.Token
import CommitForm.When.Value
import CommitForm.Yaml.Core
import CommitForm.Yaml.Cursor
import CommitForm.Yaml.Event
import CommitForm.Yaml.Node
import CommitForm.Yaml.Reader
import CommitForm.Yaml.Scalar
import CommitForm.Yaml.Tag
import CommitForm.Yaml.Token
import CommitForm.Yaml.Tokens
import CommitForm.Proofs.Grammar
import CommitForm.Proofs.Openings
import CommitForm.Proofs.Parser
import CommitForm.Proofs.Lexer
import CommitForm.Proofs.FailClosed
import CommitForm.Proofs.Placeholders
import CommitForm.Proofs.Substitution
import CommitForm.Proofs.Names
import CommitForm.Proofs.Relevance
import CommitForm.Proofs.Conditions
import CommitForm.Proofs.Loading
import CommitForm.Proofs.Faults
import CommitForm.Proofs.Literals
import CommitForm.Proofs.Written
import CommitForm.Proofs.Naming
import CommitForm.Proofs.Data
import CommitForm.Proofs.Places
import CommitForm.Proofs.Kinds
import CommitForm.Proofs.JsonText
import CommitForm.Proofs.JsonParts
import CommitForm.Proofs.Decoding
import CommitForm.Proofs.JsonContent
import CommitForm.Proofs.JsonReading
import CommitForm.Proofs.RoundTrip
import CommitForm.Proofs.YamlScalars
import CommitForm.Proofs.YamlScanner
import CommitForm.Proofs.JsonTokens
import CommitForm.Proofs.JsonNodes
import CommitForm.Proofs.JsonInYaml
import CommitForm.Proofs.Missing
import CommitForm.Proofs.Viability
import CommitForm.Proofs.EarliestFault
import CommitForm.Proofs.LexicalFault
import CommitForm.Proofs.Validation
import CommitForm.Proofs.Grouping
import CommitForm.Proofs.Numerals
import CommitForm.Proofs.Rounding
import CommitForm.Proofs.RadixNumbers
import CommitForm.Proofs.Matching
import CommitForm.Proofs.PatternEscapes
import CommitForm.Proofs.PatternClasses
import CommitForm.Proofs.PatternCounts
import CommitForm.Proofs.PatternGroups
import CommitForm.Proofs.Sticky
import CommitForm.Proofs.Operands
import CommitForm.Proofs.Equality
import CommitForm.Proofs.Ordering
import CommitForm.Proofs.Occurrences
import CommitForm.Proofs.EmptyLines
import CommitForm.Proofs.Input
import CommitForm.Proofs.Assignments
import CommitForm.Proofs.Excerpts
import CommitForm.Proofs.ByteOrder
import CommitForm.Proofs.Branches
import CommitForm.Proofs.Rooms
import CommitForm.Proofs.Reuse
import CommitForm.Proofs.Carets
import CommitForm.Proofs.Settling
import CommitForm.Proofs.Slashes
import CommitForm.Proofs.Heights
import CommitForm.Proofs.Bookkeeping
import CommitForm.Proofs.JoinedLines
