import RefDoc.Comment.Block
import RefDoc.Comment.Code
import RefDoc.Comment.Tags
import RefDoc.Config.Basic
import RefDoc.Config.Comments
import RefDoc.Config.Load
import RefDoc.Desk
import RefDoc.Doclet.Basic
import RefDoc.Doclet.Collection
import RefDoc.Doclet.Json
import RefDoc.Error
import RefDoc.Extension.Catalog
import RefDoc.Extension.Location
import RefDoc.Extension.Plugin
import RefDoc.Extension.Template
import RefDoc.FileTree.Basic
import RefDoc.Hierarchy.Borrowed
import RefDoc.Hierarchy.Copies
import RefDoc.Hierarchy.Inheritance
import RefDoc.Hierarchy.Interface
import RefDoc.Hierarchy.Mixin
import RefDoc.Hierarchy.Passes
import RefDoc.Host.Basic
import RefDoc.Host.Uri
import RefDoc.Json.Basic
import RefDoc.Json.Decode
import RefDoc.Json.Double
import RefDoc.Json.Encode
import RefDoc.Json.Printer
import RefDoc.Json.Reader
import RefDoc.Json.Tree
import RefDoc.Main
import RefDoc.Markdown.Basic
import RefDoc.Markdown.Entity
import RefDoc.Markdown.Html
import RefDoc.Markdown.Inline
import RefDoc.Markdown.Line
import RefDoc.Markdown.Reader
import RefDoc.Markdown.Scan
import RefDoc.Options.Arguments
import RefDoc.Options.Basic
import RefDoc.Parser.Basic
import RefDoc.Parser.Event
import RefDoc.Path
import RefDoc.Pattern.Basic
import RefDoc.Pattern.Bracket
import RefDoc.Pattern.CharSet
import RefDoc.Pattern.Match
import RefDoc.Pattern.Property
import RefDoc.Pattern.Reader
import RefDoc.Pattern.Size
import RefDoc.Plugin.Basic
import RefDoc.Plugin.Builtin
import RefDoc.Proofs.Doclet.Index
import RefDoc.Proofs.Hierarchy.Borrowed
import RefDoc.Proofs.Hierarchy.Steps
import RefDoc.Proofs.Table
import RefDoc.Proofs.Template.Privacy
import RefDoc.Report.Event
import RefDoc.Report.Gate
import RefDoc.Report.Logged
import RefDoc.Run.Basic
import RefDoc.Run.Job
import RefDoc.Run.Pipeline
import RefDoc.Run.Program
import RefDoc.Run.SelfCheck
import RefDoc.Run.Session
import RefDoc.Source.Filter
import RefDoc.Source.Inputs
import RefDoc.Source.Readme
import RefDoc.Source.Scan
import RefDoc.Table
import RefDoc.Template.Basic
import RefDoc.Template.Builtin
import RefDoc.Template.Site
import RefDoc.Template.SymbolTree
import RefDoc.Text.Blank
import RefDoc.Text.CaseVariants
import RefDoc.Text.Category
import RefDoc.Text.Escaped
import RefDoc.Text.Letter
import RefDoc.Text.Markup
import RefDoc.Text.Printable
import RefDoc.Text.Quoted
import RefDoc.Text.Ranges
import RefDoc.Text.Script
import RefDoc.Text.Sentence
import RefDoc.Text.Utf8
import RefDoc.Text.Word
import RefDoc.Toml.Basic
import RefDoc.Toml.Document
import RefDoc.Toml.Scalar
import RefDoc.Toml.Scan
import RefDoc.Tutorial.Basic
import RefDoc.Tutorial.Nesting
import RefDoc.Tutorial.Settings
import RefDoc.Tutorial.Shelf
import RefDoc.Proofs.Desk
import RefDoc.Proofs.Doclet.Naming
import RefDoc.Proofs.Parser.Naming
import RefDoc.Proofs.Hierarchy.Naming
import RefDoc.Proofs.Hierarchy.Appending
import RefDoc.Proofs.Run.History
import RefDoc.Proofs.Run.Frame
import RefDoc.Proofs.Run.Stages
import RefDoc.Proofs.Run.Guarded
import RefDoc.Proofs.Extension.Loading
import RefDoc.Proofs.Parser.Joined
import RefDoc.Proofs.Run.Leading
import RefDoc.Proofs.Run.Pedantic
import RefDoc.Proofs.Run.Following
import RefDoc.Proofs.Run.Session
import RefDoc.Proofs.Run.ExitCode
import RefDoc.Proofs.Tutorial.Claims
import RefDoc.Proofs.Tutorial.Growth
import RefDoc.Proofs.Tutorial.Nesting
import RefDoc.Proofs.Parser.Signals
import RefDoc.Proofs.Parser.Protocol
import RefDoc.Proofs.Parser.Recorded
import RefDoc.Proofs.Text.Split
import RefDoc.Proofs.Text.Markup
import RefDoc.Proofs.Text.Tables
import RefDoc.Proofs.Pattern.Names
import RefDoc.Proofs.Source.Discovery
import RefDoc.Proofs.Json.Shown
import RefDoc.Proofs.Run.SelfCheck
import RefDoc.Proofs.Doclet.Encoding
import RefDoc.Proofs.Json.Spelling
import RefDoc.Proofs.Json.Reading
import RefDoc.Proofs.FileTree.Ways
import RefDoc.Proofs.FileTree.Directories
import RefDoc.Proofs.FileTree.Entries
import RefDoc.Proofs.Template.Writing
import RefDoc.Proofs.Template.Untorn
import RefDoc.Proofs.Circle
import RefDoc.Proofs.Hierarchy.Inheriting
import RefDoc.Proofs.Hierarchy.Circles
import RefDoc.Proofs.Hierarchy.Order
import RefDoc.Proofs.Hierarchy.Slots
import RefDoc.Proofs.Hierarchy.ReadingOrder
import RefDoc.Proofs.Hierarchy.Mixing
import RefDoc.Proofs.Json.Normal
import RefDoc.Proofs.Tutorial.Strays
import RefDoc.Proofs.Json.Open
import RefDoc.Proofs.Options.Encoding
import RefDoc.Proofs.Config.Encoding
import RefDoc.Proofs.Comment.Blocks
import RefDoc.Proofs.Template.Chains
import RefDoc.Proofs.Template.Site
import RefDoc.Proofs.Template.Tutorials
import RefDoc.Proofs.Template.Elements
import RefDoc.Proofs.Comment.Empties
import RefDoc.Proofs.Comment.Joined
import RefDoc.Proofs.Comment.Unnamed
import RefDoc.Proofs.Comment.Entries
import RefDoc.Proofs.Comment.Layout
import RefDoc.Proofs.Parser.Written
import RefDoc.Proofs.Config.Blanking
import RefDoc.Proofs.Config.Commented
import RefDoc.Proofs.Hierarchy.Implementing
import RefDoc.Proofs.Hierarchy.Lending
import RefDoc.Proofs.FileTree.Listing
import RefDoc.Proofs.Source.Scanning
import RefDoc.Proofs.Pattern.Endings
import RefDoc.Proofs.Source.Extracting
import RefDoc.Proofs.Extension.Unresolved
import RefDoc.Proofs.Pattern.Escapes
import RefDoc.Proofs.Pattern.Sets
import RefDoc.Proofs.Pattern.Tokens
import RefDoc.Proofs.Pattern.Alternatives
import RefDoc.Proofs.Pattern.Joined
import RefDoc.Proofs.Run.Matching
import RefDoc.Proofs.Options.Tiers
import RefDoc.Proofs.Run.Severity
import RefDoc.Proofs.Extension.Precedence
import RefDoc.Proofs.FileTree.Alike
import RefDoc.Proofs.Template.Rewording
import RefDoc.Proofs.Text.Sentence
