import AstGrammar.Text.Span
import AstGrammar.Text.Quoted
import AstGrammar.Text.CharacterClass
import AstGrammar.Decimal.Shortest
import AstGrammar.Json.Basic
import AstGrammar.Json.Reader
import AstGrammar.Json.Printer
import AstGrammar.TypeExpression
import AstGrammar.Registry
import AstGrammar.GrammarModel
import AstGrammar.Shape
import AstGrammar.Codec.Encode
import AstGrammar.Codec.Decode
import AstGrammar.Edit
import AstGrammar.Rendering
import AstGrammar.Diagnostic.Basic
import AstGrammar.Document.Model
import AstGrammar.AttributeOrder.Basic
import AstGrammar.Files.Tree
import AstGrammar.Session
import AstGrammar.Settings.Basic
import AstGrammar.Toml.Reader
import AstGrammar.Main
import AstGrammar.Proofs.TypeExpression.Subexpressions
import AstGrammar.Proofs.TypeExpression.FirstBreach
import AstGrammar.Proofs.AttributeList
import AstGrammar.Proofs.Edit.Step
import AstGrammar.Proofs.Registry
import AstGrammar.Proofs.Document.Entry
import AstGrammar.Proofs.Document.Collection
import AstGrammar.Proofs.Session.Soundness
import AstGrammar.Proofs.Edit.OrderedMap
import AstGrammar.Proofs.Json.DistinctNames
import AstGrammar.Proofs.Document.Acceptance
import AstGrammar.Proofs.Session.Loading
import AstGrammar.Proofs.Session.Invariant
import AstGrammar.Proofs.TypeExpression.Canonical
import AstGrammar.Proofs.Codec.RoundTrip
import AstGrammar.Proofs.Codec.Canonical
import AstGrammar.Proofs.Session.Reload
import AstGrammar.Proofs.Rendering.Entries
import AstGrammar.Proofs.Session.Properties
import AstGrammar.Proofs.AttributeOrder.WrittenLine
import AstGrammar.Proofs.AttributeOrder.PlacedLine
import AstGrammar.Proofs.AttributeOrder.Sections
import AstGrammar.Proofs.AttributeOrder.Parse
import AstGrammar.Proofs.AttributeOrder.Reorder
import AstGrammar.Proofs.AttributeOrder.Application
import AstGrammar.Proofs.AttributeOrder.Arrangement
import AstGrammar.Proofs.Text.Boundary
import AstGrammar.Proofs.Json.Place
import AstGrammar.Proofs.Json.Stops
import AstGrammar.Proofs.Document.Placement
import AstGrammar.Proofs.Text.Span
import AstGrammar.Proofs.AttributeOrder.Places
import AstGrammar.Proofs.Session.Diagnostics
import AstGrammar.Proofs.Document.Notices
import AstGrammar.Proofs.Codec.Alternatives
import AstGrammar.Proofs.Edit.Frame
import AstGrammar.Proofs.Session.Strictness
import AstGrammar.Proofs.Rendering.Failures
import AstGrammar.Proofs.Session.Printability
import AstGrammar.Proofs.Session.Report
import AstGrammar.Proofs.Files.Tree
import AstGrammar.Proofs.CommandLine.Run
import AstGrammar.Proofs.Edit.Independence
import AstGrammar.Proofs.Edit.Commutation
import AstGrammar.Proofs.Codec.NormalForm
import AstGrammar.Proofs.Codec.Grammar
import AstGrammar.Proofs.AttributeOrder.RepeatedNames
import AstGrammar.Proofs.AttributeOrder.Reports
import AstGrammar.Proofs.AttributeOrder.MalformedLine
import AstGrammar.Proofs.Rendering.EntryText
import AstGrammar.Proofs.Json.RoundTrip
import AstGrammar.Proofs.Rendering.NestedArgument
import AstGrammar.Proofs.Text.LineColumn
import AstGrammar.Proofs.Text.Key
import AstGrammar.Proofs.CommandLine.Assignment
import AstGrammar.Proofs.Codec.Fields
import AstGrammar.Proofs.Document.Rearrangement
import AstGrammar.Proofs.Document.MemberOrder
import AstGrammar.Proofs.Edit.InPlace
