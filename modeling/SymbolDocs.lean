import SymbolDocs.Command
import SymbolDocs.Config
import SymbolDocs.Docstring.HelpPage
import SymbolDocs.Docstring.Parse
import SymbolDocs.Enrichment
import SymbolDocs.Html.Parse
import SymbolDocs.Inventory.File
import SymbolDocs.KeyBadges
import SymbolDocs.LanguageReference
import SymbolDocs.Lookup.Resolve
import SymbolDocs.Main
import SymbolDocs.Markdown.Writer
import SymbolDocs.Page.Section
import SymbolDocs.Page.Summary
import SymbolDocs.Stub.Index
import SymbolDocs.Symbol.Basic
import SymbolDocs.Symbol.Encoding
import SymbolDocs.Proofs.Docstring.LineEndings
import SymbolDocs.Proofs.Inventory.Body
import SymbolDocs.Proofs.Inventory.Canonical
import SymbolDocs.Proofs.Inventory.Chosen
import SymbolDocs.Proofs.Inventory.Lookup
import SymbolDocs.Proofs.Inventory.RoundTrip
import SymbolDocs.Proofs.Inventory.StreamEnd
import SymbolDocs.Proofs.Lookup.Cut
import SymbolDocs.Proofs.Lookup.History
import SymbolDocs.Proofs.Lookup.HomePage
import SymbolDocs.Proofs.Lookup.Merged
import SymbolDocs.Proofs.Lookup.Repeat
import SymbolDocs.Proofs.Lookup.Roots
import SymbolDocs.Proofs.Lookup.Secure
import SymbolDocs.Proofs.Lookup.Sharing
import SymbolDocs.Proofs.Lookup.StoreKey
import SymbolDocs.Proofs.Lookup.Tiers
import SymbolDocs.Proofs.Page.Isolation
import SymbolDocs.Proofs.Record.Filled
import SymbolDocs.Proofs.Store.ReadBack
import SymbolDocs.Proofs.Store.Alike
import SymbolDocs.Proofs.Store.Recency
import SymbolDocs.Proofs.Stub.Definition
import SymbolDocs.Proofs.Stub.Layout
import SymbolDocs.Proofs.Symbol.Normal
import SymbolDocs.Proofs.Web.Redirects
import SymbolDocs.Proofs.Docstring.Written
import SymbolDocs.Proofs.Docstring.Entries
import SymbolDocs.Proofs.Docstring.EntryLine
import SymbolDocs.Proofs.Docstring.NumPy
import SymbolDocs.Proofs.Docstring.Google
import SymbolDocs.Proofs.Docstring.Pieces
import SymbolDocs.Proofs.Docstring.FieldOrder
import SymbolDocs.Proofs.Docstring.Solid
import SymbolDocs.Proofs.Docstring.Hollow
import SymbolDocs.Proofs.Docstring.Mentions
import SymbolDocs.Proofs.Docstring.HelpPage
import SymbolDocs.Proofs.Docstring.Topics
import SymbolDocs.Proofs.Text.Margin
import SymbolDocs.Proofs.Page.Anchor
import SymbolDocs.Proofs.Page.Place
import SymbolDocs.Proofs.Page.Heading
import SymbolDocs.Proofs.Markdown.Finish
import SymbolDocs.Proofs.Markdown.BlankLines
import SymbolDocs.Proofs.Markdown.NormalForm
import SymbolDocs.Proofs.Markdown.Edits
import SymbolDocs.Proofs.Page.EarlyStop
import SymbolDocs.Proofs.Markdown.Inline
import SymbolDocs.Proofs.Markdown.Paragraph
import SymbolDocs.Proofs.Url.Written
import SymbolDocs.Proofs.Config.Accepted
import SymbolDocs.Proofs.Config.BuiltUrls
import SymbolDocs.Proofs.Stub.Nearest
import SymbolDocs.Proofs.Stub.Member
import SymbolDocs.Proofs.Markdown.Nesting
import SymbolDocs.Proofs.Stub.Protocols
import SymbolDocs.Proofs.Text.Dedent
import SymbolDocs.Proofs.Stub.Invariant
