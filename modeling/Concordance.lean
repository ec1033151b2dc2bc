import Concordance.Compact.Field
import Concordance.Compact.Number
import Concordance.Compact.Pair
import Concordance.Compact.Table
import Concordance.Compact.Writer
import Concordance.Corpus.Basic
import Concordance.Corpus.Cursor
import Concordance.Corpus.Entry
import Concordance.Corpus.Reader
import Concordance.Corpus.Reading
import Concordance.Corpus.Search
import Concordance.Decimal.Double
import Concordance.Decimal.Numeral
import Concordance.Decimal.Shortest
import Concordance.Document.Format
import Concordance.Document.Ini
import Concordance.Document.Json
import Concordance.Document.Toml
import Concordance.Document.Value
import Concordance.Document.Yaml
import Concordance.Error
import Concordance.Files.Path
import Concordance.Files.SystemError
import Concordance.Files.Tree
import Concordance.Gzip.Bits
import Concordance.Gzip.Block
import Concordance.Gzip.Checksum
import Concordance.Gzip.Code
import Concordance.Gzip.Error
import Concordance.Gzip.Member
import Concordance.Index.Basic
import Concordance.Index.Names
import Concordance.Index.Trigrams
import Concordance.Marking.Layer
import Concordance.Marking.Marker
import Concordance.Marking.Region
import Concordance.Marking.Tag
import Concordance.Program.Basic
import Concordance.Program.Machine
import Concordance.Program.Plan
import Concordance.Program.View
import Concordance.Proofs.Corpus.Reading
import Concordance.Proofs.Program.Compiler
import Concordance.Proofs.Program.Machine
import Concordance.Proofs.Query.Formula
import Concordance.Query.Compiled
import Concordance.Query.Condition
import Concordance.Query.Formula
import Concordance.Query.Occurrence
import Concordance.Query.Outline
import Concordance.Query.Parser
import Concordance.Query.Recogniser
import Concordance.Query.Report
import Concordance.Regex.Automaton
import Concordance.Regex.Basic
import Concordance.Regex.CaseFold
import Concordance.Regex.Engine
import Concordance.Regex.Matches
import Concordance.Regex.Node
import Concordance.Regex.Pattern.Basic
import Concordance.Regex.Pattern.Parse
import Concordance.Regex.Property.Binary
import Concordance.Regex.Property.Category
import Concordance.Regex.Property.Lookup
import Concordance.Regex.Property.Script
import Concordance.Regex.Search
import Concordance.Session
import Concordance.Settings.Basic
import Concordance.Settings.Decoding
import Concordance.Settings.Loading
import Concordance.Store.Basic
import Concordance.Store.Opening
import Concordance.Text.Blank
import Concordance.Text.Bytes
import Concordance.Text.CodePoints
import Concordance.Text.Letters
import Concordance.Text.Lower
import Concordance.Text.Natural
import Concordance.Text.Printable
import Concordance.Text.Quoted
import Concordance.Proofs.Program.View
import Concordance.Proofs.Query.Grammar
import Concordance.Proofs.Query.Words
import Concordance.Proofs.Query.Parsing
import Concordance.Proofs.Query.Validity
import Concordance.Proofs.Query.Spans
import Concordance.Proofs.Marking.Cuts
import Concordance.Proofs.Marking.Sweep
import Concordance.Proofs.Marking.Attributes
import Concordance.Proofs.Marking.Rendering
import Concordance.Proofs.Marking.Marker
import Concordance.Proofs.Index.Names
import Concordance.Proofs.Corpus.Search
import Concordance.Proofs.Corpus.Cursor
import Concordance.Proofs.Corpus.Reader
import Concordance.Proofs.Compact.Table
import Concordance.Proofs.Gzip.Member
import Concordance.Proofs.Compact.Writer
import Concordance.Proofs.Corpus.Outcomes
import Concordance.Proofs.Corpus.Pending
import Concordance.Proofs.Corpus.Failing
import Concordance.Proofs.Files.Sound
import Concordance.Proofs.Store.Names
import Concordance.Proofs.Corpus.Answers
import Concordance.Proofs.Corpus.Moves
import Concordance.Proofs.Corpus.Lifecycle
import Concordance.Proofs.Store.Joined
import Concordance.Proofs.Compact.Copy
import Concordance.Proofs.Store.Locations
import Concordance.Proofs.Corpus.Alike
import Concordance.Proofs.Compact.Copies
import Concordance.Proofs.Text.Numerals
import Concordance.Proofs.Corpus.Within
import Concordance.Proofs.Store.Requests
import Concordance.Proofs.Corpus.Confined
import Concordance.Proofs.Corpus.NameOnly
import Concordance.Proofs.Index.Exact
import Concordance.Proofs.Corpus.Candidates
import Concordance.Proofs.Program.Selectivity
import Concordance.Proofs.Marking.Leaves
import Concordance.Proofs.Query.Occurrences
import Concordance.Proofs.Marking.Boundaries
import Concordance.Proofs.Marking.Tags
import Concordance.Proofs.Program.Halting
import Concordance.Proofs.Program.Loading
import Concordance.Proofs.Corpus.Ahead
import Concordance.Proofs.Corpus.Iterating
import Concordance.Proofs.Marking.Faults
import Concordance.Proofs.Marking.Names
import Concordance.Proofs.Index.Building
import Concordance.Proofs.Corpus.Laws
import Concordance.Proofs.Corpus.Marked
import Concordance.Proofs.Store.Naming
import Concordance.Proofs.Corpus.Reported
import Concordance.Proofs.Corpus.Calls
import Concordance.Proofs.Program.Emission
