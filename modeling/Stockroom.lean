import Stockroom.Main
import Stockroom.Record.Writing
import Stockroom.Catalog.Session
import Stockroom.Proofs.Scan.Closed
import Stockroom.Proofs.Text.Delimiters
import Stockroom.Proofs.Query.Forms
import Stockroom.Proofs.Query.Conjunction
import Stockroom.Proofs.Query.DirectReading
import Stockroom.Proofs.Query.Nesting
import Stockroom.Proofs.Query.Disjunction
import Stockroom.Proofs.Query.Redundancy
import Stockroom.Proofs.Query.Tree
import Stockroom.Proofs.Query.Size
import Stockroom.Proofs.Query.Written
import Stockroom.Proofs.Query.RoundTrip
import Stockroom.Proofs.Catalog.Ranking
import Stockroom.Proofs.Catalog.Top
import Stockroom.Proofs.Catalog.Steps
import Stockroom.Proofs.Query.Padding
import Stockroom.Proofs.Number.Comparison
import Stockroom.Proofs.Query.Restriction
import Stockroom.Proofs.Report.Escaping
import Stockroom.Proofs.Report.Explained
import Stockroom.Proofs.Catalog.Loading
import Stockroom.Proofs.CommandLine.Search
import Stockroom.Proofs.Text.Segments
import Stockroom.Proofs.Query.Clauses
import Stockroom.Proofs.Number.Exactness
import Stockroom.Proofs.Text.Skeleton
import Stockroom.Proofs.Text.Lowering
import Stockroom.Proofs.Text.Occurrence
import Stockroom.Proofs.Catalog.Sorts
import Stockroom.Proofs.Catalog.Undated
import Stockroom.Proofs.Report.ActiveTags
import Stockroom.Proofs.Report.Strings
import Stockroom.Proofs.Text.Decorated
import Stockroom.Proofs.Query.SearchedField
import Stockroom.Proofs.Query.Support
import Stockroom.Proofs.Settings.Place
import Stockroom.Proofs.Settings.Root
import Stockroom.Proofs.Calendar.Written
import Stockroom.Proofs.Record.Spelling
import Stockroom.Proofs.Query.Alternatives
import Stockroom.Proofs.Character.Components
import Stockroom.Proofs.Character.SmallLetters
import Stockroom.Proofs.Text.Words
import Stockroom.Proofs.Text.NormalForm
import Stockroom.Proofs.Calendar.Order
import Stockroom.Proofs.Report.WhenColumn
import Stockroom.Proofs.Catalog.Sessions
