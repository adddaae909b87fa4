import Listings.Entity.Catalog
import Listings.Store.Media
import Listings.Record.FieldType
import Listings.Paging.Script
import Listings.Calendar.Date
import Listings.Column
import Listings.Value
import Listings.Binary64.Rounding
import Listings.Binary64.Written
import Listings.Text.Blank
import Listings.Text.Quoted
import Listings.Text.Slug
import Listings.Text.Split
import Listings.Text.Uppercase
import Listings.Text.Word
import Listings.Proofs.Lexing
import Listings.Proofs.Placeholders
import Listings.Proofs.Reading
import Listings.Proofs.Meaning
import Listings.Proofs.Negation
import Listings.Proofs.Resolution
import Listings.Proofs.Binding
import Listings.Proofs.Parameters
import Listings.Proofs.Parsing
import Listings.Proofs.Nesting
import Listings.Proofs.Clause
import Listings.Proofs.Restriction
import Listings.Proofs.Ordering
import Listings.Proofs.Tiling
import Listings.Proofs.Body
import Listings.Proofs.Dates
import Listings.Proofs.Conditions
import Listings.Proofs.Typing
import Listings.Proofs.Constants
import Listings.Proofs.SortGrammar
import Listings.Proofs.Calls
import Listings.Proofs.Transactions
import Listings.Proofs.Agreement
import Listings.Proofs.Isolation
import Listings.Proofs.Dialects
import Listings.Proofs.Tokenizing
import Listings.Proofs.Writing
import Listings.Proofs.Lookahead
import Listings.Proofs.Stopping
import Listings.Proofs.ErrorPlaces
import Listings.Proofs.NormalDates
import Listings.Proofs.DateOrder
import Listings.Proofs.Combining
import Listings.Proofs.FirstFailure
import Listings.Proofs.Reserved
import Listings.Proofs.OrderClause
import Listings.Proofs.SortedPages
import Listings.Proofs.Building
import Listings.Proofs.Slugs
import Listings.Proofs.FieldTables
import Listings.Proofs.Paths
import Listings.Proofs.Regrouping
import Listings.Proofs.CamelCase
import Listings.Proofs.Scanning
import Listings.Proofs.Walking
