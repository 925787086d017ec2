import Autocomplete.Text.Letters
import Autocomplete.Text.Case
import Autocomplete.Text.Quoted
import Autocomplete.Number.Literal
import Autocomplete.Number.Shortest
import Autocomplete.Json.Reader
import Autocomplete.Snippet.Builder
import Autocomplete.Fuzzy.Scorer
import Autocomplete.Fuzzy.Highlight
import Autocomplete.Item.Decode
import Autocomplete.Item.Insertion
import Autocomplete.Settings
import Autocomplete.Ranking
import Autocomplete.Session.Operation
import Autocomplete.Failure
import Autocomplete.Response
import Autocomplete.Controller.Operation
import Autocomplete.LanguageServer.Operation
import Autocomplete.CommandLine.Options
import Autocomplete.CommandLine.Run
import Autocomplete.Logging
import Autocomplete.Main
import Autocomplete.Proofs.Fuzzy.Register
import Autocomplete.Proofs.Fuzzy.Table
import Autocomplete.Proofs.Fuzzy.Optimal
import Autocomplete.Proofs.Ranking
import Autocomplete.Proofs.Session.Coherence
import Autocomplete.Proofs.Controller.Freshness
import Autocomplete.Proofs.Snippet.Reading
import Autocomplete.Proofs.Snippet.RoundTrip
import Autocomplete.Proofs.Snippet.Pieces
import Autocomplete.Proofs.Controller.SessionRun
import Autocomplete.Proofs.Session.Selection
import Autocomplete.Proofs.Controller.Mirror
import Autocomplete.Proofs.Controller.Selection
import Autocomplete.Proofs.Session.Identity
import Autocomplete.Proofs.Session.Shift
import Autocomplete.Proofs.Controller.Renewal
import Autocomplete.Proofs.Controller.Bounds
import Autocomplete.Proofs.Controller.Accounts
import Autocomplete.Proofs.Controller.Reordering
import Autocomplete.Proofs.Session.Highlight
import Autocomplete.Proofs.Snippet.Normal
import Autocomplete.Proofs.Snippet.Steps
import Autocomplete.Proofs.Snippet.Reparse
import Autocomplete.Proofs.Snippet.Numbers
import Autocomplete.Proofs.Snippet.Default
import Autocomplete.Proofs.Fuzzy.Complete
import Autocomplete.Proofs.Snippet.Spans
import Autocomplete.Proofs.CommandLine.Ranking
import Autocomplete.Proofs.Fuzzy.Ties
import Autocomplete.Proofs.Session.Ranked
import Autocomplete.Proofs.Snippet.Stops
import Autocomplete.Proofs.Snippet.Behind
import Autocomplete.Proofs.Snippet.Descent
import Autocomplete.Proofs.Snippet.Extent
import Autocomplete.Proofs.Snippet.Origin
import Autocomplete.Proofs.Fuzzy.Extension
import Autocomplete.Proofs.Fuzzy.Cells
import Autocomplete.Proofs.Fuzzy.Bounds
import Autocomplete.Proofs.Fuzzy.Inside
import Autocomplete.Proofs.Session.FuzzyRanking
import Autocomplete.Proofs.Controller.Recovery
import Autocomplete.Proofs.Controller.Decoding
import Autocomplete.Proofs.Controller.Navigation
import Autocomplete.Proofs.LanguageServer.Forwarding
