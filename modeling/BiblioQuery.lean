import BiblioQuery.Archive.CachingSource
import BiblioQuery.Archive.Memory
import BiblioQuery.Archive.Store
import BiblioQuery.Expr.Display
import BiblioQuery.Query.Compile
import BiblioQuery.Proofs.Expr.Meaning
import BiblioQuery.Proofs.Archive.CachedReads
import BiblioQuery.Proofs.Expr.Laws
import BiblioQuery.Proofs.Expr.Ambiguity
import BiblioQuery.Proofs.Expr.Reduced
import BiblioQuery.Proofs.Pattern.Matching
import BiblioQuery.Proofs.Pattern.Readers
import BiblioQuery.Proofs.Pattern.Escapes
import BiblioQuery.Proofs.Pattern.Brackets
import BiblioQuery.Proofs.Pattern.Tokens
import BiblioQuery.Proofs.Pattern.Readings
import BiblioQuery.Proofs.Pattern.Anchors
import BiblioQuery.Proofs.Number.Digits
import BiblioQuery.Proofs.Number.Rounding
import BiblioQuery.Proofs.Number.ReadBack
import BiblioQuery.Proofs.Calendar.ReadBack
import BiblioQuery.Proofs.Expr.BoundReadBack
import BiblioQuery.Proofs.Json.Scalars
import BiblioQuery.Proofs.Json.ReadBack
import BiblioQuery.Proofs.Expr.Fields
import BiblioQuery.Proofs.Expr.ReadBack
import BiblioQuery.Proofs.Expr.Reread
import BiblioQuery.Proofs.Expr.Identity
import BiblioQuery.Proofs.Calendar.TimeLine
import BiblioQuery.Proofs.Calendar.Formats
import BiblioQuery.Proofs.Calendar.ZoneTexts
import BiblioQuery.Proofs.Provider.Validity
import BiblioQuery.Proofs.Query.FaultSources
import BiblioQuery.Proofs.Query.Passing
import BiblioQuery.Proofs.Query.Stages
import BiblioQuery.Proofs.Query.BoundTexts
import BiblioQuery.Proofs.Query.Accounts
import BiblioQuery.Proofs.Query.Strictness
import BiblioQuery.Proofs.Query.EmptyAtoms
import BiblioQuery.Proofs.Query.EmptyQuery
import BiblioQuery.Proofs.Query.Checking
import BiblioQuery.Proofs.Query.TextLengths
import BiblioQuery.Proofs.Query.Zones
import BiblioQuery.Proofs.Query.RangeOrder
import BiblioQuery.Proofs.Query.BestRule
import BiblioQuery.Proofs.Query.Phrase
import BiblioQuery.Proofs.Query.Grouping
import BiblioQuery.Proofs.Calendar.Instants
import BiblioQuery.Proofs.Calendar.Neighbours
import BiblioQuery.Proofs.Expr.BoundOrder
import BiblioQuery.Proofs.Expr.EmptyRanges
import BiblioQuery.Proofs.Json.Records
import BiblioQuery.Proofs.Provider.Documents
import BiblioQuery.Proofs.Archive.Manifests
import BiblioQuery.Proofs.Archive.Outcomes
import BiblioQuery.Proofs.Archive.Changes
import BiblioQuery.Proofs.Archive.Tampering
import BiblioQuery.Proofs.Archive.FaithfulDisks
import BiblioQuery.Proofs.Archive.FileTrees
import BiblioQuery.Proofs.Archive.Reopening
import BiblioQuery.Proofs.Archive.TidyTrees
import BiblioQuery.Proofs.Archive.ReservedNames
import BiblioQuery.Proofs.Archive.Refusals
import BiblioQuery.Proofs.Archive.TimeTravel
import BiblioQuery.Proofs.Archive.CacheRuns
import BiblioQuery.Proofs.Archive.ServedSnapshots
import BiblioQuery.Proofs.Archive.CachedVersions
import BiblioQuery.Proofs.Archive.Recency
import BiblioQuery.Proofs.Archive.CacheCounters
import BiblioQuery.Proofs.Provider.Governing
import BiblioQuery.Proofs.Query.Escalation
import BiblioQuery.Proofs.Expr.Places
import BiblioQuery.Proofs.Expr.WrittenForms
import BiblioQuery.Proofs.Expr.Grammar
import BiblioQuery.Proofs.Expr.FaultPlaces
import BiblioQuery.Proofs.Text.Trimming
import BiblioQuery.Proofs.Provider.Quoting
import BiblioQuery.Proofs.Provider.Templates
import BiblioQuery.Proofs.Query.Negations
import BiblioQuery.Proofs.Query.Parameters
import BiblioQuery.Proofs.Query.Alternatives
import BiblioQuery.Proofs.Archive.DocumentPlaces
