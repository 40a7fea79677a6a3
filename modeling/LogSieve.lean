import LogSieve.Main
import LogSieve.Filter.Session
import LogSieve.Proofs.Separators
import LogSieve.Proofs.Grammar
import LogSieve.Proofs.TermReading
import LogSieve.Proofs.QueryReading
import LogSieve.Proofs.Printing
import LogSieve.Proofs.RoundTrip
import LogSieve.Proofs.SqlScan
import LogSieve.Proofs.CommentStripping
import LogSieve.Proofs.ReadOnlyText
import LogSieve.Proofs.InlinedStatement
import LogSieve.Proofs.Merging
import LogSieve.Proofs.StatementShape
import LogSieve.Proofs.Conjunction
import LogSieve.Proofs.Isolation
import LogSieve.Proofs.SqlTokens
import LogSieve.Proofs.StatementTokens
import LogSieve.Proofs.SqlFormula
import LogSieve.Proofs.WhereClause
import LogSieve.Proofs.CappedQuery
import LogSieve.Proofs.SharedConditions
import LogSieve.Proofs.VisibleCap
import LogSieve.Proofs.StatementWords
import LogSieve.Proofs.Admission
import LogSieve.Proofs.RegularFilters
import LogSieve.Proofs.FilterJson
import LogSieve.Proofs.EmptyGroups
import LogSieve.Proofs.Sessions
import LogSieve.Proofs.LikePatterns
import LogSieve.Proofs.ReadFilters
import LogSieve.Proofs.YearSplits
import LogSieve.Proofs.Timestamps
import LogSieve.Proofs.StableRanges
import LogSieve.Proofs.WordOperators
import LogSieve.Proofs.BareAlternatives
import LogSieve.Proofs.PageOffsets
import LogSieve.Proofs.PageTiling
import LogSieve.Proofs.Chips
import LogSieve.Proofs.CappedStatements
import LogSieve.Proofs.Presentation
import LogSieve.Proofs.OnePassStripping
import LogSieve.Proofs.ClauseOrder
import LogSieve.Proofs.Layout
import LogSieve.Proofs.SortOrders
import LogSieve.Proofs.UnknownFields
import LogSieve.Proofs.RecentRanges
import LogSieve.Proofs.CheckedProfiles
import LogSieve.Proofs.DraftRuns
import LogSieve.Proofs.QuotedText
import LogSieve.Proofs.RequestListing
import LogSieve.Proofs.SeparatorPattern
import LogSieve.Proofs.SeparatorPlaces
import LogSieve.Proofs.OperandPattern
import LogSieve.Proofs.TextReading
