import CardSearch.Main
import CardSearch.Metric.Bridge
import CardSearch.Proofs.AndNot
import CardSearch.Proofs.FirstNot
import CardSearch.Proofs.Meaning
import CardSearch.Proofs.PatternMode
import CardSearch.Service.Run
import CardSearch.Telemetry.Provider
import CardSearch.Trace.Work
import CardSearch.Proofs.NormalForm
import CardSearch.Proofs.CheckedCards
import CardSearch.Proofs.Waiting
import CardSearch.Proofs.Origin
import CardSearch.Proofs.Interference
import CardSearch.Proofs.NewestSearch
import CardSearch.Proofs.Accounting
import CardSearch.Proofs.GroupTruth
import CardSearch.Proofs.NumberEquality
import CardSearch.Proofs.MatchingIds
import CardSearch.Proofs.RawCards
import CardSearch.Proofs.CorpusOrder
import CardSearch.Proofs.Phrases
import CardSearch.Proofs.StandIn
import CardSearch.Proofs.StandInParts
import CardSearch.Proofs.Activation
import CardSearch.Proofs.Answering
import CardSearch.Proofs.StandInClause
import CardSearch.Proofs.Growth
import CardSearch.Proofs.PositiveQueries
import CardSearch.Proofs.GroupBesideWord
import CardSearch.Proofs.LongestMatch
import CardSearch.Proofs.WildcardReading
import CardSearch.Proofs.WildcardSpans
import CardSearch.Proofs.WildcardMeaning
import CardSearch.Proofs.FiniteDocuments
import CardSearch.Proofs.StoreFailures
import CardSearch.Proofs.JsonStrings
import CardSearch.Proofs.JsonReadBack
import CardSearch.Proofs.CommandLineOutcome
import CardSearch.Proofs.NestingDepth
import CardSearch.Proofs.PlainPatterns
import CardSearch.Proofs.ClauseReading
import CardSearch.Proofs.Termination
import CardSearch.Proofs.TagPhrases
import CardSearch.Proofs.LenientCards
import CardSearch.Proofs.Rounding
import CardSearch.Proofs.ShortestDecimals
import CardSearch.Proofs.WrittenNumbers
import CardSearch.Proofs.NestedValues
import CardSearch.Proofs.LogDocuments
import CardSearch.Store.History
import CardSearch.Proofs.StoreHistory
import CardSearch.Proofs.DocumentCards
import CardSearch.Log.History
import CardSearch.Proofs.SpanContext
import CardSearch.Proofs.SecretValues
import CardSearch.Proofs.PrintedOrder
import CardSearch.Proofs.SearchSpans
import CardSearch.Proofs.Reconfiguration
import CardSearch.Proofs.Segments
import CardSearch.Proofs.MaskCuts
import CardSearch.Proofs.Rules
import CardSearch.Proofs.WrittenPlaceholders
import CardSearch.Proofs.EncodedTexts
