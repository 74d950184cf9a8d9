import CommandShell.Text.Blank
import CommandShell.Text.Alphabetic
import CommandShell.Text.Quoted
import CommandShell.Text.Column
import CommandShell.Text.Search
import CommandShell.Trie
import CommandShell.Token
import CommandShell.Command.Invocation
import CommandShell.Storage.FileStore
import CommandShell.Environment
import CommandShell.Journal
import CommandShell.Fault
import CommandShell.History.File
import CommandShell.Command.Reading
import CommandShell.Command.Dispatch
import CommandShell.Completion
import CommandShell.Colouring
import CommandShell.Settings
import CommandShell.Builtin
import CommandShell.Command.Inspect
import CommandShell.CommandLine
import CommandShell.Main
import CommandShell.Proofs.LineGrammar
import CommandShell.Proofs.TypedTokens
import CommandShell.Proofs.SplitLines
import CommandShell.Proofs.FlagSyntax
import CommandShell.Proofs.ValidatedCalls
import CommandShell.Proofs.FreshCompletion
import CommandShell.Proofs.BoundedHistory
import CommandShell.Proofs.StoredFiles
import CommandShell.Proofs.HistoryLines
import CommandShell.Proofs.RestoredHistory
import CommandShell.Proofs.LoadedHistory
import CommandShell.Proofs.WordSets
import CommandShell.Proofs.CompletionIndex
import CommandShell.Proofs.WrittenInvocations
import CommandShell.Proofs.ReplayedTries
import CommandShell.Proofs.ColouredWords
import CommandShell.Proofs.UsableSettings
import CommandShell.Proofs.LoopRuns
import CommandShell.Proofs.SettledOutcomes
import CommandShell.Proofs.LineEnds
import CommandShell.Proofs.ReadingFaults
import CommandShell.Proofs.OptionGroups
import CommandShell.Proofs.DocumentSettings
import CommandShell.Proofs.StartedSessions
import CommandShell.Proofs.WrittenDocuments
import CommandShell.Proofs.OverriddenSettings
import CommandShell.Proofs.FileEffects
import CommandShell.Proofs.LastWords
import CommandShell.Proofs.UnquotedLines
import CommandShell.Proofs.QuotedFlags
import CommandShell.Proofs.CanonicalTries
import CommandShell.Proofs.RegisteredCommands
import CommandShell.Proofs.UnquotedColours
import CommandShell.Proofs.NumberedHistory
import CommandShell.Proofs.ConvertedValues
import CommandShell.Proofs.HelpListings
