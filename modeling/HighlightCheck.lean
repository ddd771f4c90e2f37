import HighlightCheck.Registry.Run
import HighlightCheck.Session.Run
import HighlightCheck.Tokenizer.Fixed
import HighlightCheck.Tokenizer.Scripted
import HighlightCheck.Tokenizer.Shell
import HighlightCheck.Proofs.Search
import HighlightCheck.Proofs.SearchSeam
import HighlightCheck.Proofs.Emission
import HighlightCheck.Proofs.Action
import HighlightCheck.Proofs.CheckOutcome
import HighlightCheck.Proofs.Thread
import HighlightCheck.Proofs.Activity
import HighlightCheck.Proofs.Ownership
import HighlightCheck.Proofs.Delivery
import HighlightCheck.Proofs.Segment
import HighlightCheck.Proofs.Report
import HighlightCheck.Proofs.Resolution
import HighlightCheck.Proofs.ByteSearch
import HighlightCheck.Proofs.ShellReader
import HighlightCheck.Proofs.Readback
import HighlightCheck.Proofs.ShellSettings
import HighlightCheck.Proofs.CacheAdditions
import HighlightCheck.Proofs.SearchPath
import HighlightCheck.Proofs.AlikeCaches
import HighlightCheck.Proofs.Ledger
import HighlightCheck.Proofs.DropOrder
import HighlightCheck.Proofs.ShellGrammar
import HighlightCheck.Proofs.ShellSeparation
import HighlightCheck.Proofs.LogFree
import HighlightCheck.Proofs.Process
import HighlightCheck.Proofs.RegistryHistory
import HighlightCheck.Proofs.KindNames
import HighlightCheck.Proofs.ScriptHistory
import HighlightCheck.Proofs.ThreadsApart
import HighlightCheck.Proofs.ListenerFailure
import HighlightCheck.Proofs.SessionRun
import HighlightCheck.Proofs.SearchOffset
import HighlightCheck.Proofs.CaretPlace
import HighlightCheck.Proofs.CaretLine
import HighlightCheck.Proofs.CommandPosition
import HighlightCheck.Proofs.ShellDecomposition
import HighlightCheck.Proofs.ShellWords
import HighlightCheck.Proofs.ShellQuotes
