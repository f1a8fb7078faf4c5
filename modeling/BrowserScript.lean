import BrowserScript.Main
import BrowserScript.Proofs.Browser.Ensures
import BrowserScript.Proofs.SignIn.Flow
import BrowserScript.Proofs.SignIn.History
import BrowserScript.Proofs.SignIn.FormRoute
import BrowserScript.Proofs.SignIn.Verified
import BrowserScript.Proofs.Run.EveryLine
import BrowserScript.Proofs.SignIn.Navigation
import BrowserScript.Proofs.Instruction.LongestPhrase
import BrowserScript.Proofs.Run.LostSession
import BrowserScript.Proofs.SignIn.TwoAttempts
import BrowserScript.Proofs.Run.Secrecy
import BrowserScript.Proofs.Run.ActingPage
import BrowserScript.Proofs.Run.SilentLines
import BrowserScript.Proofs.Run.Validation
import BrowserScript.Proofs.Instruction.QuotedParameters
import BrowserScript.Proofs.Settings.Verdicts
import BrowserScript.Proofs.Settings.ConfigSecrets
import BrowserScript.Proofs.Screen.Escaped
import BrowserScript.Proofs.Command.Steps
import BrowserScript.Proofs.Command.Preparation
import BrowserScript.Proofs.Command.Execution
import BrowserScript.Proofs.Command.ExitCode
import BrowserScript.Proofs.Browser.Lifecycle
import BrowserScript.Proofs.Run.Declined
import BrowserScript.Proofs.Run.Targets
import BrowserScript.Proofs.SignIn.Outcome
import BrowserScript.Proofs.Instruction.CutPoints
import BrowserScript.Proofs.Instruction.ReportedFailure
import BrowserScript.Proofs.Instruction.Keyword
import BrowserScript.Proofs.Vocabulary.InRange
import BrowserScript.Proofs.Instruction.Unwrapping
import BrowserScript.Proofs.Instruction.PlainParameters
import BrowserScript.Proofs.Target.DistinctCandidates
import BrowserScript.Proofs.Target.Enclosed
import BrowserScript.Proofs.Browser.PageHistory
import BrowserScript.Proofs.SignIn.FormSearch
import BrowserScript.Proofs.SignIn.UsualPaths
import BrowserScript.Proofs.SignIn.FormCriterion
import BrowserScript.Proofs.SignIn.SiteOfHost
import BrowserScript.Proofs.Settings.FirstSource
import BrowserScript.Proofs.SignIn.FormFields
import BrowserScript.Proofs.SignIn.Filling
import BrowserScript.Proofs.Settings.KeyByKey
import BrowserScript.Proofs.Settings.QuotedLine
import BrowserScript.Proofs.Vocabulary.CookiePlaces
import BrowserScript.Proofs.Vocabulary.DurationLength
import BrowserScript.Proofs.Run.ShortText
import BrowserScript.Proofs.Run.ResultsTable
import BrowserScript.Proofs.Instruction.RegistryHistory
import BrowserScript.Proofs.Command.IgnoreFile
