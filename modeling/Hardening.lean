import Hardening.Command.Run
import Hardening.Config.Json
import Hardening.Main
import Hardening.Proofs.BlockPlacement
import Hardening.Proofs.CleanupPlacement
import Hardening.Proofs.Pinning
import Hardening.Proofs.ReportPatch
import Hardening.Proofs.EntryLines
import Hardening.Proofs.Continuation
import Hardening.Proofs.OutputSize
import Hardening.Proofs.UnchangedTexts
import Hardening.Proofs.EmittedTriggers
import Hardening.Proofs.BlockIndex
import Hardening.Proofs.RepeatedRuns
import Hardening.Proofs.EntryPaths
import Hardening.Proofs.TreeGrowth
import Hardening.Proofs.DirectoryFiles
import Hardening.Proofs.BatchRuns
import Hardening.Proofs.BatchChecks
import Hardening.Proofs.BatchFiles
import Hardening.Proofs.BatchInput
import Hardening.Proofs.ExitStatus
import Hardening.Proofs.DecimalDigits
import Hardening.Proofs.JsonScalars
import Hardening.Proofs.JsonLayout
import Hardening.Proofs.InstantText
import Hardening.Proofs.ReportText
import Hardening.Proofs.PageContents
import Hardening.Proofs.ConfigIndependence
import Hardening.Proofs.ReportCounts
import Hardening.Proofs.LineLocality
import Hardening.Proofs.Concatenation
import Hardening.Proofs.RuleOrder
import Hardening.Proofs.FloatingPattern
import Hardening.Proofs.TagChoice
import Hardening.Proofs.InstantOrder
import Hardening.Proofs.CalendarDays
import Hardening.Proofs.ZonedTimes
