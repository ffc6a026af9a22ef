import SplitExport.Log.Registry
import SplitExport.Main
import SplitExport.Proofs.AcceptedPeriods
import SplitExport.Proofs.BuildTraces
import SplitExport.Proofs.Coverage
import SplitExport.Proofs.CursorAccounts
import SplitExport.Proofs.DescribedColumns
import SplitExport.Proofs.Divisions
import SplitExport.Proofs.EnclosedTexts
import SplitExport.Proofs.ExecutorAgreement
import SplitExport.Proofs.FinerDivisions
import SplitExport.Proofs.IsoPeriods
import SplitExport.Proofs.LogLevels
import SplitExport.Proofs.OutputFormats
import SplitExport.Proofs.PartitionWindows
import SplitExport.Proofs.ProbeOutcomes
import SplitExport.Proofs.QueryTexts
import SplitExport.Proofs.RangeCount
import SplitExport.Proofs.Shares
import SplitExport.Proofs.SpecChecks
import SplitExport.Proofs.TableNames
import SplitExport.Proofs.TrailingSymbols
import SplitExport.Proofs.WindowOrder
import SplitExport.Proofs.WindowReadings
