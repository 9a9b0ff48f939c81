import ArgReport.Main
import ArgReport.Report.Text
import ArgReport.Session
import ArgReport.Sink.Lemmas
import ArgReport.Proofs.Sink.Hard
import ArgReport.Proofs.Sink.Outcome
import ArgReport.Proofs.Plan.Basic
import ArgReport.Proofs.Plan.Report
import ArgReport.Proofs.Plan.Outcome
import ArgReport.Proofs.Plan.Text
import ArgReport.Proofs.FaultyReport
import ArgReport.Proofs.Plan.Scripted
import ArgReport.Proofs.ReportPrefix
import ArgReport.Proofs.Plan.Session
import ArgReport.Proofs.Accounting
import ArgReport.Proofs.Retries
import ArgReport.Proofs.Report.Rounds
import ArgReport.Proofs.Report.Ending
import ArgReport.Proofs.Report.Numbering
import ArgReport.Proofs.CallOrder
import ArgReport.Proofs.Report.Defaults
import ArgReport.Proofs.Text.Base64
import ArgReport.Proofs.ReadBack
import ArgReport.Proofs.Text.WellFormed
import ArgReport.Proofs.Program
import ArgReport.Proofs.Plan.Flushing
import ArgReport.Proofs.Plan.Notices
import ArgReport.Proofs.Report.BlockLength
import ArgReport.Proofs.FlushPositions
import ArgReport.Proofs.Text.Quoted
import ArgReport.Proofs.Report.Part
import ArgReport.Proofs.Diagnosis
import ArgReport.Proofs.SingleWrites
import ArgReport.Proofs.Elementary
import ArgReport.Proofs.Fragments
import ArgReport.Proofs.Text.Base64Digits
import ArgReport.Proofs.Findings
import ArgReport.Proofs.Text.Shape
import ArgReport.Proofs.Text.Lossy
import ArgReport.Proofs.Entries
import ArgReport.Proofs.ReportLines
