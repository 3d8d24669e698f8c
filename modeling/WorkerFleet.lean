import WorkerFleet.Main
import WorkerFleet.Session
import WorkerFleet.Text.Lines
import WorkerFleet.Octets
import WorkerFleet.Utility.Options
import WorkerFleet.Utility.Quoting
import WorkerFleet.Text.Format
import WorkerFleet.Text.Regex
import WorkerFleet.Utility.Input
import WorkerFleet.Utility.Amount
import WorkerFleet.Utility.Reading
import WorkerFleet.Utility.Columns
import WorkerFleet.Utility.Sequence
import WorkerFleet.Utility.Files
import WorkerFleet.Utility.Launching
import WorkerFleet.Utility.Computing
import WorkerFleet.Utility.Deciding
import WorkerFleet.Utility.Editing.Command
import WorkerFleet.Utility.Editing.Reader
import WorkerFleet.Utility.Editing
import WorkerFleet.Utility.Searching
import WorkerFleet.Utility.Finding
import WorkerFleet.Utility.Listing
import WorkerFleet.Proofs.Exchange
import WorkerFleet.Proofs.Job
import WorkerFleet.Proofs.Launching
import WorkerFleet.Proofs.FanIn
import WorkerFleet.Proofs.ExitCode
import WorkerFleet.Proofs.Fleet
import WorkerFleet.Proofs.Reaped
import WorkerFleet.Proofs.Trimming
import WorkerFleet.Proofs.Utf8
import WorkerFleet.Proofs.Numerals
import WorkerFleet.Proofs.Splitting
import WorkerFleet.Proofs.WorkerCounts
import WorkerFleet.Proofs.Entries
import WorkerFleet.Proofs.WrittenLists
import WorkerFleet.Proofs.StandIn
import WorkerFleet.Proofs.StandInFleet
import WorkerFleet.Proofs.Claimant
import WorkerFleet.Proofs.LoneDirectory
import WorkerFleet.Proofs.Complaints
import WorkerFleet.Proofs.Conclusion
import WorkerFleet.Proofs.LoneStandIn
import WorkerFleet.Proofs.Contest
import WorkerFleet.Proofs.LowestSlots
import WorkerFleet.Proofs.Words
import WorkerFleet.Proofs.Groups
import WorkerFleet.Proofs.Reading
import WorkerFleet.Proofs.Grammar
import WorkerFleet.Proofs.Writing
import WorkerFleet.Proofs.Variables
import WorkerFleet.Proofs.ProgramChoice
import WorkerFleet.Proofs.Course
import WorkerFleet.Proofs.EventLog
import WorkerFleet.Proofs.FirstFailure
import WorkerFleet.Proofs.ListOrder
import WorkerFleet.Proofs.Separator
import WorkerFleet.Proofs.CountArgument
import WorkerFleet.Proofs.OptionSteps
import WorkerFleet.Proofs.LogFilter
import WorkerFleet.Proofs.Announcing
import WorkerFleet.Proofs.LogLines
import WorkerFleet.Proofs.Logging
import WorkerFleet.Proofs.LeftmostFault
import WorkerFleet.Proofs.QuotedText
import WorkerFleet.Proofs.Refusals
import WorkerFleet.Proofs.WorkerIndex
