import AsyncLog.Duration
import AsyncLog.Text.Blank
import AsyncLog.Text.Case
import AsyncLog.Text.Numeral
import AsyncLog.Text.Printable
import AsyncLog.Text.Quoted
import AsyncLog.Text.Control
import AsyncLog.Text.Utf8
import AsyncLog.Entry
import AsyncLog.Config.Mode
import AsyncLog.Config.Basic
import AsyncLog.Config.Environment
import AsyncLog.Stats
import AsyncLog.Output.Error
import AsyncLog.Report.Event
import AsyncLog.Report.Diagnostic
import AsyncLog.Queue.Basic
import AsyncLog.Queue.Monitor
import AsyncLog.Output.Script
import AsyncLog.Output.Retry
import AsyncLog.Output.Sink
import AsyncLog.Decimal.Shortest
import AsyncLog.Geometry
import AsyncLog.Random.Stream
import AsyncLog.Random.Generator
import AsyncLog.Writer.State
import AsyncLog.Writer.Step
import AsyncLog.Writer.History
import AsyncLog.Writer.Schedule
import AsyncLog.Moment
import AsyncLog.Files.Path
import AsyncLog.Files.Tree
import AsyncLog.Files.Descriptor
import AsyncLog.Program
import AsyncLog.Proofs.Queue.Decision
import AsyncLog.Proofs.Writer.Moves
import AsyncLog.Proofs.Writer.Discipline
import AsyncLog.Proofs.Writer.Line
import AsyncLog.Proofs.Writer.Submission
import AsyncLog.Proofs.Writer.Tally
import AsyncLog.Proofs.Writer.Policy
import AsyncLog.Proofs.Writer.Accounting
import AsyncLog.Proofs.Output.Honest
import AsyncLog.Proofs.Output.Operation
import AsyncLog.Proofs.Output.Budget
import AsyncLog.Proofs.Output.Interrupts
import AsyncLog.Proofs.Output.Resumption
import AsyncLog.Proofs.Output.Extent
import AsyncLog.Proofs.Output.Doubling
import AsyncLog.Proofs.Output.Backoff
import AsyncLog.Proofs.Writer.Delivery
import AsyncLog.Proofs.Writer.OrderedOutput
import AsyncLog.Proofs.Writer.Calls
import AsyncLog.Proofs.Writer.FinalPass
import AsyncLog.Proofs.Writer.Echo
import AsyncLog.Proofs.Writer.SelfLogging
import AsyncLog.Queue.History
import AsyncLog.Proofs.Queue.Conservation
import AsyncLog.Proofs.Writer.Closing
import AsyncLog.Proofs.Writer.SecondShutdown
import AsyncLog.Proofs.Writer.Stages
import AsyncLog.Proofs.Writer.Sequence
import AsyncLog.Proofs.Queue.Wakeups
import AsyncLog.Proofs.Queue.Windows
import AsyncLog.Proofs.Queue.Bounds
import AsyncLog.Proofs.Writer.Panics
import AsyncLog.Proofs.Writer.Progress
import AsyncLog.Proofs.Writer.Running
import AsyncLog.Proofs.Writer.Blocks
import AsyncLog.Proofs.Writer.Flushing
import AsyncLog.Proofs.Writer.Remarks
import AsyncLog.Proofs.Writer.Operations
import AsyncLog.Proofs.Writer.Losses
import AsyncLog.Proofs.Writer.CallBudget
import AsyncLog.Proofs.Writer.Termination
import AsyncLog.Proofs.Writer.Shutdown
import AsyncLog.Proofs.Text.Decoding
import AsyncLog.Proofs.Writer.Events
import AsyncLog.Proofs.Text.Numerals
import AsyncLog.Proofs.Text.Spelling
import AsyncLog.Proofs.Config.Fields
import AsyncLog.Proofs.Config.Forgiving
import AsyncLog.Proofs.Config.Warnings
import AsyncLog.Proofs.Writer.InFlight
import AsyncLog.Proofs.Random.Sampling
import AsyncLog.Proofs.Files.Places
import AsyncLog.Proofs.Writer.Lossless
import AsyncLog.Proofs.Files.Sessions
import AsyncLog.Proofs.Writer.WholeCalls
import AsyncLog.Proofs.Program.Evolution
import AsyncLog.Proofs.Program.Listening
