import ClockBoard.Bus.Address
import ClockBoard.Bus.Basic
import ClockBoard.Bus.Command
import ClockBoard.Bus.Config
import ClockBoard.Bus.Error
import ClockBoard.Bus.Reset
import ClockBoard.Bus.Transaction
import ClockBoard.BytePair
import ClockBoard.Chip.Basic
import ClockBoard.Chip.Error
import ClockBoard.Chip.Expander
import ClockBoard.Chip.Paging
import ClockBoard.Chip.Sfp
import ClockBoard.Chip.Si5326
import ClockBoard.Chip.Si534x
import ClockBoard.Core.Register
import ClockBoard.Core.Word
import ClockBoard.Event
import ClockBoard.Handle
import ClockBoard.Layout.Basic
import ClockBoard.Layout.Scalar
import ClockBoard.Layout.Wide
import ClockBoard.Link.Batch
import ClockBoard.Link.Board
import ClockBoard.Link.Error
import ClockBoard.Link.RegisterFile
import ClockBoard.Link.Tap
import ClockBoard.Link.Transport
import ClockBoard.Listing.Assignment
import ClockBoard.Listing.Error
import ClockBoard.Listing.File
import ClockBoard.Listing.Line
import ClockBoard.Listing.Plain
import ClockBoard.Listing.Section
import ClockBoard.Listing.Sectioned
import ClockBoard.Routine
import ClockBoard.Simulation.Circuit
import ClockBoard.Simulation.Slave
import ClockBoard.Table
import ClockBoard.Text.Blank
import ClockBoard.Text.Numeral
import ClockBoard.Text.Utf8
import ClockBoard.Upload.Basic
import ClockBoard.Upload.Policy
import ClockBoard.Upload.Recorder
import ClockBoard.Upload.Writer
import ClockBoard.Proofs.Bus.Byte
import ClockBoard.Proofs.Bus.Phase
import ClockBoard.Proofs.Bus.Recovery
import ClockBoard.Proofs.Bus.Reset
import ClockBoard.Proofs.Bus.Transaction
import ClockBoard.Proofs.Bus.Usable
import ClockBoard.Proofs.Bus.Wait
import ClockBoard.Proofs.Bus.Wire
import ClockBoard.Proofs.Chip.Contents
import ClockBoard.Proofs.Chip.Retries
import ClockBoard.Proofs.Chip.Sharing
import ClockBoard.Proofs.Chip.Si5326
import ClockBoard.Proofs.Chip.Si534x
import ClockBoard.Proofs.Chip.Writer
import ClockBoard.Proofs.Routine.Possible
import ClockBoard.Proofs.Simulation.Built
import ClockBoard.Proofs.Simulation.Execution
import ClockBoard.Proofs.Simulation.Runs
import ClockBoard.Proofs.Simulation.Storage
import ClockBoard.Proofs.Simulation.Toll
import ClockBoard.Proofs.Simulation.Trial
import ClockBoard.Proofs.Upload.Basic
import ClockBoard.Proofs.Upload.Charges
import ClockBoard.Proofs.Upload.Contents
import ClockBoard.Proofs.Simulation.ByteFile
import ClockBoard.Proofs.Bus.Absent
import ClockBoard.Proofs.Handle.Access
import ClockBoard.Proofs.Routine.Coupled
import ClockBoard.Proofs.Simulation.Agreement
import ClockBoard.Proofs.Bus.Forgetting
import ClockBoard.Proofs.Chip.Flawless
import ClockBoard.Proofs.Chip.Reading
import ClockBoard.Proofs.Upload.Attempts
import ClockBoard.Proofs.Link.Promises
import ClockBoard.Proofs.Handle.Errand
import ClockBoard.Proofs.Chip.Sfp
import ClockBoard.Proofs.Link.Record
import ClockBoard.Proofs.Bus.Signal
import ClockBoard.Proofs.Bus.Discipline
import ClockBoard.Proofs.Layout.Serial
import ClockBoard.Proofs.Link.InTurn
import ClockBoard.Proofs.Simulation.Dispatch
import ClockBoard.Proofs.Handle.Tended
import ClockBoard.Proofs.Chip.Expander
import ClockBoard.Proofs.Bus.Patience
import ClockBoard.Proofs.Chip.Patience
import ClockBoard.Proofs.Listing.Rendering
import ClockBoard.Proofs.Listing.Line
import ClockBoard.Proofs.Listing.RoundTrip
import ClockBoard.Proofs.Simulation.Coherence
import ClockBoard.Proofs.Bus.Blocks
import ClockBoard.Proofs.Bus.Scan
import ClockBoard.Proofs.Link.Exchange
import ClockBoard.Proofs.Bus.ResetPlan
import ClockBoard.Proofs.Bus.ResetAgain
import ClockBoard.Proofs.Bus.Serving
import ClockBoard.Proofs.Chip.Refusals
import ClockBoard.Proofs.Upload.Sections
import ClockBoard.Proofs.Listing.Grammar
import ClockBoard.Proofs.Listing.Brackets
import ClockBoard.Proofs.Listing.Data
import ClockBoard.Proofs.Listing.Plain
import ClockBoard.Proofs.Listing.Selection
import ClockBoard.Proofs.Link.History
import ClockBoard.Proofs.Bus.Prescale
import ClockBoard.Proofs.Text.Blank
import ClockBoard.Proofs.Bus.Address
import ClockBoard.Proofs.Layout.Exact
import ClockBoard.Proofs.Handle.Layouts
import ClockBoard.Proofs.Listing.Returns
