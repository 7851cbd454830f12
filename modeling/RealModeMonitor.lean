import RealModeMonitor.Byte
import RealModeMonitor.Clock
import RealModeMonitor.CmosRam
import RealModeMonitor.CommandLine.Options
import RealModeMonitor.CommandLine.Run
import RealModeMonitor.Config
import RealModeMonitor.Device.Access
import RealModeMonitor.Device.Basic
import RealModeMonitor.Device.Bus
import RealModeMonitor.Device.External
import RealModeMonitor.DmaController.Basic
import RealModeMonitor.DmaController.Chip
import RealModeMonitor.Guest.Action
import RealModeMonitor.Guest.Basic
import RealModeMonitor.Guest.Run
import RealModeMonitor.InterruptController.Basic
import RealModeMonitor.InterruptController.Chip
import RealModeMonitor.InterruptController.Line
import RealModeMonitor.IntervalTimer.Basic
import RealModeMonitor.IntervalTimer.Channel
import RealModeMonitor.Main
import RealModeMonitor.Memory
import RealModeMonitor.ModuleTable
import RealModeMonitor.Monitor.Basic
import RealModeMonitor.Monitor.Commands
import RealModeMonitor.Monitor.Devices
import RealModeMonitor.Monitor.Error
import RealModeMonitor.Monitor.Interrupts
import RealModeMonitor.Monitor.Op
import RealModeMonitor.Monitor.Summary
import RealModeMonitor.Port.HandlerTable
import RealModeMonitor.Port.Operand
import RealModeMonitor.Port.Range
import RealModeMonitor.Proofs.InterruptController.Arbitration
import RealModeMonitor.Proofs.InterruptController.Requests
import RealModeMonitor.Proofs.InterruptController.Run
import RealModeMonitor.Proofs.IntervalTimer.Expiry
import RealModeMonitor.Proofs.IntervalTimer.Run
import RealModeMonitor.Proofs.IntervalTimer.Schedule
import RealModeMonitor.Proofs.Port.Routing
import RealModeMonitor.Registry
import RealModeMonitor.ServiceTable
import RealModeMonitor.Shell
import RealModeMonitor.Text.Hex
import RealModeMonitor.Text.Words
import RealModeMonitor.Trace.Diagnostic
import RealModeMonitor.Trace.Event
import RealModeMonitor.Trace.Traced
import RealModeMonitor.Vm.Basic
import RealModeMonitor.VmId
import RealModeMonitor.Proofs.Vm.Frame
import RealModeMonitor.Proofs.Vm.Notes
import RealModeMonitor.Proofs.ModuleTable.References
import RealModeMonitor.Proofs.Monitor.Death
import RealModeMonitor.Proofs.Monitor.Step
import RealModeMonitor.Proofs.Monitor.Run
import RealModeMonitor.Proofs.Monitor.Identity
import RealModeMonitor.Proofs.Monitor.Accounting
import RealModeMonitor.Proofs.Monitor.Isolation
import RealModeMonitor.Proofs.InterruptController.Wake
import RealModeMonitor.Proofs.Vm.Wake
import RealModeMonitor.Proofs.Monitor.Wake
import RealModeMonitor.Proofs.Vm.Fault
import RealModeMonitor.Proofs.Registry.Thinning
import RealModeMonitor.Proofs.IntervalTimer.Batch
import RealModeMonitor.Proofs.ModuleTable.Closing
import RealModeMonitor.Proofs.Monitor.Batching
import RealModeMonitor.Proofs.Monitor.Fate
import RealModeMonitor.Proofs.Monitor.Work
import RealModeMonitor.Proofs.Monitor.Outcome
import RealModeMonitor.Proofs.Monitor.Containment
import RealModeMonitor.Proofs.Monitor.Ownership
import RealModeMonitor.Proofs.Monitor.Teardown
import RealModeMonitor.Proofs.InterruptController.Exclusion
import RealModeMonitor.Proofs.InterruptController.Sequence
import RealModeMonitor.Proofs.Guest.Return
import RealModeMonitor.Proofs.Monitor.Placing
import RealModeMonitor.Proofs.CommandLine.Boot
import RealModeMonitor.Proofs.CommandLine.Batches
import RealModeMonitor.Proofs.CommandLine.Report
import RealModeMonitor.Proofs.Guest.Interrupt
import RealModeMonitor.Proofs.InterruptController.Initialization
import RealModeMonitor.Proofs.Guest.Nesting
import RealModeMonitor.Proofs.Clock.Conversion
import RealModeMonitor.Proofs.Clock.Adjunction
import RealModeMonitor.Proofs.IntervalTimer.Counting
import RealModeMonitor.Proofs.IntervalTimer.Laziness
import RealModeMonitor.Proofs.Monitor.Installing
import RealModeMonitor.Proofs.IntervalTimer.Shots
import RealModeMonitor.Proofs.Vm.Calls
import RealModeMonitor.Proofs.Vm.Signals
import RealModeMonitor.Proofs.Vm.Rest
import RealModeMonitor.Proofs.Monitor.Answers
import RealModeMonitor.Proofs.Monitor.Signals
import RealModeMonitor.Proofs.ModuleTable.Walk
import RealModeMonitor.Proofs.ModuleTable.Routes
import RealModeMonitor.Proofs.ModuleTable.Opening
import RealModeMonitor.Proofs.ModuleTable.Firmness
import RealModeMonitor.Proofs.ModuleTable.History
import RealModeMonitor.Proofs.Monitor.Accesses
import RealModeMonitor.Proofs.Monitor.HostLines
import RealModeMonitor.Proofs.DmaController.Words
import RealModeMonitor.Proofs.DmaController.Independence
import RealModeMonitor.Proofs.CmosRam.History
import RealModeMonitor.Proofs.Monitor.Tasks
import RealModeMonitor.Proofs.Monitor.ShellCommands
