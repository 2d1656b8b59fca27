import PipelinedMachine.AddressMap
import PipelinedMachine.Bench
import PipelinedMachine.Bench.Part
import PipelinedMachine.Command
import PipelinedMachine.Command.Arguments
import PipelinedMachine.Command.Report
import PipelinedMachine.Core
import PipelinedMachine.Core.Access
import PipelinedMachine.Core.Compute
import PipelinedMachine.Core.Datapath
import PipelinedMachine.Core.Fetch
import PipelinedMachine.Counters
import PipelinedMachine.Device.Basic
import PipelinedMachine.Device.DiskDrive
import PipelinedMachine.Device.Display
import PipelinedMachine.Device.Keyboard
import PipelinedMachine.Device.Ram
import PipelinedMachine.Device.Rom
import PipelinedMachine.DeviceHub
import PipelinedMachine.Disk.Directory
import PipelinedMachine.Disk.Error
import PipelinedMachine.Disk.Image
import PipelinedMachine.Fault
import PipelinedMachine.FileStore
import PipelinedMachine.FileTree
import PipelinedMachine.Instruction
import PipelinedMachine.Instruction.Assembler
import PipelinedMachine.Instruction.Decode
import PipelinedMachine.Instruction.Encoding
import PipelinedMachine.Instruction.Text
import PipelinedMachine.Interrupts
import PipelinedMachine.Link.Channel
import PipelinedMachine.Link.Interconnect
import PipelinedMachine.Link.Message
import PipelinedMachine.Machine
import PipelinedMachine.Machine.Config
import PipelinedMachine.Main
import PipelinedMachine.Processor
import PipelinedMachine.Proofs.Boot.Arrival
import PipelinedMachine.Proofs.Boot.Booting
import PipelinedMachine.Proofs.Boot.Calls
import PipelinedMachine.Proofs.Boot.Code
import PipelinedMachine.Proofs.Boot.Course
import PipelinedMachine.Proofs.Boot.Lookout
import PipelinedMachine.Proofs.Boot.Stride
import PipelinedMachine.Proofs.Checked.Cores
import PipelinedMachine.Proofs.Checked.Devices
import PipelinedMachine.Proofs.Checked.Links
import PipelinedMachine.Proofs.Checked.Machine
import PipelinedMachine.Proofs.Checked.Memory
import PipelinedMachine.Proofs.Checked.Routing
import PipelinedMachine.Proofs.Core.Deals
import PipelinedMachine.Proofs.Core.Exclusion
import PipelinedMachine.Proofs.Core.Frontier
import PipelinedMachine.Proofs.Core.Interruption
import PipelinedMachine.Proofs.Core.LinkUse
import PipelinedMachine.Proofs.Core.Occupancy
import PipelinedMachine.Proofs.Core.Precision
import PipelinedMachine.Proofs.Core.Queues
import PipelinedMachine.Proofs.Core.Reads
import PipelinedMachine.Proofs.Core.Retirement
import PipelinedMachine.Proofs.Core.Search
import PipelinedMachine.Proofs.Core.Supply
import PipelinedMachine.Proofs.Core.Turn
import PipelinedMachine.Proofs.Device.Answers
import PipelinedMachine.Proofs.Device.Controller
import PipelinedMachine.Proofs.Device.Countdowns
import PipelinedMachine.Proofs.Device.Cursor
import PipelinedMachine.Proofs.Device.Engagement
import PipelinedMachine.Proofs.Device.FlatMemory
import PipelinedMachine.Proofs.Device.Keys
import PipelinedMachine.Proofs.Device.Peripheral
import PipelinedMachine.Proofs.Device.ReadyInterrupts
import PipelinedMachine.Proofs.Device.VectorTable
import PipelinedMachine.Proofs.Device.Visits
import PipelinedMachine.Proofs.Disk.Canonical
import PipelinedMachine.Proofs.Disk.Enumeration
import PipelinedMachine.Proofs.Disk.Loading
import PipelinedMachine.Proofs.Disk.Packing
import PipelinedMachine.Proofs.Disk.Running
import PipelinedMachine.Proofs.Disk.Saving
import PipelinedMachine.Proofs.FileTree.Holding
import PipelinedMachine.Proofs.FileTree.Walk
import PipelinedMachine.Proofs.Instruction.Grammar
import PipelinedMachine.Proofs.Instruction.Listing
import PipelinedMachine.Proofs.Instruction.Meaning
import PipelinedMachine.Proofs.Instruction.Phrase
import PipelinedMachine.Proofs.Link.Along
import PipelinedMachine.Proofs.Link.Contents
import PipelinedMachine.Proofs.Link.Crossing
import PipelinedMachine.Proofs.Link.Delivery
import PipelinedMachine.Proofs.Link.Endpoint
import PipelinedMachine.Proofs.Link.History
import PipelinedMachine.Proofs.Link.Passing
import PipelinedMachine.Proofs.Link.Rounds
import PipelinedMachine.Proofs.Link.Sweep
import PipelinedMachine.Proofs.Machine.AddressMap
import PipelinedMachine.Proofs.Machine.Balance
import PipelinedMachine.Proofs.Machine.Breakpoints
import PipelinedMachine.Proofs.Machine.Claimed
import PipelinedMachine.Proofs.Machine.Conservation
import PipelinedMachine.Proofs.Machine.DiskData
import PipelinedMachine.Proofs.Machine.Fresh
import PipelinedMachine.Proofs.Machine.Homeward
import PipelinedMachine.Proofs.Machine.Lanes
import PipelinedMachine.Proofs.Machine.Layout
import PipelinedMachine.Proofs.Machine.Loaded
import PipelinedMachine.Proofs.Machine.MainMemory
import PipelinedMachine.Proofs.Machine.OnBench
import PipelinedMachine.Proofs.Machine.ReadAhead
import PipelinedMachine.Proofs.Machine.Relay
import PipelinedMachine.Proofs.Machine.Replies
import PipelinedMachine.Proofs.Machine.Requests
import PipelinedMachine.Proofs.Machine.Routing
import PipelinedMachine.Proofs.Machine.Service
import PipelinedMachine.Proofs.Machine.Signals
import PipelinedMachine.Proofs.Machine.Sound
import PipelinedMachine.Proofs.Machine.Stopping
import PipelinedMachine.Proofs.Machine.Traffic
import PipelinedMachine.Proofs.Machine.Vectors
import PipelinedMachine.Proofs.Machine.Wiring
import PipelinedMachine.Proofs.Router.Answers
import PipelinedMachine.Proofs.Router.Record
import PipelinedMachine.Proofs.Served.Advance
import PipelinedMachine.Proofs.Served.Conversation
import PipelinedMachine.Proofs.Served.Handler
import PipelinedMachine.Proofs.Served.Inquiry
import PipelinedMachine.Proofs.Served.Nesting
import PipelinedMachine.Proofs.Served.Progress
import PipelinedMachine.Proofs.Served.Questions
import PipelinedMachine.Proofs.Served.Refinement
import PipelinedMachine.Proofs.Served.Sequential
import PipelinedMachine.Proofs.Served.Stack
import PipelinedMachine.Proofs.Served.Stock
import PipelinedMachine.Proofs.Served.System
import PipelinedMachine.Proofs.Served.Unwritten
import PipelinedMachine.Proofs.Timing.Confinement
import PipelinedMachine.Proofs.Timing.Pursuit
import PipelinedMachine.Proofs.Timing.Retiming
import PipelinedMachine.Proofs.Timing.Takings
import PipelinedMachine.Proofs.Timing.Tracking
import PipelinedMachine.Register
import PipelinedMachine.Router
import PipelinedMachine.SparseMemory
import PipelinedMachine.Text.Blank
import PipelinedMachine.Text.Number
import PipelinedMachine.Word
import PipelinedMachine.Word.Bytes
