import InterruptControl.Word
import InterruptControl.Text.Hex
import InterruptControl.Registers.BitField
import InterruptControl.Registers.Fields
import InterruptControl.Registers.Catalogue
import InterruptControl.Registers.Table
import InterruptControl.Affinity
import InterruptControl.Failure
import InterruptControl.IntId
import InterruptControl.Targets.CpuSet
import InterruptControl.Targets.ClusterList
import InterruptControl.Targets.Destination
import InterruptControl.DeviceTree
import InterruptControl.Console
import InterruptControl.Notice
import InterruptControl.Program
import InterruptControl.Retry
import InterruptControl.Block
import InterruptControl.Distributor.Banked
import InterruptControl.Distributor.Routed
import InterruptControl.Redistributor
import InterruptControl.CpuInterface.Mapped
import InterruptControl.CpuInterface.System
import InterruptControl.Startup.Banked
import InterruptControl.Startup.Routed
import InterruptControl.Gic.Handlers
import InterruptControl.Gic.Basic
import InterruptControl.Gic.Dispatch
import InterruptControl.Hardware.Irq
import InterruptControl.Hardware.State
import InterruptControl.Hardware.Place
import InterruptControl.Hardware.Delivery
import InterruptControl.Hardware.Tables
import InterruptControl.Hardware.Distributor
import InterruptControl.Hardware.CpuInterface
import InterruptControl.Hardware.Redistributor
import InterruptControl.Hardware.SystemRegisters
import InterruptControl.Hardware.Events
import InterruptControl.Bus.Memory
import InterruptControl.Bus.Feed
import InterruptControl.Bus.Board
import InterruptControl.Bus.Machine
import InterruptControl.Script.Step
import InterruptControl.Script.Result
import InterruptControl.Script.Session
import InterruptControl.Script.Perform
import InterruptControl.Script.Run
import InterruptControl.Proofs.Program
import InterruptControl.Proofs.Requests
import InterruptControl.Proofs.Registers.BitField
import InterruptControl.Proofs.Registers.Table
import InterruptControl.Proofs.IntId
import InterruptControl.Proofs.Hardware.Place
import InterruptControl.Proofs.Hardware.Tables
import InterruptControl.Proofs.Hardware.Frame
import InterruptControl.Proofs.Hardware.Registers
import InterruptControl.Proofs.Hardware.Reachable
import InterruptControl.Proofs.Hardware.Identity
import InterruptControl.Proofs.Hardware.Delivery
import InterruptControl.Proofs.Hardware.Serving
import InterruptControl.Proofs.Hardware.Evolution
import InterruptControl.Proofs.Hardware.Masks
import InterruptControl.Proofs.Bus.Board
import InterruptControl.Proofs.Bus.Bank
import InterruptControl.Proofs.Bus.Trace
import InterruptControl.Proofs.Bus.Fill
import InterruptControl.Proofs.Block
import InterruptControl.Proofs.Settings
import InterruptControl.Proofs.Redistributor
import InterruptControl.Proofs.Hardware.Health
import InterruptControl.Proofs.Targets.ClusterList
import InterruptControl.Proofs.Startup.Renewal
import InterruptControl.Proofs.Startup.Distributor
import InterruptControl.Proofs.Gic.Requests
import InterruptControl.Proofs.Gic.Interface
import InterruptControl.Proofs.CpuInterface.SoftwareInterrupt
import InterruptControl.Proofs.CpuInterface.Completion
import InterruptControl.Proofs.Distributor.SoftwareInterrupt
import InterruptControl.Proofs.Interleaving
import InterruptControl.Proofs.Gic.Detection
import InterruptControl.Proofs.Gic.Settings
import InterruptControl.Proofs.Script.Session
import InterruptControl.Proofs.Gic.Dispatch
import InterruptControl.Proofs.Gic.Nesting
import InterruptControl.Proofs.Gic.Preemption
import InterruptControl.Proofs.Gic.Lifecycle
import InterruptControl.Proofs.Gic.Sparing
import InterruptControl.Proofs.Gic.Sharing
import InterruptControl.Proofs.Startup.Core
import InterruptControl.Proofs.Startup.BringUp
import InterruptControl.Proofs.Startup.Timeout
import InterruptControl.Proofs.Gic.Chronicle
import InterruptControl.Proofs.Gic.Configure
import InterruptControl.Proofs.Gic.Plan
import InterruptControl.Proofs.Gic.Service
import InterruptControl.Proofs.Twins.Hardware
import InterruptControl.Proofs.Twins.Calls
import InterruptControl.Proofs.Twins.Interface
import InterruptControl.Proofs.Twins.Sessions
import InterruptControl.Proofs.AtOnce
import InterruptControl.Proofs.Cell
import InterruptControl.Proofs.CpuInterface.Selection
import InterruptControl.Proofs.Calls
import InterruptControl.Proofs.Gic.Orders
import InterruptControl.Proofs.Gic.Reconfiguration
import InterruptControl.Proofs.Startup.Restart
import InterruptControl.Proofs.DeviceTree
import InterruptControl.Proofs.Gic.Installation
import InterruptControl.Proofs.Redistributor.Lookup
import InterruptControl.Proofs.Distributor.Bulk
import InterruptControl.Proofs.Targets.CpuSet
import InterruptControl.Proofs.Distributor.Security
import InterruptControl.Proofs.Distributor.Message
import InterruptControl.Proofs.Writes
import InterruptControl.Proofs.Registers.FieldLaws
import InterruptControl.Proofs.Retry
import InterruptControl.Proofs.CpuInterface.CodeWord
