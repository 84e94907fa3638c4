import OpsPmd.Lib.Run
import OpsPmd.Lib.Retry
import OpsPmd.Lib.Cells
import OpsPmd.Lib.Heap
import OpsPmd.Lib.Shash
import OpsPmd.Lib.CText
import OpsPmd.Lib.CBuffer
import OpsPmd.Lib.ByteSum
import OpsPmd.Lib.Padding
import OpsPmd.Lib.Lines
import OpsPmd.Port
import OpsPmd.Layout
import OpsPmd.Detect
import OpsPmd.Dom
import OpsPmd.Plug
import OpsPmd.Publish
import OpsPmd.OvsdbAccess
import OpsPmd.Poll
import OpsPmd.PortInvariant
import OpsPmd.DaemonInvariant
import OpsPmd.SubsystemInvariant
import OpsPmd.Commit
import OpsPmd.Ghost
import OpsPmd.Hardware
import OpsPmd.Sim
import OpsPmd.Memory
import OpsPmd.Housed
import OpsPmd.Placement
import OpsPmd.Bay
import OpsPmd.PerPort
import OpsPmd.WorldInvariant
import OpsPmd.Dump
import OpsPmd.Properties.Classification
import OpsPmd.Properties.Checksum
import OpsPmd.Properties.Vendor
import OpsPmd.Properties.Decoding
import OpsPmd.Properties.Alarms
import OpsPmd.Properties.Shape
import OpsPmd.Properties.Removal
import OpsPmd.Properties.Diagnostics
import OpsPmd.Properties.Identity
import OpsPmd.Properties.Rounds
import OpsPmd.Properties.Laser
import OpsPmd.Properties.Publication
import OpsPmd.Properties.Reconcile
import OpsPmd.Properties.Subsystems
import OpsPmd.Properties.FailedWrites
import OpsPmd.Properties.Precision
import OpsPmd.Properties.Commands
import OpsPmd.Properties.HexText
import OpsPmd.Properties.DeviceName
import OpsPmd.Properties.History
import OpsPmd.Properties.Refinement
import OpsPmd.Properties.Quiescence
import OpsPmd.Properties.Dump
import OpsPmd.Properties.Restart
import OpsPmd.Properties.Simulated
import OpsPmd.Properties.Builds
import OpsPmd.Properties.Takeover
import OpsPmd.Properties.Isolation
import OpsPmd.Properties.Order
import OpsPmd.Properties.Signals
import OpsPmd.Properties.Memory
import OpsPmd.Properties.SimulatedMemory
