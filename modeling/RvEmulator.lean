import RvEmulator.App.TerminalBounds
import RvEmulator.App.TerminalConsole
import RvEmulator.Common.Bus
import RvEmulator.Common.Encoding
import RvEmulator.Common.Halfword
import RvEmulator.Common.Hart
import RvEmulator.Common.HartInvariant
import RvEmulator.Common.InstructionCache
import RvEmulator.Common.Interrupts
import RvEmulator.Common.PendingBits
import RvEmulator.Common.RamLike
import RvEmulator.Common.Receiving
import RvEmulator.Common.RoundTrip
import RvEmulator.Common.StatusBits
import RvEmulator.Common.TrapEntry
import RvEmulator.Common.Types
import RvEmulator.Core32.Abbreviation
import RvEmulator.Core32.Commit
import RvEmulator.Core32.Compressed
import RvEmulator.Core32.Core
import RvEmulator.Core32.Csr
import RvEmulator.Core32.Decode
import RvEmulator.Core32.DecodeKinds
import RvEmulator.Core32.DecodeReads
import RvEmulator.Core32.Dispatch
import RvEmulator.Core32.Encoding
import RvEmulator.Core32.Execute
import RvEmulator.Core32.Expansion
import RvEmulator.Core32.FetchRefinement
import RvEmulator.Core32.Keeping
import RvEmulator.Core32.Mmu
import RvEmulator.Core32.MultiplyDivide
import RvEmulator.Core32.Outcome
import RvEmulator.Core32.OwnUnit
import RvEmulator.Core32.Pending
import RvEmulator.Core32.PendingBits
import RvEmulator.Core32.Precise
import RvEmulator.Core32.RunRefinement
import RvEmulator.Core32.Status
import RvEmulator.Core32.StepRefinement
import RvEmulator.Core32.Sv32Algorithm
import RvEmulator.Core32.Sv32Translation
import RvEmulator.Core32.Translation
import RvEmulator.Core32.TrapReturn
import RvEmulator.Core32.WellFormed
import RvEmulator.Core64.Abbreviation
import RvEmulator.Core64.Amo
import RvEmulator.Core64.AmoStep
import RvEmulator.Core64.Compressed
import RvEmulator.Core64.Core
import RvEmulator.Core64.Csr
import RvEmulator.Core64.CsrWrite
import RvEmulator.Core64.Decode
import RvEmulator.Core64.DecodeEncode
import RvEmulator.Core64.DecodeFields
import RvEmulator.Core64.DecodeKinds
import RvEmulator.Core64.DecodeReads
import RvEmulator.Core64.Encoding
import RvEmulator.Core64.Execute
import RvEmulator.Core64.Expansion
import RvEmulator.Core64.FetchRefinement
import RvEmulator.Core64.Floating
import RvEmulator.Core64.FloatingMinMax
import RvEmulator.Core64.FloatingState
import RvEmulator.Core64.Integer
import RvEmulator.Core64.Isolation
import RvEmulator.Core64.Keeping
import RvEmulator.Core64.Mmu
import RvEmulator.Core64.MultiplyDivide
import RvEmulator.Core64.Outcome
import RvEmulator.Core64.PendingBits
import RvEmulator.Core64.Precise
import RvEmulator.Core64.RunRefinement
import RvEmulator.Core64.Running
import RvEmulator.Core64.Status
import RvEmulator.Core64.StepRefinement
import RvEmulator.Core64.Sv39Algorithm
import RvEmulator.Core64.Sv39Translation
import RvEmulator.Core64.Translation
import RvEmulator.Core64.TrapReturn
import RvEmulator.Core64.Types
import RvEmulator.Core64.WellFormed
import RvEmulator.Devices.BlockBounds
import RvEmulator.Devices.BlockChains
import RvEmulator.Devices.BlockData
import RvEmulator.Devices.BlockFaults
import RvEmulator.Devices.BlockIntegrity
import RvEmulator.Devices.BlockProtocol
import RvEmulator.Devices.BlockReentrant
import RvEmulator.Devices.BlockRequest
import RvEmulator.Devices.BlockRun
import RvEmulator.Devices.BlockSafety
import RvEmulator.Devices.BlockSelect
import RvEmulator.Devices.Chains
import RvEmulator.Devices.Clint
import RvEmulator.Devices.Dma
import RvEmulator.Devices.Framebuffer
import RvEmulator.Devices.FramebufferDirty
import RvEmulator.Devices.Gateway
import RvEmulator.Devices.GatewaySafety
import RvEmulator.Devices.GoldfishRtc
import RvEmulator.Devices.NetAccounting
import RvEmulator.Devices.NetChain
import RvEmulator.Devices.NetDelivery
import RvEmulator.Devices.NetFaults
import RvEmulator.Devices.NetFrames
import RvEmulator.Devices.NetOutgoing
import RvEmulator.Devices.NetPacket
import RvEmulator.Devices.NetPolling
import RvEmulator.Devices.NetReceive
import RvEmulator.Devices.NetRecording
import RvEmulator.Devices.NetReentrant
import RvEmulator.Devices.NetRun
import RvEmulator.Devices.NetSafety
import RvEmulator.Devices.NetSend
import RvEmulator.Devices.NetSending
import RvEmulator.Devices.NetSparing
import RvEmulator.Devices.NetTransmit
import RvEmulator.Devices.Peripheral
import RvEmulator.Devices.Plic
import RvEmulator.Devices.QueueLayout
import RvEmulator.Devices.Recording
import RvEmulator.Devices.Reentrancy
import RvEmulator.Devices.RingMemory
import RvEmulator.Devices.RtcAlarm
import RvEmulator.Devices.RtcTime
import RvEmulator.Devices.Selection
import RvEmulator.Devices.TickKeeping
import RvEmulator.Devices.Uart16550
import RvEmulator.Devices.UartChannels
import RvEmulator.Devices.Unclaimed
import RvEmulator.Devices.VirtioBlock
import RvEmulator.Devices.VirtioNet
import RvEmulator.Devices.VirtioNetQueues
import RvEmulator.Devices.Virtqueue
import RvEmulator.Library.Alignment
import RvEmulator.Library.BigEndian
import RvEmulator.Library.BinaryFloat
import RvEmulator.Library.BinarySearch
import RvEmulator.Library.Bits
import RvEmulator.Library.ByteCells
import RvEmulator.Library.Channel
import RvEmulator.Library.Exec
import RvEmulator.Library.FixedArray
import RvEmulator.Library.History
import RvEmulator.Library.Keeping
import RvEmulator.Library.LittleEndian
import RvEmulator.Library.Lockstep
import RvEmulator.Library.Overlay
import RvEmulator.Library.Pointwise
import RvEmulator.Library.RadixWalk
import RvEmulator.Library.Rectangle
import RvEmulator.Library.Ring
import RvEmulator.Library.Scatter
import RvEmulator.Library.Signed
import RvEmulator.Library.Unsigned
import RvEmulator.Library.Unstopped
import RvEmulator.Mmu.Coherence
import RvEmulator.Mmu.Fabric
import RvEmulator.Mmu.Fetching
import RvEmulator.Mmu.Freshness
import RvEmulator.Mmu.Keeping
import RvEmulator.Mmu.LeafBits
import RvEmulator.Mmu.Marking
import RvEmulator.Mmu.Mirroring
import RvEmulator.Mmu.Paging
import RvEmulator.Mmu.Recorded
import RvEmulator.Mmu.Tlb
import RvEmulator.Mmu.Transparency
import RvEmulator.Mmu.Uniqueness
import RvEmulator.Mmu.Walk
import RvEmulator.Platform.Board
import RvEmulator.Platform.Boot
import RvEmulator.Platform.Decoders
import RvEmulator.Platform.Delivery
import RvEmulator.Platform.Device
import RvEmulator.Platform.DeviceTree
import RvEmulator.Platform.DeviceTreePatch
import RvEmulator.Platform.DeviceTreeRounds
import RvEmulator.Platform.DeviceTreeSafety
import RvEmulator.Platform.DeviceTreeSearch
import RvEmulator.Platform.DeviceTreeTokens
import RvEmulator.Platform.Evolution
import RvEmulator.Platform.Fencing
import RvEmulator.Platform.FlattenedTree
import RvEmulator.Platform.Lookup
import RvEmulator.Platform.Machine
import RvEmulator.Platform.MachineBus
import RvEmulator.Platform.Memory
import RvEmulator.Platform.MemoryLaws
import RvEmulator.Platform.Monitor
import RvEmulator.Platform.PendingLines
import RvEmulator.Platform.RamBus
import RvEmulator.Platform.Reachability
import RvEmulator.Platform.Reservation
import RvEmulator.Platform.Routing
import RvEmulator.Platform.Running
import RvEmulator.Platform.SystemBus
import RvEmulator.Platform.Ticking
