import Aviate.Foundations.FlagSet
import Aviate.Foundations.Machine
import Aviate.Foundations.Refinement
import Aviate.Foundations.Noninterference
import Aviate.Foundations.ExactFloat
import Aviate.Model
import Aviate.Foundations.Ledger
import Aviate.Foundations.ByteBuffer
import Aviate.Foundations.FixedCode
import Aviate.Core.Types
import Aviate.Core.Control
import Aviate.Core.ModeGate
import Aviate.Kernel.FaultState
import Aviate.Kernel.Arming
import Aviate.Kernel.GroundReset
import Aviate.Security.Gateway
import Aviate.Security.Replay
import Aviate.Security.Anchor
import Aviate.Security.Isolation
import Aviate.Link.Messages
import Aviate.Link.Parser
import Aviate.Link.Framing
import Aviate.Link.Command
import Aviate.Security.Admission
import Aviate.Replication.Lockstep
import Aviate.Runtime.CommandIngress
import Aviate.Runtime.Runner
import Aviate.Runtime.Schedule
import Aviate.Foundations.Covariance
import Aviate.Foundations.FileLock
import Aviate.Shm.Contract
import Aviate.Shm.Lease
import Aviate.Shm.LeaseSound
import Aviate.Shm.LeaseSafety
import Aviate.Foundations.Seqlock
import Aviate.Direct.Endpoint
import Aviate.Foundations.RingBuffer
import Aviate.Foundations.StreamDecoder
import Aviate.Direct.Queues
import Aviate.Link.WellFormed
import Aviate.Direct.Streaming
import Aviate.Direct.ChunkInvariance
import Aviate.Hil.Messages
import Aviate.Hil.Wire
import Aviate.Hil.Framing
import Aviate.Hil.RoundTrip
import Aviate.Hil.Reassembly
import Aviate.Sitl.CommandLink
import Aviate.Sitl.DiscreteCommands
import Aviate.Foundations.Shuffle
import Aviate.Perturbation.Engine
import Aviate.Perturbation.Protocol
import Aviate.Foundations.Blocks
import Aviate.Perturbation.CommandHold
import Aviate.Hil.Backend
import Aviate.XPlane.Board
import Aviate.Boot.Flash
import Aviate.XPlane.ResetLifecycle
import Aviate.Boot.DfuSafety
import Aviate.Boot.FlagProtocol
import Aviate.Usb.Reads
import Aviate.Usb.CommandLoss
import Aviate.Usb.Sniffer
import Aviate.Foundations.SinglePass
import Aviate.Core.Binary32
import Aviate.Control.HeadingWrap
import Aviate.Replication.Truncation
import Aviate.Foundations.PrefixCode
import Aviate.Replication.ConfigHash
import Aviate.Replication.ConfigIdentity
import Aviate.Foundations.BoundedFifo
import Aviate.Foundations.Mean
import Aviate.XPlane.Wire
import Aviate.Direct.RingRefinement
import Aviate.Estimator.AccelClip
import Aviate.Runtime.CycleClock
import Aviate.Runtime.Dropout
import Aviate.XPlane.IdentityGate
import Aviate.Hil.UdpTransport
import Aviate.Usb.Transmit
import Aviate.Hil.Resync
import Aviate.Config.LineageIdentity
import Aviate.Foundations.Checksum
import Aviate.Link.Crc
import Aviate.Foundations.Rotation
import Aviate.Synthesis.StepClock
import Aviate.Synthesis.Agreement
import Aviate.Foundations.RegisterFile
import Aviate.Drivers.TornRead
import Aviate.Foundations.Fallible
import Aviate.Mission.SessionProtocol
import Aviate.Jsbsim.Board
import Aviate.Jsbsim.Worlds
