import ObdSimulator.Lib.Run
import ObdSimulator.BrickSafety
import ObdSimulator.BootableImage
import ObdSimulator.Download
import ObdSimulator.Segmentation
import ObdSimulator.AddressMixing
import ObdSimulator.Transmission
import ObdSimulator.Timers
import ObdSimulator.ResponseChannel
import ObdSimulator.BlMain
import ObdSimulator.MemoryConfidentiality
import ObdSimulator.SessionManager
import ObdSimulator.AppTasks
import ObdSimulator.Authentication
import ObdSimulator.SessionLocking
import ObdSimulator.SessionTimeout
import ObdSimulator.PeriodicTable
import ObdSimulator.NegativeResponses
import ObdSimulator.SuppressBit
import ObdSimulator.FunctionalRequests
import ObdSimulator.FlashAccess
import ObdSimulator.ReassemblySoundness
import ObdSimulator.Lib.StreamProtocol
import ObdSimulator.StreamSink
import ObdSimulator.FaultHistory
import ObdSimulator.DefaultSession
import ObdSimulator.BroadcastFrames
import ObdSimulator.Lib.Framing
import ObdSimulator.Rs485
import ObdSimulator.HarmlessVisit
import ObdSimulator.RejectedRequests
import ObdSimulator.DynamicTable
import ObdSimulator.Access
import ObdSimulator.ReadDtcAccess
import ObdSimulator.ServiceAccess
import ObdSimulator.BlAccess
import ObdSimulator.BufferAccess
import ObdSimulator.MemoryReads
import ObdSimulator.Lib.Ramp
import ObdSimulator.NaturalRamp
import ObdSimulator.ReportAgreement
import ObdSimulator.MirrorMemory
import ObdSimulator.FailureOrder
import ObdSimulator.IndirectReads
import ObdSimulator.Lib.Divider
import ObdSimulator.Subscriptions
import ObdSimulator.PeriodicRate
import ObdSimulator.ClearedIdentifier
import ObdSimulator.VinRoundTrip
import ObdSimulator.FlashRange
import ObdSimulator.Lib.Ring
import ObdSimulator.RxRing
import ObdSimulator.BurstErrors
import ObdSimulator.SegmentedRequests
import ObdSimulator.WaitFrames
import ObdSimulator.ResponseFrames
import ObdSimulator.Rs485Noise
import ObdSimulator.Lib.Dialogue
import ObdSimulator.Lib.Calls
import ObdSimulator.Ecu
import ObdSimulator.EcuRuns
import ObdSimulator.Tester
import ObdSimulator.TesterFrames
import ObdSimulator.TesterTransport
import ObdSimulator.TesterRequests
import ObdSimulator.TesterBus
import ObdSimulator.BlResponses
import ObdSimulator.EcuService
import ObdSimulator.FlashTool
import ObdSimulator.FlashLiveness
import ObdSimulator.Lib.RollCall
import ObdSimulator.TaskSupervision
import ObdSimulator.BlLoop
import ObdSimulator.PreemptedTick
import ObdSimulator.SelfHeal
