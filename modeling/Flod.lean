import Flod.Stage1.WindowCap
import Flod.Stage1.Cooldown
import Flod.Stage1.Freeze
import Flod.Stage1.Snapshot
import Flod.Stage1.TtlVariance
import Flod.Stage1.Egress
import Flod.Stage1.RateAlarm
import Flod.Stage1.Restore
import Flod.Stage1.FreezeBound
import Flod.Stage1.RateMean
import Flod.Stage1.CommandLine
import Flod.Stage1.Redetection
import Flod.Stage1.Welford
import Flod.Stage1.WindowTally
import Flod.Stage1.FlowTable
import Flod.Ipc.Delivery
import Flod.Ipc.Attendance
import Flod.Ipc.Wire
import Flod.Stage2.PlaybookLayer
import Flod.Stage2.TierTrigger
import Flod.Stage2.BlockAlert
import Flod.Stage2.Exemption
import Flod.Stage2.Spelling
import Flod.Stage2.CaptureRun
import Flod.Stage2.ScoreLoop
import Flod.Stage2.CaptureQueue
import Flod.Stage2.QueueTrim
import Flod.Stage2.SessionTrim
import Flod.Stage2.SourceList
import Flod.Stage2.SourceCap
import Flod.Stage2.ReviewRace
import Flod.Stage2.Lockout
import Flod.Stage2.Sessions
import Flod.Stage2.PlaybookOrphans
import Flod.Stage2.PlaybookWrites
import Flod.Stage2.PlaybookHistory
import Flod.Stage2.PlaybookIsolation
import Flod.Stage2.PlaybookCheck
import Flod.Stage2.Overrides
import Flod.Stage2.Independence
import Flod.Stage2.AttackAlerts
import Flod.Stage2.Hashlimit
import Flod.Stage2.Migration
import Flod.Stage2.MetricsHistory
import Flod.Stage2.Redaction
import Flod.System.Dispatch
import Flod.System.Hysteresis
import Flod.System.RateFlag
import Flod.System.FlowRates
import Flod.Scripts.TrimDdosClass
import Flod.Scripts.Calibrate
import Flod.Kernel.Isolation
import Flod.Kernel.Race
import Flod.Kernel.PacketCount
import Flod.Capture.Fingerprint
import Flod.Capture.Filter
import Flod.System.Provenance
import Flod.Stage2.SustainedFlood
import Flod.System.Isolation
import Flod.Stage2.AtomicWrite
