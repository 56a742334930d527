import CaseSorter.Lib.Runs
import CaseSorter.Lib.Actions
import CaseSorter.Lib.Delimited
import CaseSorter.Lib.Mappings
import CaseSorter.Lib.Json
import CaseSorter.Lib.Paging
import CaseSorter.Firmware.SorterPosition
import CaseSorter.Firmware.SlotZeroPass
import CaseSorter.Firmware.RequestTerminals
import CaseSorter.Firmware.StopFinal
import CaseSorter.Firmware.DerivedParameters
import CaseSorter.Firmware.Interlock
import CaseSorter.Firmware.MotionRange
import CaseSorter.Firmware.AxisCalls
import CaseSorter.Firmware.CommandOrder
import CaseSorter.Firmware.IdlessBusy
import CaseSorter.Firmware.FeedLength
import CaseSorter.Firmware.FeedSearch
import CaseSorter.Firmware.SortStepsChange
import CaseSorter.Firmware.SetterAgreement
import CaseSorter.Firmware.Decimals
import CaseSorter.Firmware.ProximitySettling
import CaseSorter.Firmware.FeedSignalling
import CaseSorter.Vision.Attempts
import CaseSorter.Vision.RoutingRuns
import CaseSorter.Vision.OutcomeMatching
import CaseSorter.Vision.FrameSorts
import CaseSorter.Vision.Labels
import CaseSorter.Vision.Training
import CaseSorter.Vision.StoredTimes
import CaseSorter.Vision.Migrations
import CaseSorter.Daemon.StopOutcomes
import CaseSorter.Daemon.Outcomes
import CaseSorter.Daemon.Journal
import CaseSorter.Daemon.StorageFailures
import CaseSorter.Daemon.Idempotency
import CaseSorter.Daemon.ConfigurationHistory
import CaseSorter.Daemon.WorkerTransports
import CaseSorter.Daemon.UnsafeStop
import CaseSorter.Daemon.WorkerFutures
import CaseSorter.Daemon.StopPrecedence
import CaseSorter.Daemon.SessionBreak
import CaseSorter.Daemon.StopAnswers
import CaseSorter.Daemon.System
import CaseSorter.Daemon.Handovers
import CaseSorter.Daemon.AdmittedOnce
import CaseSorter.Daemon.Lifecycle
import CaseSorter.Daemon.Generations
import CaseSorter.Daemon.ActiveView
import CaseSorter.Daemon.ConfigureUpdates
import CaseSorter.Daemon.Settlements
import CaseSorter.Daemon.OneActive
import CaseSorter.Daemon.DeadlineBound
import CaseSorter.Daemon.Pages
import CaseSorter.Daemon.Canonical
import CaseSorter.Daemon.Events
import CaseSorter.Daemon.Confinement
import CaseSorter.Host.FailClosed
import CaseSorter.Link.RequestEncoding
import CaseSorter.Link.Admission
import CaseSorter.Link.FramingAgreement
import CaseSorter.Link.StopLines
import CaseSorter.Link.CommandLines
import CaseSorter.Link.Crc
import CaseSorter.Web.Upstream
import CaseSorter.Web.Resumption
import CaseSorter.Web.MachineView
import CaseSorter.Web.Draining
import CaseSorter.Web.Frames
import CaseSorter.Web.Provisioning
import CaseSorter.Web.SessionLifecycle
import CaseSorter.Web.Logins
import CaseSorter.Web.LoginBudget
import CaseSorter.Web.Gate
import CaseSorter.Link.Readiness
