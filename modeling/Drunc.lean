import Drunc.Interruption
import Drunc.Handover
import Drunc.Endpoints
import Drunc.ProcessHistory
import Drunc.ChildOutcomes
import Drunc.Convergence
import Drunc.ProcessSelection
import Drunc.ProcessRestart
import Drunc.Supervision
import Drunc.Broadcasting
import Drunc.ResponseListener
import Drunc.Phases
import Drunc.Agreement
import Drunc.Booting
import Drunc.ProcessFlush
import Drunc.ChildRecord
import Drunc.Tolerance
import Drunc.Inclusion
import Drunc.Refusals
import Drunc.Description
import Drunc.FsmConfiguration
import Drunc.SegmentSearch
import Drunc.TreeIds
import Drunc.ProcessEnvironments
import Drunc.ShellResponses
import Drunc.StatusTable
import Drunc.ShellOptions
import Drunc.Addressing
import Drunc.StatusGathering
import Drunc.DatalessCommands
import Drunc.LookupTimeout
import Drunc.ConnectivityService
import Drunc.Actions
import Drunc.ProcessTable
import Drunc.ProcessListing
import Drunc.Retirement
import Drunc.Unison
import Drunc.SessionIsolation
import Drunc.ShellSession
import Drunc.StatusReport
import Drunc.ExecutionReport
import Drunc.TypedCommand
import Drunc.Advertising
import Drunc.ShellControl
import Drunc.Construction
import Drunc.Commissioning
