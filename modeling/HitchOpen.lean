import HitchOpen.Library.EventMachine
import HitchOpen.Library.Erasure
import HitchOpen.Library.Topic
import HitchOpen.Library.Gaps
import HitchOpen.Library.FirstMinimum
import HitchOpen.Library.ClosedTrack
import HitchOpen.Library.DelimitedText
import HitchOpen.Library.SegmentDistance
import HitchOpen.Library.FirstMatch
import HitchOpen.Library.Smoothing
import HitchOpen.Library.CsvReader
import HitchOpen.Common.Messages
import HitchOpen.Common.Runtime
import HitchOpen.Common.Reals
import HitchOpen.Common.Double
import HitchOpen.Common.VehicleFlag
import HitchOpen.BaseCommon.Flags
import HitchOpen.BaseCommon.CycleProfiler
import HitchOpen.BaseCommon.FlagDecoding
import HitchOpen.BaseCommon.RateLimiter
import HitchOpen.BaseCommon.LowPassFilter
import HitchOpen.CompetitionTimer.TimerNode
import HitchOpen.CompetitionTimer.LapLedger
import HitchOpen.CompetitionTimer.LapTiming
import HitchOpen.CompetitionTimer.ClockReadings
import HitchOpen.CompetitionTimer.CallbackExceptions
import HitchOpen.CompetitionTimer.FinishLinePassages
import HitchOpen.CompetitionTimer.SavedResults
import HitchOpen.CompetitionTimer.FlagIndependence
import HitchOpen.CompetitionTimer.PublishedFlag
import HitchOpen.CompetitionTimer.FinishLine
import HitchOpen.KeyboardController.KeyboardNode
import HitchOpen.KeyboardController.ActuatorCommands
import HitchOpen.SimpleControl.ControllerManager
import HitchOpen.SimpleControl.FlagFreshness
import HitchOpen.SimpleControl.FlagAgreement
import HitchOpen.SimpleControl.PidController
import HitchOpen.SimpleControl.MpcController
import HitchOpen.SimpleControl.Plugins
import HitchOpen.SimpleControl.WaypointAccess
import HitchOpen.SimpleControl.AccelerationSlew
import HitchOpen.SimpleControl.PausedIntegral
import HitchOpen.SimpleControl.AccelerationLimits
import HitchOpen.SimpleControl.ReferenceHeading
import HitchOpen.SimpleControl.SteeringSymmetry
import HitchOpen.GlobalPlanning.PlanningNode
import HitchOpen.GlobalPlanning.WaypointSearch
import HitchOpen.GlobalPlanning.TrackFile
import HitchOpen.GlobalPlanning.StartupOrder
import HitchOpen.GlobalPlanning.LocalPath
import HitchOpen.GlobalPlanning.TrackLength
import HitchOpen.GlobalPlanning.ClosestAgreement
import HitchOpen.GlobalPlanning.TrackFileFormat
import HitchOpen.AutowareLgsvlInterface.InterfaceNode
import HitchOpen.GpsToEnu.ConvertCsv
import HitchOpen.GpsToEnu.TrackRoundTrip
import HitchOpen.GpsToEnu.Ellipsoid
import HitchOpen.GpsToEnu.RigidMotion
import HitchOpen.GpsToEnu.RecordedTable
import HitchOpen.CompetitionTimer.LostLaps
import HitchOpen.CompetitionTimer.LapIntervals
import HitchOpen.LgsvlBridge.RequestStream
import HitchOpen.LgsvlBridge.Messages
import HitchOpen.LgsvlBridge.MessageTypes
import HitchOpen.LgsvlInterface.Reports
import HitchOpen.AutowareLgsvlInterface.DrivingCommands
import HitchOpen.SimpleControl.PlannedPaths
import HitchOpen.BaseCommon.FlagUpdates
import HitchOpen.GpsToEnu.RecordedRoute
import HitchOpen.BaseCommon.FilterRuns
import HitchOpen.BaseCommon.PubSub
