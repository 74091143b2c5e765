import Cooboc.Devices.DeviceOwnership
import Cooboc.Server.BroadcastList
import Cooboc.Server.DeviceConnection
import Cooboc.Server.HttpServer
import Cooboc.SerialPacket.SaModemSoundness
import Cooboc.SerialPacket.DamagedPackets
import Cooboc.SerialPacket.DemodulatorInvariant
import Cooboc.SerialPacket.PauseRecovery
import Cooboc.HeadRest.Resynchronisation
import Cooboc.HeadRest.PublishedData
import Cooboc.Inertial.FusedGravity
import Cooboc.Inertial.SensorReads
import Cooboc.Inertial.GravityAngles
import Cooboc.Inertial.FilteredAcceleration
import Cooboc.Inertial.AvgFilter
import Cooboc.HeadRest.StopFinality
import Cooboc.HeadRest.PositionCount
import Cooboc.HeadRest.CommandDelivery
import Cooboc.Iic.DeviceSelection
import Cooboc.FlightControl.TakeoverHistory
import Cooboc.FlightControl.Authority
import Cooboc.FlightControl.AttitudeEnvelope
import Cooboc.FlightControl.PilotChannels
import Cooboc.FlightControl.SteadyTakeover
import Cooboc.FlightControl.YawError
import Cooboc.FlightControl.ServoRange
import Cooboc.FlightControl.AttitudeSource
import Cooboc.Websocket.HandlerMapConsistency
import Cooboc.Websocket.HandlerRemoval
import Cooboc.Websocket.ConnectionStatus
import Cooboc.Websocket.ReceivedMessages
import Cooboc.Mavlink.DamagedMessages
import Cooboc.Mavlink.Reports
import Cooboc.Mavlink.Channels
import Cooboc.FlightControl.PilotLine
import Cooboc.FlightControl.LineDelivery
import Cooboc.FlightControl.RadioLink
import Cooboc.HeadRest.Telemetry
import Cooboc.HeadRest.OperatorPath
import Cooboc.Infrared.Transmissions
import Cooboc.Inertial.Heading
import Cooboc.Gpio.GpioHandlers
