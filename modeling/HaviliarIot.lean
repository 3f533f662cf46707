import HaviliarIot.Runs
import HaviliarIot.Cbor
import HaviliarIot.GatewayLedger
import HaviliarIot.Channel
import HaviliarIot.Ingress
import HaviliarIot.Node
import HaviliarIot.NodeDeadlock
import HaviliarIot.Medium
import HaviliarIot.TwoNode
import HaviliarIot.Roles
import HaviliarIot.Agreement
import HaviliarIot.Actuation
import HaviliarIot.Settling
import HaviliarIot.Handshake
import HaviliarIot.ResponseTime
import HaviliarIot.Rendezvous
import HaviliarIot.Checked
import HaviliarIot.Servo
import HaviliarIot.Capacity
import HaviliarIot.LengthPrefix
import HaviliarIot.HalfDuplex
import HaviliarIot.ForwardPath
import HaviliarIot.Positions
import HaviliarIot.Outstanding
import HaviliarIot.AirOrder
import HaviliarIot.Status
import HaviliarIot.Cooperative
import HaviliarIot.SharedController
import HaviliarIot.Airtime
import HaviliarIot.Angle
import HaviliarIot.Boards
import HaviliarIot.Gate
import HaviliarIot.Link
import HaviliarIot.Measurements
import HaviliarIot.Pipeline
import HaviliarIot.Broadcast
import HaviliarIot.Revival
import HaviliarIot.Beacon
import HaviliarIot.Coexistence
import HaviliarIot.Audience
import HaviliarIot.Peripherals
import HaviliarIot.Sweep
import HaviliarIot.Draining
import HaviliarIot.Recovery
