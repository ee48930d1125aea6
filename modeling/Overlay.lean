import Overlay.Main
import Overlay.Proofs.Task.Protocol
import Overlay.Proofs.Task.Likeness
import Overlay.Simulation.Agent
import Overlay.Simulation.Tunnel
import Overlay.Proofs.Route.Lookup
import Overlay.Proofs.Route.Table
import Overlay.Proofs.Tunnel.Lock
import Overlay.Proofs.Tunnel.Call
import Overlay.Proofs.Agent.Answer
import Overlay.Proofs.Agent.Course
import Overlay.Proofs.Agent.Helpers
import Overlay.Proofs.Agent.LastWriter
import Overlay.Proofs.Agent.Legs
import Overlay.Proofs.Agent.Teardown
import Overlay.Proofs.Tunnel.Serial
import Overlay.Proofs.Controller.Address
import Overlay.Proofs.Net.Subnet
import Overlay.Proofs.Tunnel.Adding
import Overlay.Proofs.Tunnel.Batch
import Overlay.Proofs.Tunnel.Session
import Overlay.Proofs.Tunnel.Shutdown
import Overlay.Proofs.Tunnel.Handling
import Overlay.Proofs.Tunnel.Conservation
import Overlay.Proofs.Tunnel.Feeding
import Overlay.Proofs.Net.Cidr
import Overlay.Proofs.Agent.Own
import Overlay.Proofs.Report.Filter
import Overlay.Proofs.Report.History
import Overlay.Proofs.Agent.Reporting
import Overlay.Proofs.Tunnel.Stopping
import Overlay.Proofs.Tunnel.Reporter
import Overlay.Proofs.Agent.Signalled
import Overlay.Proofs.Agent.Delivery
import Overlay.Proofs.Agent.Retrying
import Overlay.Proofs.Tunnel.Spelling
import Overlay.Proofs.Agent.Spelling
import Overlay.Proofs.Tunnel.Overlap
import Overlay.Proofs.Report.Calls
import Overlay.Proofs.Controller.Origin
import Overlay.Proofs.Packet
import Overlay.Proofs.Controller.Records
import Overlay.Proofs.Agent.Pacing
import Overlay.Proofs.Config.Precedence
import Overlay.Proofs.Device.Carriage
