import Airfi.Machine
import Airfi.Coroutine
import Airfi.Timeline
import Airfi.Convergence
import Airfi.Packing
import Airfi.Rounding
import Airfi.OrderedDict
import Airfi.Const
import Airfi.Discovery.Listener
import Airfi.Discovery.ListenerSafety
import Airfi.Discovery.Lifecycle
import Airfi.Discovery.LifecycleSafety
import Airfi.Discovery.Teardown
import Airfi.Discovery.Announcement
import Airfi.Modbus.Client
import Airfi.Modbus.Session
import Airfi.Modbus.Operation
import Airfi.Modbus.Completeness
import Airfi.Modbus.Tasks
import Airfi.Modbus.Standing
import Airfi.Modbus.Serialised
import Airfi.Modbus.Linearised
import Airfi.Modbus.Phases
import Airfi.Coordinator.Poll
import Airfi.Coordinator.ExtensionBatch
import Airfi.Coordinator.Cache
import Airfi.Coordinator.CacheInvariant
import Airfi.Coordinator.CacheFreshness
import Airfi.Coordinator.CacheAdequacy
import Airfi.Entries.Store
import Airfi.Entries.Flow
import Airfi.Entries.Identity
import Airfi.Entries.FlowInvariant
import Airfi.Entries.Coherence
import Airfi.Entries.Announcements
import Airfi.Entries.AnnouncementOrder
import Airfi.Entries.Reloads
import Airfi.Entries.Endpoint
import Airfi.Entries.Offered
import Airfi.Entries.Setup
import Airfi.Entries.SetupFreshness
import Airfi.Entries.Options
import Airfi.Entries.OptionsSafety
import Airfi.Connections.Jobs
import Airfi.Connections.Clients
import Airfi.Connections.Lines
import Airfi.Connections.Consistency
import Airfi.Connections.Exclusion
import Airfi.Simulator.Server
import Airfi.Simulator.Frames
import Airfi.Simulator.Responses
import Airfi.Simulator.Simulation
import Airfi.Simulator.Agreement
import Airfi.Platforms.Number
import Airfi.Platforms.DecimalContext
import Airfi.Coordinator.CacheEffects
import Airfi.Platforms.Descriptors
import Airfi.Platforms.Commands
import Airfi.Platforms.Controls
import Airfi.Platforms.Stack
import Airfi.Platforms.Panel
import Airfi.Connections.Permissions
import Airfi.Connections.Requests
import Airfi.Framing
import Airfi.Simulator.Handler
import Airfi.Simulator.Sessions
import Airfi.Simulator.Streams
import Airfi.Binary64
import Airfi.Printing
import Airfi.Platforms.Floats
import Airfi.Platforms.FloatPanel
import Airfi.Coordinator.CacheRepair
import Airfi.Platforms.Displays
import Airfi.Entries.FlowChanges
import Airfi.Entries.Rediscovery
import Airfi.Entries.Forms
import Airfi.Modbus.Progress
import Airfi.Entries.Origins
import Airfi.Entries.Devices
import Airfi.Entries.Settling
