import Aspl.Base.Arithmetic
import Aspl.Base.Bitset
import Aspl.Base.Buffer
import Aspl.Base.Catalog
import Aspl.Base.Composition
import Aspl.Base.CriticalSection
import Aspl.Base.EncodedMap
import Aspl.Base.FloatingPoint
import Aspl.Base.Locking
import Aspl.Base.Mirror
import Aspl.Base.NestedMap
import Aspl.Base.OrderedMap
import Aspl.Base.References
import Aspl.Base.RunningMaximum
import Aspl.Base.Scopes
import Aspl.Base.SharedLock
import Aspl.Base.Simulation
import Aspl.Base.System
import Aspl.Base.Termination
import Aspl.CoreAudio
import Aspl.CoreAudio.ChannelLayout
import Aspl.Device.AbortedChanges
import Aspl.Device.AsyncSetters
import Aspl.Device.AsyncUpdates
import Aspl.Device.Bookkeeping
import Aspl.Device.BookkeepingRuns
import Aspl.Device.ChannelViews
import Aspl.Device.CheckedUpdates
import Aspl.Device.Clients
import Aspl.Device.ClockTracking
import Aspl.Device.ConcurrentClients
import Aspl.Device.ConcurrentIO
import Aspl.Device.Configuration
import Aspl.Device.ConfigurationOrder
import Aspl.Device.DefaultStreams
import Aspl.Device.EmptyChanges
import Aspl.Device.HandlerLifetime
import Aspl.Device.Handlers
import Aspl.Device.IOOperations
import Aspl.Device.InputOutput
import Aspl.Device.LockOrder
import Aspl.Device.PreferredChannels
import Aspl.Device.Properties
import Aspl.Device.Reentrancy
import Aspl.Device.ReentrancySafety
import Aspl.Device.ReentrancyTermination
import Aspl.Device.StartStop
import Aspl.Device.StreamChanges
import Aspl.Device.StreamLifetime
import Aspl.Device.StreamsAndControls
import Aspl.Device.Timeline
import Aspl.Dispatcher.Accounting
import Aspl.Dispatcher.Allocation
import Aspl.Dispatcher.FindObject
import Aspl.Dispatcher.FindObjectSafety
import Aspl.Dispatcher.FreeSearch
import Aspl.Dispatcher.Growth
import Aspl.Dispatcher.Registration
import Aspl.Dispatcher.Registry
import Aspl.DoubleBuffer.Completion
import Aspl.DoubleBuffer.Contents
import Aspl.DoubleBuffer.Locks
import Aspl.DoubleBuffer.Model
import Aspl.DoubleBuffer.Progress
import Aspl.DoubleBuffer.Register
import Aspl.DoubleBuffer.Safety
import Aspl.DoubleBuffer.Updates
import Aspl.Driver.Bridge
import Aspl.Object.AccessorTables
import Aspl.Object.Accessors
import Aspl.Object.CustomProperties
import Aspl.Object.OwnedObjects
import Aspl.Object.Ownership
import Aspl.Object.OwnershipLinks
import Aspl.Object.OwnershipRuns
import Aspl.Object.OwnershipView
import Aspl.Object.PropertyData
import Aspl.Object.PropertyProviders
import Aspl.Object.Reparenting
import Aspl.Object.Resolution
import Aspl.Object.SyncSetters
import Aspl.Object.UseCount
import Aspl.Plugin.ConcurrentDevices
import Aspl.Plugin.DeviceLookups
import Aspl.Plugin.DeviceNotifications
import Aspl.Plugin.Devices
import Aspl.Storage.Convert
import Aspl.Storage.Implementation
import Aspl.Storage.Operations
import Aspl.Storage.TypedMap
import Aspl.Stream.Processing
import Aspl.Tracer.Model
import Aspl.Tracer.Nesting
import Aspl.Volume.Continuity
import Aspl.Volume.Control
import Aspl.Volume.Conversions
import Aspl.Volume.Curve
import Aspl.Volume.Faults
import Aspl.Volume.FloatingPoint
import Aspl.Volume.Notifications
import Aspl.Volume.Ranges
import Aspl.Volume.ReadBack
import Aspl.Volume.Setters
import Aspl.Volume.TransferFunctions
