import AmbientProxy.Lib.Transition
import AmbientProxy.Lib.Loops
import AmbientProxy.Lib.Notify
import AmbientProxy.Lib.Consumers
import AmbientProxy.Lib.Enumeration
import AmbientProxy.Lib.Codec
import AmbientProxy.Lib.Numerals
import AmbientProxy.Lib.Fragments
import AmbientProxy.Lib.Network
import AmbientProxy.Lib.Sharing
import AmbientProxy.Lib.Totals
import AmbientProxy.Lib.UnixPath
import AmbientProxy.Lib.FileSystem
import AmbientProxy.Lib.FileTrees
import AmbientProxy.Protocol
import AmbientProxy.Error
import AmbientProxy.Bytes
import AmbientProxy.Streams
import AmbientProxy.StreamCopies
import AmbientProxy.FriendlyId
import AmbientProxy.Startup
import AmbientProxy.ControlStream
import AmbientProxy.Management
import AmbientProxy.Assets
import AmbientProxy.AssetWakeUps
import AmbientProxy.AssetIntegrity
import AmbientProxy.AssetAccounting
import AmbientProxy.AssetUploads
import AmbientProxy.AssetRequests
import AmbientProxy.AssetTimeouts
import AmbientProxy.AssetCount
import AmbientProxy.ProxyServer
import AmbientProxy.PlayerRegistry
import AmbientProxy.Allocation
import AmbientProxy.AllocationFailures
import AmbientProxy.PortSelection
import AmbientProxy.LoopBlocking
import AmbientProxy.Client
import AmbientProxy.PendingResources
import AmbientProxy.ConsumerWakeUps
import AmbientProxy.Ingestion
import AmbientProxy.World
import AmbientProxy.Attribution
import AmbientProxy.AllocationOrder
import AmbientProxy.Paths
import AmbientProxy.PreCaching
import AmbientProxy.DirectoryStack
import AmbientProxy.AssetPaths
import AmbientProxy.Drain
import AmbientProxy.DrainErrors
import AmbientProxy.AllocatedAssets
import AmbientProxy.HttpInterface
import AmbientProxy.HttpResponses
import AmbientProxy.HttpLookups
import AmbientProxy.HttpMetrics
import AmbientProxy.AllocationWakeUp
import AmbientProxy.ProxyReferences
import AmbientProxy.ProxyLifetimes
import AmbientProxy.Lib.Framing
import AmbientProxy.Lib.FramedRead
import AmbientProxy.ControlMessages
import AmbientProxy.ControlFrames
import AmbientProxy.ControlChannel
import AmbientProxy.WireWorld
import AmbientProxy.StreamWorld
import AmbientProxy.StreamAttribution
import AmbientProxy.HttpIsolation
