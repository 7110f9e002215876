import Smw.Foundation.OrderedMap
import Smw.Foundation.Execution
import Smw.Foundation.Fairness
import Smw.Foundation.LastWord
import Smw.Foundation.Custody
import Smw.Foundation.Backlog
import Smw.Foundation.Bytes
import Smw.Foundation.Reading
import Smw.Foundation.WireFormat
import Smw.Foundation.Mutexes
import Smw.Foundation.Text
import Smw.HostId
import Smw.ServiceDescription
import Smw.EventNames
import Smw.ServiceRegistry
import Smw.PendingMessages
import Smw.DiscoveryHistory
import Smw.StopMessages
import Smw.RequestThreads
import Smw.DiscoveryAgreement
import Smw.RegistryClearing
import Smw.RegistryShutdown
import Smw.ServiceSkeleton
import Smw.ServiceObjects
import Smw.ServiceObservers
import Smw.ObserverCalls
import Smw.SamplePtr
import Smw.IceoryxWriter
import Smw.IceoryxRoundTrip
import Smw.ReceivedSamples
import Smw.FastDDSDataType
import Smw.DiscoveryEncoding
import Smw.DiscoveryTransport
import Smw.FastDDSParticipant
import Smw.TopicTypes
import Smw.SerialisationFailures
import Smw.SerializerIdl
import Smw.Publisher
import Smw.PublisherOverloads
import Smw.ChunkOwnership
import Smw.Subscriber
import Smw.SubscriberReaders
import Smw.SubscriberExclusion
import Smw.SwitchOver
import Smw.ReceiveHandlers
import Smw.HandlerLocks
import Smw.Readers
import Smw.FastDDSReaderCallback
import Smw.ExecutorThread
import Smw.FastDDSDataReader
import Smw.IceoryxReaderCallback
import Smw.EndToEnd
import Smw.DiscoveryConvergence
import Smw.DiscoveryLiveness
