import MeckChat.Protocol.Framing
import MeckChat.Foundation.StreamDecoder
import MeckChat.Network.StreamBuffer
import MeckChat.Foundation.Run
import MeckChat.Network.P2PSocket
import MeckChat.Network.OutgoingQueue
import MeckChat.Qt.QFile
import MeckChat.Qt.QJson
import MeckChat.Protocol.FileMessages
import MeckChat.Protocol.FileTransferController
import MeckChat.Protocol.FileTransferSteps
import MeckChat.Protocol.TransferLifecycle
import MeckChat.Protocol.TransferConsent
import MeckChat.Protocol.TransferIntegrity
import MeckChat.Protocol.TransferNetwork
import MeckChat.Protocol.TransferPhase
import MeckChat.Protocol.TransferOrder
import MeckChat.Protocol.TransferDelivery
import MeckChat.Protocol.TransferIsolation
import MeckChat.Protocol.Payload
import MeckChat.Protocol.ChatMessages
import MeckChat.Protocol.ChatController
import MeckChat.Protocol.Destinations
import MeckChat.Protocol.MessageStatus
import MeckChat.Protocol.ChatNetwork
import MeckChat.Protocol.MessageReceipts
import MeckChat.Protocol.Bystanders
import MeckChat.Protocol.ChatDelivery
import MeckChat.Protocol.PairingMessages
import MeckChat.Crypto.CryptoProvider
import MeckChat.Crypto.PairingSession
import MeckChat.Crypto.PairingSteps
import MeckChat.Crypto.Handshake
import MeckChat.Crypto.TamperEvidence
import MeckChat.Crypto.ReplayProtection
import MeckChat.Network.NetlinkWireGuard
import MeckChat.Network.WireGuardService
import MeckChat.Network.InterfaceOwnership
import MeckChat.Network.PeerTable
import MeckChat.Network.MqttCodec
import MeckChat.Network.MqttSignaling
import MeckChat.Network.MqttStream
import MeckChat.Network.MqttPublish
import MeckChat.Network.MqttSession
import MeckChat.Network.MqttReconnect
import MeckChat.Network.RetainedPresence
import MeckChat.Network.Transport
import MeckChat.Network.SteadyConnection
import MeckChat.Protocol.ChatLink
import MeckChat.Protocol.TransferStream
import MeckChat.Protocol.ChunkIds
import MeckChat.Network.DecoderBounds
import MeckChat.Network.PeerEntries
import MeckChat.Foundation.CyclicCode
import MeckChat.Protocol.Checksum
import MeckChat.Network.Resynchronisation
import MeckChat.Protocol.TransferSize
import MeckChat.Protocol.TransferPaths
import MeckChat.Protocol.TransferOutcome
import MeckChat.Crypto.PairingConsistency
import MeckChat.Crypto.ReplayWindow
import MeckChat.Protocol.DuplicateWindow
import MeckChat.Foundation.Alternation
import MeckChat.Protocol.ChatTimers
import MeckChat.Protocol.PeerTyping
import MeckChat.Protocol.AckTimers
import MeckChat.Protocol.OutgoingTyping
import MeckChat.Protocol.TransferTurns
import MeckChat.Protocol.TransferIntact
import MeckChat.Protocol.TransferResources
import MeckChat.Protocol.TransferSides
import MeckChat.Protocol.TransferTwins
import MeckChat.Protocol.PeerIsolation
import MeckChat.Crypto.PairingAgreement
import MeckChat.Network.DeviceIds
import MeckChat.Foundation.Attributes
import MeckChat.Network.NetlinkBuffer
import MeckChat.Network.SocketStates
import MeckChat.Network.DeviceMessage
import MeckChat.Network.NetlinkResponse
import MeckChat.Protocol.RoundTrips
import MeckChat.Foundation.AttributeTables
import MeckChat.Network.NetlinkMessages
import MeckChat.Network.ResponseValues
import MeckChat.Foundation.Interaction
import MeckChat.Network.NetlinkCalls
import MeckChat.Network.KernelServer
import MeckChat.Foundation.Trace
import MeckChat.Network.MqttActs
import MeckChat.Network.MqttTimers
import MeckChat.Network.MqttConversation
import MeckChat.Network.ReceiveStreams
import MeckChat.Protocol.PeerLink
import MeckChat.Protocol.ChatOverBytes
import MeckChat.Protocol.SenderStream
