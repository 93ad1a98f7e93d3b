import Presidium.Lib.LittleEndian
import Presidium.Crypto.Primitives
import Presidium.Crypto.Ratchet
import Presidium.Crypto.RatchetLemmas
import Presidium.Lib.Duplex
import Presidium.Crypto.RatchetAgreement
import Presidium.Crypto.Symbolic
import Presidium.Crypto.Identity
import Presidium.Crypto.Pqxdh
import Presidium.Crypto.PqxdhAgreement
import Presidium.Storage.SessionState
import Presidium.Storage.Database
import Presidium.Demo.Session
import Presidium.Demo.Handshake
import Presidium.Demo.ChatPair
import Presidium.Demo.HandshakeAgreement
import Presidium.Demo.SymbolicJson
import Presidium.Demo.TwoWayChat
import Presidium.Crypto.RatchetRuns
import Presidium.Crypto.Replay
import Presidium.Demo.Rejected
import Presidium.Demo.Group
import Presidium.Demo.App
import Presidium.Demo.Dispatch
import Presidium.Demo.Steady
import Presidium.Demo.Process
import Presidium.Demo.Restart
import Presidium.Crypto.Secrecy
import Presidium.Demo.ForwardSecrecy
import Presidium.Crypto.IdentityBinding
import Presidium.Demo.Persistence
import Presidium.Demo.EnvelopeBinding
import Presidium.Lib.Engine
import Presidium.Storage.Transaction
import Presidium.Storage.File
import Presidium.Storage.Reuse
import Presidium.Storage.Prekeys
import Presidium.Lib.InOrder
import Presidium.Demo.GroupDelivery
import Presidium.Demo.GroupLoss
import Presidium.Demo.Arms
import Presidium.Demo.Loop
import Presidium.Demo.ControlMessages
import Presidium.Demo.Inbound
import Presidium.Demo.Accepted
import Presidium.Demo.Serving
import Presidium.Demo.FailedWrites
import Presidium.Demo.DeliveryStatus
import Presidium.Crypto.SendingChain
import Presidium.Storage.Nonces
import Presidium.Storage.Renewal
import Presidium.Crypto.SkippedKeys
import Presidium.Crypto.AssociatedData
import Presidium.Crypto.BundleIntegrity
import Presidium.Crypto.OneTimeLeg
import Presidium.Storage.PrekeyKinds
import Presidium.Lib.Keyset
import Presidium.Storage.Pagination
import Presidium.Lib.Ledger
import Presidium.Network.DirectMessages
import Presidium.Lib.Calls
import Presidium.Sqleet.Connection
import Presidium.Sqleet.HandleLife
import Presidium.Demo.PeerAddress
import Presidium.Lib.WhileLoop
import Presidium.Crypto.CatchUp
import Presidium.Demo.HandshakeErrors
import Presidium.Lib.ByteStream
import Presidium.Network.Codec
import Presidium.Storage.Migrations
import Presidium.Lib.Table
import Presidium.Storage.Tables
import Presidium.Demo.Backpressure
import Presidium.Storage.MapStore
import Presidium.Storage.StoreRuns
import Presidium.Lib.Protocol
import Presidium.Lib.Realizes
import Presidium.Lib.Replicas
import Presidium.Sqleet.StatementLife
import Presidium.Sqleet.Migrations
import Presidium.Storage.Crdt
import Presidium.Storage.DocReplicas
import Presidium.Storage.TreeText
import Presidium.Network.Cluster
import Presidium.Demo.NodesAgree
import Presidium.Demo.LinesArrive
import Presidium.Demo.HandshakeCompletes
