import Ocvsmd.Runs
import Ocvsmd.FifoSession
import Ocvsmd.RouteCodec
import Ocvsmd.Gateway
import Ocvsmd.ClientRouter
import Ocvsmd.ServerRouter
import Ocvsmd.ChannelView
import Ocvsmd.ClientChannel
import Ocvsmd.ServerChannel
import Ocvsmd.Network
import Ocvsmd.GatewayHistory
import Ocvsmd.PipeLoss
import Ocvsmd.ServerPipeLoss
import Ocvsmd.SendSequence
import Ocvsmd.SocketBase
import Ocvsmd.FrameSend
import Ocvsmd.FrameReceive
import Ocvsmd.PayloadCut
import Ocvsmd.ExecCmdSpec
import Ocvsmd.ExecCmdService
import Ocvsmd.Daemon
import Ocvsmd.DaemonChannels
import Ocvsmd.ClientEvents
import Ocvsmd.ExecCmdClient
import Ocvsmd.ResultReceiver
import Ocvsmd.CommandNetwork
import Ocvsmd.CommandResult
import Ocvsmd.OneEnding
import Ocvsmd.ServerGateways
import Ocvsmd.Envelope
import Ocvsmd.FrameParser
import Ocvsmd.ExecCmdFsm
import Ocvsmd.SocketPipe
import Ocvsmd.Executors
import Ocvsmd.Selection
import Ocvsmd.ServerIsolation
import Ocvsmd.Handshake
import Ocvsmd.RouterSteps
import Ocvsmd.Chrono
import Ocvsmd.CommandTimeout
import Ocvsmd.PollTimeout
import Ocvsmd.Registration
import Ocvsmd.StringView
import Ocvsmd.MediaCollections
import Ocvsmd.Toml
import Ocvsmd.Config
import Ocvsmd.CString
import Ocvsmd.SocketAddress
import Ocvsmd.InetText
import Ocvsmd.TcpGrammar
import Ocvsmd.AddressRoundTrip
import Ocvsmd.ConnectedBroadcast
import Ocvsmd.FrameStream
import Ocvsmd.PipeFrame
import Ocvsmd.SocketNetwork
import Ocvsmd.SocketCan
import Ocvsmd.Holdings
import Ocvsmd.OwnFd
import Ocvsmd.PipeDescriptors
import Ocvsmd.Settings
import Ocvsmd.EngineInit
import Ocvsmd.Startup
import Ocvsmd.StartupReport
import Ocvsmd.StartupMoves
import Ocvsmd.StartupEnds
import Ocvsmd.PidFileLock
import Ocvsmd.CommandAsked
import Ocvsmd.CommandCarried
import Ocvsmd.CommandLoad
import Ocvsmd.CommandEnds
import Ocvsmd.MediaSockets
import Ocvsmd.MediaDescriptors
