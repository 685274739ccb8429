import Rapidapp.Framework.FrameLifetime
import Rapidapp.Framework.FrameBorders
import Rapidapp.Framework.PoolExact
import Rapidapp.Framework.SpeedLimits
import Rapidapp.Framework.Timer
import Rapidapp.Framework.RpcReplies
import Rapidapp.Coroutine.Discipline
import Rapidapp.Connector.Addressing
import Rapidapp.Connector.AcceptedNumbers
import Rapidapp.Connector.InvalidMessages
import Rapidapp.Connector.Client
import Rapidapp.Connector.ClientAnnounce
import Rapidapp.Connector.ClientNotices
import Rapidapp.Connector.MessageLeaks
import Rapidapp.Connector.Callbacks
import Rapidapp.Connector.FrameLimits
import Rapidapp.Utils.SendQueue
import Rapidapp.Framework.BackEndStates
import Rapidapp.Framework.Restart
import Rapidapp.Framework.RpcDestroy
import Rapidapp.Framework.WalkRounds
import Rapidapp.Framework.TimerList
import Rapidapp.Coroutine.Ids
import Rapidapp.Framework.SendFrames
import Rapidapp.Connector.HeaderLengths
import Rapidapp.Utils.QueueOffsets
import Rapidapp.Connector.QueueBlocks
import Rapidapp.Framework.RpcFrames
import Rapidapp.Framework.SetUp
import Rapidapp.Framework.CtrlMsg
import Rapidapp.Misc.Turns
import Rapidapp.Connector.BackEndTurns
import Rapidapp.Framework.ReplyDecoders
import Rapidapp.Misc.Decimal
import Rapidapp.Misc.CString
import Rapidapp.Utils.SocketUri
import Rapidapp.Framework.ListenUri
import Rapidapp.Utils.SocketConnect
import Rapidapp.Misc.Json
import Rapidapp.Utils.JsonReader
import Rapidapp.Misc.JsonText
import Rapidapp.Utils.JsonWriter
import Rapidapp.Utils.JsonStrings
import Rapidapp.Framework.CloseCalls
import Rapidapp.Framework.Removals
import Rapidapp.Framework.EasyRpcClosure
import Rapidapp.Framework.ClosureRuns
import Rapidapp.Framework.ClosureReplies
import Rapidapp.Misc.Lane
import Rapidapp.Framework.OpenNets
import Rapidapp.Connector.Talk
import Rapidapp.Connector.Serving
import Rapidapp.Connector.Beside
import Rapidapp.Connector.ClientTurn
import Rapidapp.Connector.ClientStages
import Rapidapp.Connector.GeneratedLaws
import Rapidapp.Connector.ClientSent
import Rapidapp.Connector.Conversation
import Rapidapp.Connector.ConversationOk
import Rapidapp.Connector.ConversationStart
import Rapidapp.Connector.ConversationRuns
import Rapidapp.Connector.ServerDemo
import Rapidapp.Connector.WireCode
import Rapidapp.Connector.Echo
import Rapidapp.Framework.RpcPair
import Rapidapp.Framework.RpcPairCaller
import Rapidapp.Framework.RpcPairServer
import Rapidapp.Framework.RpcPairTurns
import Rapidapp.Framework.RpcPairRuns
