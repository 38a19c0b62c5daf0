import WeChat.Lib.Wire
import WeChat.Lib.StreamDecoder
import WeChat.Lib.Framed
import WeChat.Lib.Transition
import WeChat.Lib.Table
import WeChat.Lib.Json
import WeChat.Lib.JsonText
import WeChat.Lib.JsonSchema
import WeChat.Lib.Redis
import WeChat.Lib.Tally
import WeChat.Lib.Semaphore
import WeChat.Lib.Register
import WeChat.Lib.Expiry
import WeChat.Lib.Sql
import WeChat.Lib.RedisData
import WeChat.Lib.Monitor
import WeChat.Client.TcpClient
import WeChat.Client.Requests
import WeChat.Client.HttpClient
import WeChat.Client.Connections
import WeChat.Mysql.ConnectPool
import WeChat.Mysql.Operations
import WeChat.Status.Token
import WeChat.Status.TokenHistory
import WeChat.Status.TokenFailures
import WeChat.Status.Balancer
import WeChat.Status.Connections
import WeChat.Status.Heartbeats
import WeChat.Verify.Server
import WeChat.Verify.Validity
import WeChat.Chat.Const
import WeChat.Chat.ReadChain
import WeChat.Chat.WriteChain
import WeChat.Chat.SendQueue
import WeChat.Chat.Database
import WeChat.Chat.Rows
import WeChat.Chat.History
import WeChat.Chat.Paging
import WeChat.Chat.Recent
import WeChat.Chat.Handlers
import WeChat.Chat.Schema
import WeChat.Chat.System
import WeChat.Chat.Registry
import WeChat.Chat.Registered
import WeChat.Chat.Subscriber
import WeChat.Chat.Ownership
import WeChat.Chat.Runs
import WeChat.Chat.Frames
import WeChat.Chat.Outputs
import WeChat.Chat.Callback
import WeChat.Chat.Sound
import WeChat.Chat.Delivery
import WeChat.Chat.Acknowledged
import WeChat.Chat.FanOut
import WeChat.Chat.Attribution
import WeChat.Chat.Authentication
import WeChat.Chat.Overtaking
import WeChat.Chat.Drain
import WeChat.Chat.Replies
import WeChat.Chat.StepReplies
import WeChat.Chat.AnsweredOnce
import WeChat.Chat.Friendship
import WeChat.Chat.FriendAnswer
import WeChat.Chat.Decided
import WeChat.Chat.Statements
import WeChat.Chat.OpenRequests
import WeChat.Chat.FriendLists
import WeChat.Chat.Members
import WeChat.Chat.Paths
import WeChat.Chat.Durable
import WeChat.Chat.Notices
import WeChat.Chat.Genuine
import WeChat.Chat.Presence
import WeChat.Chat.Online
import WeChat.Client.FriendDecision
import WeChat.Gate.Answered
import WeChat.Gate.Accounts
import WeChat.Gate.Literals
import WeChat.Gate.Credentials
import WeChat.Gate.Login
import WeChat.Gate.RealUser
import WeChat.Gate.CodeSent
import WeChat.Verify.Codes
import WeChat.Chat.FrameGrammar
import WeChat.Redis.RedisMgr
import WeChat.Redis.Writes
import WeChat.Redis.Reference
import WeChat.Redis.ConnectPool
import WeChat.Redis.Closed
import WeChat.Chat.Sessions
import WeChat.Chat.Shutdown
import WeChat.Chat.Search
import WeChat.Client.Channel
import WeChat.Client.Signals
import WeChat.Gate.LoginChain
import WeChat.Chat.MessageLog
import WeChat.Gate.ResetChain
import WeChat.Status.StubPool
import WeChat.Chat.PendingRequests
import WeChat.Chat.FriendsShown
import WeChat.Gate.Deadline
