import CallCenter.DbSync.Task
import CallCenter.Framework.BoundedFifo
import CallCenter.Framework.LinkedHeap
import CallCenter.Framework.Transition
import CallCenter.Framework.Streak
import CallCenter.DbSync.Queue
import CallCenter.EventLoop.Model
import CallCenter.EventLoop.Table
import CallCenter.EventLoop.SipSocket
import CallCenter.DbMysql.Pool
import CallCenter.DbMysql.Agents
import CallCenter.DbSync.Worker
import CallCenter.Framework.Interference
import CallCenter.DbSync.Shutdown
import CallCenter.DbRedis.Client
import CallCenter.DbRedis.Hmset
import CallCenter.DbSync.Sync
import CallCenter.DbSync.AgentCache
import CallCenter.DbSync.Agreement
import CallCenter.DbSync.Freshness
import CallCenter.DbSync.WarmUp
import CallCenter.Framework.CMemory
import CallCenter.SipHandler.Message
import CallCenter.SipHandler.Lines
import CallCenter.SipHandler.Parse
import CallCenter.SipHandler.StartLine
import CallCenter.LuaUtils.CallRoute
import CallCenter.Framework.LuaApi
import CallCenter.LuaUtils.Dispatch
import CallCenter.Framework.Utf8
import CallCenter.LuaUtils.ResponseText
import CallCenter.SipHandler.Dispatch
import CallCenter.SipHandler.Values
import CallCenter.SipHandler.Response
import CallCenter.SipHandler.NameAddr
import CallCenter.EventLoop.Stream
import CallCenter.EventLoop.SendState
import CallCenter.EventLoop.CallbackTrace
import CallCenter.EventLoop.Datagrams
import CallCenter.DbMysql.PoolRace
import CallCenter.DbMysql.PoolBorrow
import CallCenter.LuaUtils.Reload
import CallCenter.Framework.SqlText
import CallCenter.DbMysql.Statements
import CallCenter.Framework.LuaNumber
import CallCenter.Framework.Script
import CallCenter.Route.State
import CallCenter.Route.Interfaces
import CallCenter.Route.Steps
import CallCenter.Route.Decision
import CallCenter.Route.External
import CallCenter.Route.Loading
import CallCenter.Route.Extensions
import CallCenter.Route.Handout
import CallCenter.Route.Repetition
import CallCenter.Route.Retransmission
import CallCenter.Route.Retries
import CallCenter.Route.Policy
import CallCenter.Route.KeyPolicy
import CallCenter.Framework.RingLog
import CallCenter.Route.CallLog
import CallCenter.Framework.NestedTable
import CallCenter.Route.ConfigUpdate
import CallCenter.Framework.BoundedPrint
import CallCenter.DbRedis.Hgetall
import CallCenter.DbMysql.IdleAgents
import CallCenter.DbSync.DeptIdle
import CallCenter.Framework.LineReader
import CallCenter.DbMysql.Schema
import CallCenter.DbSync.CallSession
import CallCenter.SipHandler.Grammar
import CallCenter.SipHandler.Complete
import CallCenter.SipHandler.Body
import CallCenter.SipHandler.Order
import CallCenter.DbSync.HealthCheck
import CallCenter.EventLoop.Frame
import CallCenter.EventLoop.HalfClose
import CallCenter.DbSync.Seed
import CallCenter.Framework.Ownership
import CallCenter.DbRedis.Hiredis
import CallCenter.DbRedis.Ownership
import CallCenter.Route.Auxiliary
import CallCenter.Route.Shipped
import CallCenter.Route.Traffic
import CallCenter.CallTest.Simulation
import CallCenter.Main.Lifecycle
import CallCenter.DbSync.Persistence
import CallCenter.DbSync.TaskMemory
import CallCenter.DbMysql.PoolLedger
import CallCenter.EventLoop.IdleBound
import CallCenter.DbRedis.Cache
import CallCenter.DbSync.Reseeding
