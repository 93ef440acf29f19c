import ActorModelServer.Library.Runs
import ActorModelServer.Library.ThreadTable
import ActorModelServer.SessionIo.Machine
import ActorModelServer.SessionIo.Moves
import ActorModelServer.SessionIo.StrandedPacket
import ActorModelServer.SessionIo.Release
import ActorModelServer.SessionIo.IoCount
import ActorModelServer.SessionIo.SendMode
import ActorModelServer.SessionIo.SendOrder
import ActorModelServer.SessionIo.BufferOwnership
import ActorModelServer.Actor.Mailbox
import ActorModelServer.Actor.MessageOrder
import ActorModelServer.Actor.Stop
import ActorModelServer.Server.LogicFrame
import ActorModelServer.Mediator.Model
import ActorModelServer.Mediator.Story
import ActorModelServer.Mediator.Outcome
import ActorModelServer.Mediator.Trade
import ActorModelServer.Mediator.HookCalls
import ActorModelServer.Mediator.OneOutcome
import ActorModelServer.Mediator.Sweep
import ActorModelServer.Mediator.Deadline
import ActorModelServer.Mediator.VoteOrder
import ActorModelServer.Server.ShardLocks
import ActorModelServer.Server.CompletionRouting
import ActorModelServer.Library.Framing
import ActorModelServer.Library.ShardedMap
import ActorModelServer.Server.Registry
import ActorModelServer.Mediator.LivePairs
import ActorModelServer.Server.RegistrationCallbacks
import ActorModelServer.Server.UserCount
import ActorModelServer.Server.ReleaseQueue
import ActorModelServer.Server.FrameHooks
import ActorModelServer.Server.IoShutdown
import ActorModelServer.Server.ThreadLoops
import ActorModelServer.Server.HookLocks
import ActorModelServer.Server.SessionCreation
import ActorModelServer.Server.Startup
import ActorModelServer.Library.Fallible
import ActorModelServer.Server.Placement
import ActorModelServer.Network.NetBuffer
import ActorModelServer.Network.Receive
import ActorModelServer.Network.Reassembly
import ActorModelServer.Network.PayloadBound
import ActorModelServer.Library.Reader
import ActorModelServer.Network.Deserializer
import ActorModelServer.Network.PacketDispatch
import ActorModelServer.Network.ClientStream
import ActorModelServer.Timer.Ticker
import ActorModelServer.Timer.TimerTable
import ActorModelServer.Timer.Schedule
import ActorModelServer.Timer.TimerIds
import ActorModelServer.Network.PacketEncoders
import ActorModelServer.Client.World
import ActorModelServer.Library.Fairness
import ActorModelServer.Library.Projection
import ActorModelServer.Client.SendThread
import ActorModelServer.Client.SendProgress
import ActorModelServer.Client.ReceiveThread
import ActorModelServer.Client.ReceiveProgress
import ActorModelServer.Client.Machine
import ActorModelServer.Client.Scheduling
import ActorModelServer.Client.PingPong
import ActorModelServer.Client.Handles
import ActorModelServer.Client.Shutdown
import ActorModelServer.SessionIo.Disconnect
import ActorModelServer.Actor.Throwing
import ActorModelServer.Network.TestInjection
import ActorModelServer.Server.StartFailure
import ActorModelServer.Timer.FireCallbacks
import ActorModelServer.Timer.StopTicker
import ActorModelServer.Logger.Delivery
import ActorModelServer.Logger.ClientCount
import ActorModelServer.Logger.Progress
import ActorModelServer.Network.ReceiveLoop
import ActorModelServer.Server.Pipeline
import ActorModelServer.Server.Answers
import ActorModelServer.Server.NextFrame
