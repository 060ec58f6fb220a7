import RLib.Bootstrap.MultiMsg
import RLib.Bootstrap.MultiMsgEncode
import RLib.Bootstrap.MultiMsgRoundTrip
import RLib.Bootstrap.MultiMsgDecode
import RLib.Bootstrap.MultiMsgSafety
import RLib.Bootstrap.SRpc
import RLib.Bootstrap.Wire
import RLib.Bootstrap.EventLoop
import RLib.Bootstrap.Isolation
import RLib.Foundation.Run
import RLib.Bootstrap.RpcNetwork
import RLib.Bootstrap.ReplyMatching
import RLib.Foundation.Ring
import RLib.Qps.Recv
import RLib.Utils.AbsFactory
import RLib.Proto
import RLib.RCtrl
import RLib.Control.Creates
import RLib.Control.AllOrNothing
import RLib.Control.Host
import RLib.Control.Registries
import RLib.Control.ChannelCq
import RLib.Qps.RecvIter
import RLib.Qps.RecvBalance
import RLib.Qps.RecvSweep
import RLib.Qps.RecvRing
import RLib.Control.Endpoint
import RLib.Control.SharedCq
import RLib.Qps.RecvFailure
import RLib.Control.CreateRC
import RLib.Control.KeySecrecy
import RLib.Control.Deletion
import RLib.Qps.Send
import RLib.Qps.SendProgress
import RLib.Qps.SignalCount
import RLib.Bootstrap.Answering
import RLib.ConnectManager
import RLib.Control.Exchange
import RLib.Control.Fetch
import RLib.Control.Committed
import RLib.Control.TwoEnds
import RLib.Control.Mirror
import RLib.Qps.Doorbell
import RLib.Qps.DoorbellChain
import RLib.Qps.DoorbellRing
import RLib.Bootstrap.MultiMsgAppend
import RLib.Bootstrap.AppendSound
import RLib.Qps.SendFailure
import RLib.Qps.WaitComp
import RLib.Control.Heartbeats
import RLib.Control.RemoteDelete
import RLib.Control.QueryOnly
import RLib.Control.MsgRequest
import RLib.Control.NameFields
import RLib.Qps.Retry
import RLib.Utils.FactoryMap
import RLib.Bootstrap.RecvSocket
import RLib.Control.ConfigEffect
import RLib.Qps.RecvReuse
import RLib.Utils.IpName
import RLib.Utils.HostCache
import RLib.Control.Holdings
import RLib.Foundation.Extent
import RLib.Control.RecvBuffers
import RLib.Foundation.Arc
import RLib.Lifetimes
import RLib.Lifetimes.Orderly
import RLib.Foundation.Member
import RLib.Qps.OneSided
import RLib.Control.DaemonThreads
import RLib.Foundation.Reaping
import RLib.Qps.Unreaped
import RLib.Benchs.Outstanding
import RLib.Benchs.Workers
import RLib.Examples.Receiver
import RLib.Examples.RcOverflow
