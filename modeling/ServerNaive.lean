import ServerNaive.Transport.PaddingRoundTrip
import ServerNaive.Handler.Connect
import ServerNaive.Handler.Relay
import ServerNaive.Uot.Egress
import ServerNaive.Uot.Output
import ServerNaive.Core.RelayEof
import ServerNaive.Handler.Revocation
import ServerNaive.Async.Prompt
import ServerNaive.Uot.RoundTrip
import ServerNaive.Transport.PaddingReference
import ServerNaive.Handler.Request
import ServerNaive.Handler.Tunnel
import ServerNaive.Handler.Admission
import ServerNaive.Handler.Answer
import ServerNaive.Async.Pipe
import ServerNaive.Transport.Bridge
import ServerNaive.Transport.BridgeProgress
import ServerNaive.Transport.BridgeSystem
import ServerNaive.Async.Phase
import ServerNaive.Transport.QuicheStream
import ServerNaive.Handler.ResponseEnd
import ServerNaive.Async.Resume
import ServerNaive.Uot.Loops
import ServerNaive.Handler.Kick
import ServerNaive.Handler.Calls
import ServerNaive.Async.Semaphore
import ServerNaive.ConfigAuto
import ServerNaive.Runner
import ServerNaive.Async.Record
import ServerNaive.Transport.PaddingWake
import ServerNaive.Transport.PaddingExact
import ServerNaive.Transport.PaddingRefused
import ServerNaive.Async.Credit
import ServerNaive.Core.RelayWake
import ServerNaive.Uot.Input
import ServerNaive.Async.Channel
import ServerNaive.Core.RelayIdle
import ServerNaive.Transport.QuicheReader
import ServerNaive.Transport.BridgeData
import ServerNaive.Async.Routine
import ServerNaive.Uot.Accounting
import ServerNaive.Uot.Reply
import ServerNaive.Acl
import ServerNaive.Handler.DialOptions
import ServerNaive.Bits.Xorshift
import ServerNaive.Transport.PaddingPrng
import ServerNaive.Transport.PaddingBounds
import ServerNaive.Core.Authority
import ServerNaive.TargetKind
import ServerNaive.Async.Duplex
import ServerNaive.Async.DuplexPipe
import ServerNaive.Handler.H2Tunnel
import ServerNaive.Handler.H3Tunnel
import ServerNaive.Transport.PaddingPair
import ServerNaive.Async.Dutiful
import ServerNaive.Async.Emission
import ServerNaive.Handler.H3Completes
import ServerNaive.Handler.H3Datagrams
import ServerNaive.Main.Deadline
import ServerNaive.Main.Drain
import ServerNaive.Async.HeldUp
import ServerNaive.Handler.H2Rest
import ServerNaive.Bits.Block
import ServerNaive.Core.PrivateBlocks
import ServerNaive.Handler.GuardedDial
import ServerNaive.RulesFile
