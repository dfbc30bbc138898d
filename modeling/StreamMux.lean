import StreamMux.Simulation.Command
import StreamMux.Window.Loop
import StreamMux.Load.Run
import StreamMux.Load.Interleaving
import StreamMux.Main
import StreamMux.Proofs.Credit
import StreamMux.Proofs.Traffic
import StreamMux.Proofs.StreamStep
import StreamMux.Proofs.Table
import StreamMux.Proofs.SessionOps
import StreamMux.Proofs.SessionStep
import StreamMux.Proofs.WellFormed
import StreamMux.Proofs.History
import StreamMux.Proofs.Outbound
import StreamMux.Proofs.Inbound
import StreamMux.Proofs.Balance
import StreamMux.Proofs.Welcome
import StreamMux.Proofs.Conversation
import StreamMux.Proofs.LinkRun
import StreamMux.Proofs.Delivery
import StreamMux.Proofs.Conservation
import StreamMux.Proofs.Origin
import StreamMux.Proofs.Concord
import StreamMux.Proofs.Settling
import StreamMux.Proofs.Batching
import StreamMux.Proofs.Starvation
import StreamMux.Proofs.Grammar
import StreamMux.Proofs.Fidelity
import StreamMux.Proofs.Alike
import StreamMux.Proofs.Isolation
import StreamMux.Proofs.EndpointRun
import StreamMux.Proofs.Sending
import StreamMux.Proofs.Accounting
import StreamMux.Proofs.Ids
import StreamMux.Proofs.Spending
import StreamMux.Proofs.Tracking
import StreamMux.Proofs.Aftermath
import StreamMux.Proofs.AcceptQueue
import StreamMux.Proofs.Announced
import StreamMux.Proofs.Codec
import StreamMux.Proofs.Counters
import StreamMux.Proofs.DataOutcome
import StreamMux.Proofs.ResetCount
import StreamMux.Proofs.Answers
import StreamMux.Proofs.CheckTurn
import StreamMux.Proofs.RelayTurn
import StreamMux.Proofs.Turns
import StreamMux.Proofs.Calm
import StreamMux.Proofs.Logbook
import StreamMux.Proofs.Honest
import StreamMux.Proofs.Ledger
import StreamMux.Proofs.Echo
import StreamMux.Proofs.Exhaustion
import StreamMux.Proofs.Passed
import StreamMux.Proofs.SentCount
import StreamMux.Proofs.Fruitless
import StreamMux.Proofs.Wakeup
import StreamMux.Proofs.DropRate
import StreamMux.Proofs.Intake
import StreamMux.Proofs.Damage
import StreamMux.Proofs.Lossless
import StreamMux.Proofs.Runnable
import StreamMux.Load.AnyRelay
import StreamMux.Proofs.Bookkeeping
import StreamMux.Proofs.Crossing
