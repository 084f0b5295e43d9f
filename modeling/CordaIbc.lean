import CordaIbc.Kotlin
import CordaIbc.Proto
import CordaIbc.Crypto
import CordaIbc.Denom
import CordaIbc.Lib.FinmapSum
import CordaIbc.Lib.Run
import CordaIbc.Lib.Numbered
import CordaIbc.Lib.Weighed
import CordaIbc.Lib.Bits
import CordaIbc.Lib.Paging
import CordaIbc.Lib.LinkedMap
import CordaIbc.Lib.Handshake
import CordaIbc.Bank
import CordaIbc.Host
import CordaIbc.CashBank
import CordaIbc.PrepareSpend
import CordaIbc.Conversion
import CordaIbc.States
import CordaIbc.ChannelQuery
import CordaIbc.Context
import CordaIbc.Platform
import CordaIbc.ClientState
import CordaIbc.Lightclientd
import CordaIbc.Handler
import CordaIbc.Ics20
import CordaIbc.Ics20Cash
import CordaIbc.Datagram
import CordaIbc.Execution
import CordaIbc.Proofs.Inversion
import CordaIbc.Ibc
import CordaIbc.Relay
import CordaIbc.Ledger
import CordaIbc.Chain
import CordaIbc.Proofs.Identity
import CordaIbc.Proofs.Accepted
import CordaIbc.Proofs.ChainStep
import CordaIbc.Proofs.EndStep
import CordaIbc.Net
import CordaIbc.Proofs.Uniqueness
import CordaIbc.Sample
import CordaIbc.Sample.Chain
import CordaIbc.Sample.Net
import CordaIbc.Lifecycle
import CordaIbc.Sample.Life
import CordaIbc.Proofs.Bookkeeping
import CordaIbc.Proofs.Dispatch
import CordaIbc.Proofs.Unreceived
import CordaIbc.Proofs.Refund
import CordaIbc.Proofs.Supply
import CordaIbc.Proofs.LightClient
import CordaIbc.Proofs.Lightclientd
import CordaIbc.Proofs.Authorisation
import CordaIbc.Proofs.Ends
import CordaIbc.Sample.Bech32
import CordaIbc.Proofs.Closing
import CordaIbc.Proofs.Answer
import CordaIbc.Proofs.Balance
import CordaIbc.Proofs.CashPayment
import CordaIbc.Proofs.CashRefund
import CordaIbc.Proofs.PacketLog
import CordaIbc.Proofs.Delivery
import CordaIbc.Proofs.Linked
import CordaIbc.Proofs.SelfClient
import CordaIbc.Proofs.Accounts
import CordaIbc.Proofs.Acknowledge
import CordaIbc.Proofs.Vouchers
import CordaIbc.Proofs.BankLog
import CordaIbc.Proofs.Provenance
import CordaIbc.Proofs.Send
import CordaIbc.Proofs.Redeem
import CordaIbc.Proofs.Held
import CordaIbc.Proofs.Books
import CordaIbc.Proofs.Connections
import CordaIbc.Proofs.Channels
import CordaIbc.Proofs.Once
import CordaIbc.Proofs.Peg
import CordaIbc.Proofs.Integrity
import CordaIbc.Proofs.Accepts
import CordaIbc.Proofs.Complete
import CordaIbc.Proofs.Regroup
import CordaIbc.Proofs.Generated
import CordaIbc.Proofs.Trace
import CordaIbc.Proofs.Coins
import CordaIbc.Proofs.Pages
import CordaIbc.Proofs.Timeout
import CordaIbc.Proofs.RoundTrip
import CordaIbc.Flow
import CordaIbc.Nodes
import CordaIbc.Proofs.Projection
import CordaIbc.Proofs.Participants
import CordaIbc.Proofs.Picks
import CordaIbc.Proofs.Vault
import CordaIbc.Proofs.Flows
import CordaIbc.Proofs.Finality
import CordaIbc.Proofs.Concurrency
import CordaIbc.Proofs.Serial
import CordaIbc.Queries
import CordaIbc.Proofs.Serves
import CordaIbc.Networks
import CordaIbc.Proofs.Networks
import CordaIbc.Proofs.Receive
