import Courier.Channel.Opening
import Courier.Channel.Operation
import Courier.Description
import Courier.Proofs.Account.Justified
import Courier.Proofs.Account.Poison
import Courier.Proofs.Account.Span
import Courier.Proofs.Account.Stream
import Courier.Proofs.Capital
import Courier.Proofs.Company.Visit
import Courier.Proofs.ConnectionUri
import Courier.Proofs.Convergence
import Courier.Proofs.Fault
import Courier.Proofs.Journey
import Courier.Proofs.Ledger.History
import Courier.Proofs.Ledger.Leak
import Courier.Proofs.Report
import Courier.Proofs.Retry.Attempts
import Courier.Proofs.Retry.Delay
import Courier.Proofs.Retry.Sharing
import Courier.Proofs.Routing
import Courier.Proofs.Session.Upshot
import Courier.Proofs.Settings
import Courier.Proofs.Subscription
import Courier.Proofs.TraceContext
import Courier.Proofs.Twin.Abreast
import Courier.Proofs.Twin.Command
import Courier.Proofs.Twin.Desk
