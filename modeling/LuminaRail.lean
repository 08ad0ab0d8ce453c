import LuminaRail.Arithmetic.DecimalPlaces
import LuminaRail.Audit.Redaction
import LuminaRail.Auth.Privileges
import LuminaRail.Concurrency.Hindsight
import LuminaRail.Json.RoundTrip
import LuminaRail.Json.Text
import LuminaRail.Liquidity.Alerts
import LuminaRail.Liquidity.Endings
import LuminaRail.Liquidity.ExactlyOnce
import LuminaRail.Liquidity.Ledger
import LuminaRail.Locks.Broadcasts
import LuminaRail.Locks.MutualExclusion
import LuminaRail.Model.Config
import LuminaRail.Model.Endings
import LuminaRail.Model.LearntFacts
import LuminaRail.Orders.Quotes
import LuminaRail.Orders.StateMachine
import LuminaRail.Payments.AmountIntegrity
import LuminaRail.Payments.ExactPayer
import LuminaRail.Payments.FailedAttempts
import LuminaRail.Payments.GivenVerdicts
import LuminaRail.Payments.MissedWebhooks
import LuminaRail.Payments.RequestBodies
import LuminaRail.Payments.StateMachine
import LuminaRail.Payments.VerifiedOrReported
import LuminaRail.Quotes.Admission
import LuminaRail.Quotes.Pricing
import LuminaRail.Records.Creation
import LuminaRail.Records.Customers
import LuminaRail.Records.Foresight
import LuminaRail.Records.Limits
import LuminaRail.Records.Requests
import LuminaRail.Records.Runs
import LuminaRail.Records.Settling
import LuminaRail.Records.Terms
import LuminaRail.Refunds.AmbiguousOutcomes
import LuminaRail.Refunds.KoboConservation
import LuminaRail.Refunds.OnlyCaptured
import LuminaRail.Refunds.Outcomes
import LuminaRail.Refunds.PartialRefunds
import LuminaRail.Refunds.WithinCapture
import LuminaRail.Services.Audit
import LuminaRail.Services.DistributedLock
import LuminaRail.Services.Orders
import LuminaRail.Services.Quiet
import LuminaRail.Services.QuoteProviders
import LuminaRail.Services.Refunds
import LuminaRail.Services.Requests
import LuminaRail.Services.Settlements
import LuminaRail.Services.Webhooks
import LuminaRail.Settlements.StateMachine
import LuminaRail.Stellar.Amounts
import LuminaRail.Stellar.AssetIdentity
import LuminaRail.Stellar.Environment
import LuminaRail.Stellar.Footprints
import LuminaRail.Stellar.PolicySoundness
import LuminaRail.Stellar.SettlementNumbers
import LuminaRail.Webhooks.Atomicity
import LuminaRail.Webhooks.Confluence
import LuminaRail.Webhooks.EventIdentity
import LuminaRail.Webhooks.NoEventLost
import LuminaRail.Workers.Coverage
import LuminaRail.Workers.PaymentReconciliation
import LuminaRail.Workers.Reports
import LuminaRail.Workers.ReservationCleanup
import LuminaRail.Workers.SettlementReconciliation
import LuminaRail.Workers.SettlementWorker
import LuminaRail.Workers.Shutdown
