import GenerationGateway.Library.Program
import GenerationGateway.Library.Reachability
import GenerationGateway.Store.Schema
import GenerationGateway.Store.Statements
import GenerationGateway.Store.Owned
import GenerationGateway.Store.Dispatch
import GenerationGateway.Store.Routing
import GenerationGateway.Store.Signature
import GenerationGateway.Store.Claim
import GenerationGateway.Store.Admission
import GenerationGateway.Store.Lifecycle.Owned
import GenerationGateway.Store.Lifecycle.Recovery
import GenerationGateway.Store.Lifecycle.Sessions
import GenerationGateway.Store.System
import GenerationGateway.Store.Accounting
import GenerationGateway.Store.Fencing
import GenerationGateway.Store.Stranded
import GenerationGateway.Store.Discipline
import GenerationGateway.Store.Holds
import GenerationGateway.Store.ReadCommitted
import GenerationGateway.Store.Threads
import GenerationGateway.Store.Admitted
import GenerationGateway.Store.Interleaving
import GenerationGateway.Store.Accounts
import GenerationGateway.Store.ExecutionLimit
import GenerationGateway.Store.Oversell
import GenerationGateway.Store.Archiving
import GenerationGateway.Store.ProtectedCredits
import GenerationGateway.Store.Headcount
import GenerationGateway.Store.Reads
import GenerationGateway.Store.SystemLimits
import GenerationGateway.Store.Idempotency
import GenerationGateway.Accounts.Traffic
import GenerationGateway.CreativeFabrica.PollResults
import GenerationGateway.CreativeFabrica.FlowCompletion
import GenerationGateway.Domain.Requests
import GenerationGateway.HttpApi.TaskCreation
import GenerationGateway.HttpApi.AdmissionOutcome
import GenerationGateway.Store.Overload
import GenerationGateway.Library.Waiting
import GenerationGateway.Store.QueueOrder
import GenerationGateway.Workers.CreativeFabrica
import GenerationGateway.Store.OwnedRows
import GenerationGateway.Workers.Fleet
import GenerationGateway.Workers.Submission
import GenerationGateway.Workers.Polling
import GenerationGateway.Workers.Adobe
import GenerationGateway.Pricing.Rules
import GenerationGateway.Pricing.Versions
import GenerationGateway.HttpApi.Quota
import GenerationGateway.Accounts.Refresh
import GenerationGateway.Accounts.TokenSources
import GenerationGateway.Accounts.BalanceOrder
import GenerationGateway.Accounts.BalanceRows
import GenerationGateway.Accounts.Balances
import GenerationGateway.Accounts.BalanceFencing
import GenerationGateway.Accounts.LostCharges
import GenerationGateway.Accounts.RefreshJobs
import GenerationGateway.Accounts.RefreshQueue
import GenerationGateway.Accounts.RefreshLeases
import GenerationGateway.Accounts.RefreshRuns
import GenerationGateway.Accounts.StagedImports
import GenerationGateway.Library.Waterfall
import GenerationGateway.Store.Settlement
import GenerationGateway.Accounts.Writes
import GenerationGateway.Accounts.Routeability
import GenerationGateway.Workers.SubmissionErrors
import GenerationGateway.Library.Word
import GenerationGateway.Pricing.Bounds
import GenerationGateway.HttpApi.Quotes
import GenerationGateway.Accounts.ProxyControl
import GenerationGateway.Workers.Blame
import GenerationGateway.Workers.Stopping
import GenerationGateway.Pricing.Ceilings
import GenerationGateway.CreativeFabrica.SessionJoin
import GenerationGateway.Workers.WebP
import GenerationGateway.Circuit.Agreement
import GenerationGateway.CreativeFabrica.CookieLaws
import GenerationGateway.Workers.ErrorTexts
import GenerationGateway.Pricing.Expansion
import GenerationGateway.Workers.ResponseOrder
import GenerationGateway.Store.History
import GenerationGateway.HttpApi.ChatInput
import GenerationGateway.HttpApi.ChatStream
import GenerationGateway.HttpApi.Middleware
import GenerationGateway.Workers.TaskQueue
import GenerationGateway.Store.Recovered
import GenerationGateway.Store.Reasons
import GenerationGateway.Assets.VideoUploads
import GenerationGateway.Assets.ImageUploads
import GenerationGateway.HttpApi.AdminSessions
import GenerationGateway.HttpApi.CostMatrix
import GenerationGateway.Store.Reconfiguration
import GenerationGateway.HttpApi.RateLimits
