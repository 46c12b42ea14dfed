import TokensFlux.Subscription.Equiv.Concurrent
import TokensFlux.Subscription.Equiv.Sync
import TokensFlux.Subscription.Equiv.CatchUp
import TokensFlux.Subscription.Equiv.Usage
import TokensFlux.Token.Equiv.Basic
import TokensFlux.User.Equiv.Basic
import TokensFlux.Redemption.Equiv.Basic
import TokensFlux.Order.Equiv.Group
import TokensFlux.Order.Equiv.Purchase
import TokensFlux.Billing.Equiv.Concurrent
import TokensFlux.Billing.Equiv.Session
import TokensFlux.Quota.Equiv.Tiered
import TokensFlux.TopUp.Equiv.Credit
import TokensFlux.Task.Equiv.Failure
import TokensFlux.Task.Equiv.Pass
import TokensFlux.Task.Equiv.Reprice
import TokensFlux.Midjourney.Equiv.Submit
import TokensFlux.Relay.Equiv.Ratio
import TokensFlux.Relay.Equiv.Attempt
import TokensFlux.Channel.Equiv.Concurrent
import TokensFlux.Channel.Equiv.Database
import TokensFlux.Channel.Equiv.Keys
import TokensFlux.Convert.Equiv.Claude
import TokensFlux.Convert.Equiv.ClaudeContent
import TokensFlux.Convert.Equiv.Responses
import TokensFlux.Convert.Equiv.Chat
import TokensFlux.Convert.Equiv.Completion
import TokensFlux.Convert.Equiv.Request
import TokensFlux.Convert.Equiv.ClaudeRequest
import TokensFlux.Convert.Equiv.GeminiRequest
import TokensFlux.Convert.Equiv.GeminiStream
import TokensFlux.Relay.Equiv.StreamScanner
import TokensFlux.RateLimit.Equiv.Basic
import TokensFlux.RateLimit.Equiv.TokenBucket
import TokensFlux.SystemTask.Equiv.Lease
import TokensFlux.TwoFA.Equiv.Backup
import TokensFlux.Common.Equiv.Ssrf
import TokensFlux.Channel.Equiv.Affinity
