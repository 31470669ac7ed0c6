import CloudVinyl.Agent.Admin
import CloudVinyl.Agent.Discards
import CloudVinyl.Agent.Framing
import CloudVinyl.Agent.Health
import CloudVinyl.Agent.Push
import CloudVinyl.Agent.Responses
import CloudVinyl.Agent.Server
import CloudVinyl.Api.VinylCache
import CloudVinyl.Controller.AgentCalls
import CloudVinyl.Controller.AgentClient
import CloudVinyl.Controller.Convergence
import CloudVinyl.Controller.Debounce
import CloudVinyl.Controller.Deletion
import CloudVinyl.Controller.Endpoints
import CloudVinyl.Controller.Listeners
import CloudVinyl.Controller.Messages
import CloudVinyl.Controller.Monitoring
import CloudVinyl.Controller.Names
import CloudVinyl.Controller.NetworkPolicies
import CloudVinyl.Controller.Objects
import CloudVinyl.Controller.PodOrder
import CloudVinyl.Controller.PodTemplate
import CloudVinyl.Controller.Pods
import CloudVinyl.Controller.Push
import CloudVinyl.Controller.Quiescence
import CloudVinyl.Controller.Retries
import CloudVinyl.Controller.Selectors
import CloudVinyl.Controller.StatefulSet
import CloudVinyl.Controller.Status
import CloudVinyl.Controller.StorageArgs
import CloudVinyl.Controller.Symbols
import CloudVinyl.Controller.VolumePaths
import CloudVinyl.Controller.VolumeSizes
import CloudVinyl.Controller.Watches
import CloudVinyl.Generator.Durations
import CloudVinyl.Generator.FetchRetries
import CloudVinyl.Generator.Generate
import CloudVinyl.Generator.Invalidation
import CloudVinyl.Generator.Relay
import CloudVinyl.Generator.Routing
import CloudVinyl.Generator.TemplateData
import CloudVinyl.Generator.Templates
import CloudVinyl.Generator.TraceContext
import CloudVinyl.Generator.TraceExprs
import CloudVinyl.Lib.Authority
import CloudVinyl.Lib.Bytes
import CloudVinyl.Lib.Cli
import CloudVinyl.Lib.Dns
import CloudVinyl.Lib.FanOut
import CloudVinyl.Lib.FetchAttempts
import CloudVinyl.Lib.Json
import CloudVinyl.Lib.Keyed
import CloudVinyl.Lib.LevelTriggered
import CloudVinyl.Lib.Paths
import CloudVinyl.Lib.Patterns
import CloudVinyl.Lib.Policies
import CloudVinyl.Lib.PromQL
import CloudVinyl.Lib.Regexp
import CloudVinyl.Lib.Runs
import CloudVinyl.Lib.Sorting
import CloudVinyl.Lib.Strings
import CloudVinyl.Lib.Table
import CloudVinyl.Lib.Transducer
import CloudVinyl.Lib.Varnishd
import CloudVinyl.Lib.Vcl
import CloudVinyl.Lib.VclExpr
import CloudVinyl.Lib.VclTrace
import CloudVinyl.Lib.Words
import CloudVinyl.Lib.Wrapping
import CloudVinyl.Monitoring.PrometheusRule
import CloudVinyl.Proxy.Ban
import CloudVinyl.Proxy.Broadcast
import CloudVinyl.Proxy.Counts
import CloudVinyl.Proxy.Invalidation
import CloudVinyl.Proxy.PodAddresses
import CloudVinyl.Proxy.Routing
import CloudVinyl.Proxy.Server
import CloudVinyl.Proxy.Sums
import CloudVinyl.Proxy.UnknownHost
import CloudVinyl.Proxy.WildcardBans
import CloudVinyl.Tracer.Batcher
import CloudVinyl.Tracer.Coalescing
import CloudVinyl.Tracer.CutOutput
import CloudVinyl.Tracer.DeepGroups
import CloudVinyl.Tracer.ExactCache
import CloudVinyl.Tracer.Ledger
import CloudVinyl.Tracer.Linker
import CloudVinyl.Tracer.LostFetches
import CloudVinyl.Tracer.Moves
import CloudVinyl.Tracer.Origins
import CloudVinyl.Tracer.Parser
import CloudVinyl.Tracer.Restarts
import CloudVinyl.Tracer.Resync
import CloudVinyl.Tracer.SpanTree
import CloudVinyl.Tracer.Spans
import CloudVinyl.Tracer.StaleWaiters
import CloudVinyl.Tracer.Supervisor
import CloudVinyl.Tracer.Traceparent
import CloudVinyl.Tracer.Verdicts
import CloudVinyl.Tracer.Vsl
import CloudVinyl.Tracer.VxidCache
import CloudVinyl.Webhook.Defaulter
import CloudVinyl.Webhook.Mounts
import CloudVinyl.Webhook.Update
import CloudVinyl.Webhook.Validator
