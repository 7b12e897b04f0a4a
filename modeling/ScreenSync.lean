import ScreenSync.App.Api
import ScreenSync.App.Application
import ScreenSync.App.Cached
import ScreenSync.App.Delivery
import ScreenSync.App.Family
import ScreenSync.App.Topics
import ScreenSync.App.Wire
import ScreenSync.Auth.Concurrency
import ScreenSync.Auth.Login
import ScreenSync.Auth.Router
import ScreenSync.Auth.Service
import ScreenSync.Decision.Accounting
import ScreenSync.Decision.Atomicity
import ScreenSync.Decision.Broadcast
import ScreenSync.Decision.Budget
import ScreenSync.Decision.Coherence
import ScreenSync.Decision.Concurrency
import ScreenSync.Decision.Conservation
import ScreenSync.Decision.Engine
import ScreenSync.Decision.Fairness
import ScreenSync.Decision.Families
import ScreenSync.Decision.Grant
import ScreenSync.Decision.Initialisation
import ScreenSync.Decision.Lazy
import ScreenSync.Decision.Rebalancing
import ScreenSync.Decision.Redistribution
import ScreenSync.Decision.Rules
import ScreenSync.Decision.Severity
import ScreenSync.Fl.Aggregator
import ScreenSync.Fl.Detection
import ScreenSync.Fl.Devices
import ScreenSync.Fl.Dissent
import ScreenSync.Fl.Drift
import ScreenSync.Fl.Expiry
import ScreenSync.Fl.Failure
import ScreenSync.Fl.FedAvg
import ScreenSync.Fl.Merges
import ScreenSync.Fl.Outlier
import ScreenSync.Fl.Retries
import ScreenSync.Fl.Rounds
import ScreenSync.Fl.Score
import ScreenSync.Fl.Shape
import ScreenSync.Fl.Specialists
import ScreenSync.Fl.Statements
import ScreenSync.Fl.Submissions
import ScreenSync.Fl.Version
import ScreenSync.Foundation.Admission
import ScreenSync.Foundation.Apart
import ScreenSync.Foundation.Aside
import ScreenSync.Foundation.Canonical
import ScreenSync.Foundation.Clock
import ScreenSync.Foundation.Custody
import ScreenSync.Foundation.Expiry
import ScreenSync.Foundation.Filling
import ScreenSync.Foundation.FirstMatch
import ScreenSync.Foundation.Glob
import ScreenSync.Foundation.Grouping
import ScreenSync.Foundation.Json
import ScreenSync.Foundation.JsonText
import ScreenSync.Foundation.Lease
import ScreenSync.Foundation.Ledger
import ScreenSync.Foundation.Lineage
import ScreenSync.Foundation.Merge
import ScreenSync.Foundation.Meter
import ScreenSync.Foundation.NdArray
import ScreenSync.Foundation.Purge
import ScreenSync.Foundation.Register
import ScreenSync.Foundation.Release
import ScreenSync.Foundation.Roll
import ScreenSync.Foundation.Run
import ScreenSync.Foundation.Session
import ScreenSync.Foundation.Share
import ScreenSync.Foundation.Table
import ScreenSync.Foundation.Tenure
import ScreenSync.Foundation.TopicFilter
import ScreenSync.Foundation.Twin
import ScreenSync.Foundation.Vector
import ScreenSync.Override.Abstention
import ScreenSync.Override.Audit
import ScreenSync.Override.Ballots
import ScreenSync.Override.Cap
import ScreenSync.Override.Credit
import ScreenSync.Override.Failure
import ScreenSync.Override.Justification
import ScreenSync.Override.Quorum
import ScreenSync.Override.Race
import ScreenSync.Override.SameDay
import ScreenSync.Override.Signature
import ScreenSync.Rest.Categories
import ScreenSync.Rest.Degraded
import ScreenSync.Rest.Dispatch
import ScreenSync.Rest.Isolation
import ScreenSync.Rest.Ledger
import ScreenSync.Rest.Listener
import ScreenSync.Rest.Privacy
import ScreenSync.Rest.Service
import ScreenSync.Rest.Summary
import ScreenSync.Shared.Database
import ScreenSync.Shared.Message
import ScreenSync.Shared.Mqtt
import ScreenSync.Shared.RedisClient
import ScreenSync.Sync.Audit
import ScreenSync.Sync.Broadcast
import ScreenSync.Sync.Commands
import ScreenSync.Sync.Conflict
import ScreenSync.Sync.Consumer
import ScreenSync.Sync.Exclusion
import ScreenSync.Sync.Expiry
import ScreenSync.Sync.FastPath
import ScreenSync.Sync.Ingest
import ScreenSync.Sync.LastWrite
import ScreenSync.Sync.Presence
import ScreenSync.Sync.Provenance
import ScreenSync.Sync.Rebuilt
import ScreenSync.Sync.Resolution
import ScreenSync.Sync.Retry
import ScreenSync.Sync.Sections
import ScreenSync.Sync.Snapshots
import ScreenSync.Sync.Tenure
