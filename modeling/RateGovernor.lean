import RateGovernor.Foundation.GuardedRun
import RateGovernor.Foundation.KeyedTable
import RateGovernor.Model.Plan
import RateGovernor.Model.RecordCodec
import RateGovernor.Model.EnvelopeCodec
import RateGovernor.Model.Journal
import RateGovernor.Model.JournalWriter
import RateGovernor.Model.EngineState
import RateGovernor.Model.Durability
import RateGovernor.Model.Authority
import RateGovernor.Model.Calls
import RateGovernor.Model.Lifecycle
import RateGovernor.Model.Completion
import RateGovernor.Model.Revocation
import RateGovernor.Model.Maintenance
import RateGovernor.Model.Execution
import RateGovernor.Dynamics.Install
import RateGovernor.Dynamics.Sections
import RateGovernor.Dynamics.Attempts
import RateGovernor.Dynamics.Commits
import RateGovernor.Dynamics.Compacting
import RateGovernor.Dynamics.Demotion
import RateGovernor.Dynamics.Dispatching
import RateGovernor.Dynamics.Flags
import RateGovernor.Dynamics.Growing
import RateGovernor.Dynamics.Numbering
import RateGovernor.Dynamics.PlanLimits
import RateGovernor.Model.Device
import RateGovernor.Safety.Coverage
import RateGovernor.Safety.CrashPrefix
import RateGovernor.Safety.Doubt
import RateGovernor.Safety.DuplicateCompletions
import RateGovernor.Safety.EffectFlags
import RateGovernor.Dynamics.Scaling
import RateGovernor.Safety.Enforceable
import RateGovernor.Safety.EnvelopeKeys
import RateGovernor.Safety.EpochCrossing
import RateGovernor.Safety.Evidence
import RateGovernor.Safety.FailedCommit
import RateGovernor.Safety.LapsedBinding
import RateGovernor.Safety.OrphanedEffect
import RateGovernor.Safety.Revoked
import RateGovernor.Safety.SnapshotRoundTrip
import RateGovernor.Safety.TornTail
import RateGovernor.Safety.VerifiedBounds
import RateGovernor.Dynamics.Balances
import RateGovernor.Dynamics.Derivation
import RateGovernor.Dynamics.Messages
import RateGovernor.Dynamics.Rereading
import RateGovernor.Dynamics.Waiting
import RateGovernor.Model.Remote
import RateGovernor.Safety.Awaiting
import RateGovernor.Safety.BurstAccounts
import RateGovernor.Safety.EpochFencing
import RateGovernor.Safety.Generations
import RateGovernor.Safety.RemoteDispatch
import RateGovernor.Safety.SoleIncarnation
import RateGovernor.Safety.StaleCheck
import RateGovernor.Safety.BurstConformance
import RateGovernor.Safety.DeadSession
import RateGovernor.Safety.ExactBucket
import RateGovernor.Safety.MatchingFingerprint
import RateGovernor.Safety.PendingRevokes
import RateGovernor.Safety.Shutdown
import RateGovernor.Safety.SoundAuthorities
import RateGovernor.Safety.AttemptRetention
import RateGovernor.Safety.ApplyAccounting
import RateGovernor.Safety.DeferredWork
import RateGovernor.Safety.CanonicalRecords
import RateGovernor.Safety.OwnTransactions
import RateGovernor.Safety.LiveDuplicates
import RateGovernor.Safety.Reauthorized
import RateGovernor.Safety.TickRefill
import RateGovernor.Safety.TimelySuccess
import RateGovernor.Safety.VerifiedBurst
import RateGovernor.Safety.DiscardedRecords
import RateGovernor.Safety.WireFormat
import RateGovernor.Safety.RefusedCooldown
import RateGovernor.Model.IdentityText
import RateGovernor.Dynamics.Numerals
import RateGovernor.Dynamics.Checksums
import RateGovernor.Dynamics.Sealing
import RateGovernor.Safety.ShortCorruption
import RateGovernor.Safety.FailedBarrier
import RateGovernor.Safety.ScannableJournal
import RateGovernor.Safety.DeadAttempts
import RateGovernor.Dynamics.Joining
import RateGovernor.Model.Ipc
import RateGovernor.Safety.DrainedPool
import RateGovernor.Safety.EndpointText
import RateGovernor.Safety.FrameStream
import RateGovernor.Safety.RequestAccounts
import RateGovernor.Safety.CrashAtomicity
import RateGovernor.Safety.CompactionLag
import RateGovernor.Safety.InheritedMemory
import RateGovernor.Safety.LostTransaction
