import InstanceOperator.Main
import InstanceOperator.Metrics.Server
import InstanceOperator.Rehearsal.Bench
import InstanceOperator.Rehearsal.Watch
import InstanceOperator.Proofs.Pass.Course
import InstanceOperator.Proofs.Store.Replies
import InstanceOperator.Proofs.Desired.Dependents
import InstanceOperator.Proofs.Name.Grammar
import InstanceOperator.Proofs.Desired.Acceptance
import InstanceOperator.Proofs.Pass.Journal
import InstanceOperator.Proofs.Pass.Insertion
import InstanceOperator.Proofs.Pass.Deadline
import InstanceOperator.Proofs.Pass.Order
import InstanceOperator.Proofs.Store.Calm
import InstanceOperator.Proofs.Pass.Interleaving
import InstanceOperator.Proofs.Store.Filing
import InstanceOperator.Proofs.Pass.Convergence
import InstanceOperator.Proofs.Dispatch.Retry
import InstanceOperator.Proofs.Dispatch.Tenancy
import InstanceOperator.Proofs.Site.Basic
import InstanceOperator.Proofs.Site.Sequence
import InstanceOperator.Proofs.Drift.Observation
import InstanceOperator.Proofs.Pass.View
import InstanceOperator.Proofs.Site.Independence
import InstanceOperator.Proofs.Site.Collection
import InstanceOperator.Proofs.Metrics.Count
import InstanceOperator.Proofs.Site.Ledger
import InstanceOperator.Proofs.Site.Report
import InstanceOperator.Proofs.Object.ReadBack
import InstanceOperator.Proofs.Http.Target
import InstanceOperator.Proofs.Store.Address
import InstanceOperator.Proofs.Store.Agreement
import InstanceOperator.Proofs.Retry.History
import InstanceOperator.Proofs.Crd.Validation
import InstanceOperator.Proofs.Drift.Difference
import InstanceOperator.Proofs.Drift.Coverage
import InstanceOperator.Proofs.Drift.Conformity
import InstanceOperator.Proofs.Drift.Extension
import InstanceOperator.Proofs.Store.Upkeep
import InstanceOperator.Proofs.Pass.Sequel
import InstanceOperator.Proofs.Dispatch.Routing
import InstanceOperator.Proofs.Config.Setting
import InstanceOperator.Proofs.Desired.Fit
import InstanceOperator.Proofs.Config.Decision
import InstanceOperator.Proofs.Config.Environment
import InstanceOperator.Proofs.Config.Deadline
import InstanceOperator.Proofs.Retry.Delays
import InstanceOperator.Proofs.Config.Writing
import InstanceOperator.Proofs.Object.InstanceForm
