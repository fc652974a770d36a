import EventFlow.Command.Run
import EventFlow.Engine.Worker
import EventFlow.Main
import EventFlow.Settings.Layers
import EventFlow.Store.Keys
import EventFlow.Proofs.Workflow.Acceptance
import EventFlow.Proofs.Workflow.Routes
import EventFlow.Proofs.Engine.Joins
import EventFlow.Proofs.Decimal.Numerals
import EventFlow.Proofs.Engine.Following
import EventFlow.Proofs.Engine.Reading
import EventFlow.Proofs.Engine.Listing
import EventFlow.Proofs.Workflow.Agreement
import EventFlow.Proofs.Workflow.Closing
import EventFlow.Proofs.Workflow.Emission
import EventFlow.Proofs.Workflow.Inventory
import EventFlow.Proofs.Api.Caching
import EventFlow.Proofs.Api.Compilations
import EventFlow.Proofs.Api.Committing
import EventFlow.Proofs.Engine.Booting
import EventFlow.Proofs.Workflow.Execution
import EventFlow.Proofs.Workflow.Passing
import EventFlow.Proofs.Workflow.Repetition
import EventFlow.Proofs.Engine.Matching
import EventFlow.Proofs.Api.Acyclic
import EventFlow.Proofs.Workflow.Onward
import EventFlow.Proofs.Engine.AnyJoins
import EventFlow.Proofs.Engine.Retirement
import EventFlow.Proofs.Engine.Processing
import EventFlow.Proofs.Engine.Sites
import EventFlow.Proofs.Api.Batches
import EventFlow.Proofs.Api.Modes
import EventFlow.Proofs.Api.Operations
import EventFlow.Proofs.Log.Deliveries
import EventFlow.Proofs.Api.Holdings
import EventFlow.Proofs.Engine.Loading
import EventFlow.Proofs.Api.Isolation
import EventFlow.Proofs.Api.Remote
import EventFlow.Proofs.Workflow.Reencoded
import EventFlow.Proofs.Workflow.Renumbered
import EventFlow.Proofs.Engine.Isolation
import EventFlow.Proofs.Engine.Inputs
import EventFlow.Proofs.Workflow.Operators
import EventFlow.Proofs.Workflow.Connectives
import EventFlow.Proofs.Json.Places
import EventFlow.Proofs.Api.Resources
import EventFlow.Proofs.Api.Credentials
import EventFlow.Proofs.Trigger.History
import EventFlow.Proofs.Workflow.Walks
import EventFlow.Proofs.Engine.Rebuilding
import EventFlow.Proofs.Store.Separation
