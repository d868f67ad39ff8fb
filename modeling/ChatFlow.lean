import ChatFlow.Json.Reader
import ChatFlow.Value.Loose
import ChatFlow.Text.Class
import ChatFlow.Expr.Evaluation
import ChatFlow.Pattern.Cache
import ChatFlow.Clock.Iso
import ChatFlow.Text.Search
import ChatFlow.Expr.Parser
import ChatFlow.Pattern.Basic
import ChatFlow.Pattern.Parser
import ChatFlow.Chat.Event
import ChatFlow.Workflow.Document
import ChatFlow.Schedule.Task
import ChatFlow.Web.Caller
import ChatFlow.Store.Ranking
import ChatFlow.Chat.Surface
import ChatFlow.Template.Render
import ChatFlow.Engine.Trigger
import ChatFlow.Engine.Condition
import ChatFlow.Engine.Action
import ChatFlow.Engine.Walk
import ChatFlow.Workflow.Archive
import ChatFlow.Store.Backend
import ChatFlow.Schedule.Agenda
import ChatFlow.Schedule.Due
import ChatFlow.Bot
import ChatFlow.Schedule.Scheduler
import ChatFlow.Chat.Dispatch
import ChatFlow.Number.Strict
import ChatFlow.Yaml.Scalar
import ChatFlow.Yaml.Reader
import ChatFlow.Service.Endpoint
import ChatFlow.Settings.Load
import ChatFlow.Proofs.Engine.Nodes
import ChatFlow.Proofs.Walk.Worklist
import ChatFlow.Proofs.Walk.Bounds
import ChatFlow.Proofs.Walk.Limits
import ChatFlow.Proofs.Walk.Failures
import ChatFlow.Proofs.Walk.Privacy
import ChatFlow.Proofs.Template.Rendering
import ChatFlow.Proofs.Expr.Parsing
import ChatFlow.Proofs.Schedule.Accounts
import ChatFlow.Proofs.Number.Canonical
import ChatFlow.Proofs.Number.Shortest
import ChatFlow.Proofs.Json.Documents
import ChatFlow.Proofs.Store.Restarts
import ChatFlow.Proofs.Workflow.Freshness
import ChatFlow.Proofs.Workflow.Shelf
import ChatFlow.Proofs.Schedule.Turns
import ChatFlow.Proofs.Workflow.Survival
import ChatFlow.Proofs.Chat.Offering
import ChatFlow.Proofs.Number.Figures
import ChatFlow.Proofs.Workflow.Stock
import ChatFlow.Proofs.Service.Gate
import ChatFlow.Proofs.Service.Management
import ChatFlow.Proofs.Schedule.Roster
import ChatFlow.Proofs.Expr.Sandbox
import ChatFlow.Proofs.Chat.Addressing
import ChatFlow.Proofs.Disk.Loading
import ChatFlow.Proofs.Number.Whole
import ChatFlow.Proofs.Store.Tallies
import ChatFlow.Proofs.Template.Messages
import ChatFlow.Proofs.Web.Leftovers
import ChatFlow.Proofs.Expr.Extent
import ChatFlow.Proofs.Expr.Lexemes
import ChatFlow.Proofs.Pattern.Cache
import ChatFlow.Proofs.Walk.Raising
import ChatFlow.Proofs.Web.Retries
import ChatFlow.Proofs.Store.Rankings
import ChatFlow.Proofs.Expr.Overreach
import ChatFlow.Proofs.Store.Reading
import ChatFlow.Proofs.Condition.Halves
import ChatFlow.Proofs.Condition.Cooldown
import ChatFlow.Proofs.Condition.Comparing
import ChatFlow.Proofs.Template.Lookups
import ChatFlow.Proofs.Engine.Picking
import ChatFlow.Proofs.Workflow.Names
import ChatFlow.Proofs.Workflow.Graph
import ChatFlow.Proofs.Schedule.Prospects
import ChatFlow.Proofs.Service.Merging
import ChatFlow.Proofs.Number.Spellings
import ChatFlow.Proofs.Value.Equality
