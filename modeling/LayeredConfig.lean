import LayeredConfig.Text.Character
import LayeredConfig.Text.Case
import LayeredConfig.Text.Quoted
import LayeredConfig.Text.Split
import LayeredConfig.Number.Decimal
import LayeredConfig.Number.Shortest
import LayeredConfig.Value.Basic
import LayeredConfig.Value.Display
import LayeredConfig.Value.Equality
import LayeredConfig.Profile.Expr
import LayeredConfig.Profile.Parser
import LayeredConfig.Value.Kind
import LayeredConfig.Placeholder.Expand
import LayeredConfig.Conversion.Builtin
import LayeredConfig.Conversion.Registry
import LayeredConfig.Profile.Condition
import LayeredConfig.Event
import LayeredConfig.Action
import LayeredConfig.Chain.Basic
import LayeredConfig.Store
import LayeredConfig.Resolver
import LayeredConfig.Environment
import LayeredConfig.Workspace
import LayeredConfig.Variables.Load
import LayeredConfig.Dotenv.Load
import LayeredConfig.Document.Json
import LayeredConfig.Document.Flatten
import LayeredConfig.Document.Toml
import LayeredConfig.Document.Yaml
import LayeredConfig.Document.Load
import LayeredConfig.Layering
import LayeredConfig.Command.Run
import LayeredConfig.Main
import LayeredConfig.Proofs.Placeholder.Layout
import LayeredConfig.Proofs.Placeholder.Depth
import LayeredConfig.Proofs.Placeholder.Meaning
import LayeredConfig.Proofs.Placeholder.Termination
import LayeredConfig.Proofs.Placeholder.Cycle
import LayeredConfig.Proofs.Placeholder.Template
import LayeredConfig.Proofs.Placeholder.Grammar
import LayeredConfig.Proofs.Placeholder.Leniency
import LayeredConfig.Proofs.Distinct
import LayeredConfig.Proofs.Text.Trim
import LayeredConfig.Proofs.Text.Case
import LayeredConfig.Proofs.Text.Split
import LayeredConfig.Proofs.Profile.Tokens
import LayeredConfig.Proofs.Profile.Grammar
import LayeredConfig.Proofs.Profile.Acceptance
import LayeredConfig.Proofs.Profile.RoundTrip
import LayeredConfig.Proofs.Chain.Calls
import LayeredConfig.Proofs.Action.Effects
import LayeredConfig.Proofs.Resolver.Calls
import LayeredConfig.Proofs.Placeholder.Congruence
import LayeredConfig.Proofs.Resolver.Answers
import LayeredConfig.Proofs.Chain.Joining
import LayeredConfig.Proofs.Placeholder.Dependence
import LayeredConfig.Proofs.Resolver.Dependence
import LayeredConfig.Proofs.Placeholder.Reference
import LayeredConfig.Proofs.Resolver.Reference
import LayeredConfig.Proofs.Layering.Order
import LayeredConfig.Proofs.Layering.Build
import LayeredConfig.Proofs.Workspace.Adoption
import LayeredConfig.Proofs.Conversion.ToText
import LayeredConfig.Proofs.Layering.Precedence
import LayeredConfig.Proofs.Profile.Names
import LayeredConfig.Proofs.Profile.Evaluation
import LayeredConfig.Proofs.Profile.Conditions
import LayeredConfig.Proofs.Resolver.Caching
import LayeredConfig.Proofs.Environment.Reading
import LayeredConfig.Proofs.Environment.Calls
import LayeredConfig.Proofs.Environment.Union
import LayeredConfig.Proofs.Workspace.Sharing
import LayeredConfig.Proofs.Workspace.Calls
import LayeredConfig.Proofs.Workspace.Merging
import LayeredConfig.Proofs.Workspace.Queries
import LayeredConfig.Proofs.Workspace.Failures
import LayeredConfig.Proofs.Profile.Lists
import LayeredConfig.Proofs.Environment.Stored
import LayeredConfig.Proofs.Workspace.Profiles
import LayeredConfig.Proofs.Document.Names
import LayeredConfig.Proofs.Layering.Errors
import LayeredConfig.Proofs.Dotenv.Lines
import LayeredConfig.Proofs.Variables.Keys
import LayeredConfig.Proofs.Dotenv.Settings
import LayeredConfig.Proofs.Variables.Names
import LayeredConfig.Proofs.Chain.Replay
import LayeredConfig.Proofs.Conversion.Standard
import LayeredConfig.Proofs.Conversion.Kinds
import LayeredConfig.Proofs.Conversion.Refusals
import LayeredConfig.Proofs.Conversion.Exactness
import LayeredConfig.Proofs.Conversion.Collections
import LayeredConfig.Proofs.Number.Written
import LayeredConfig.Proofs.Conversion.Integers
import LayeredConfig.Proofs.Conversion.Members
import LayeredConfig.Proofs.Conversion.Registrations
import LayeredConfig.Proofs.Resolver.Typed
import LayeredConfig.Proofs.Resolver.Required
import LayeredConfig.Proofs.Resolver.Presence
import LayeredConfig.Proofs.Variables.Prefixed
import LayeredConfig.Proofs.Document.Leaves
import LayeredConfig.Proofs.Document.Nesting
import LayeredConfig.Proofs.Dotenv.Grammar
import LayeredConfig.Proofs.Dotenv.Comments
import LayeredConfig.Proofs.Placeholder.Balance
import LayeredConfig.Proofs.Placeholder.Crossing
import LayeredConfig.Proofs.Placeholder.Reading
import LayeredConfig.Proofs.Placeholder.Dialect
import LayeredConfig.Proofs.Placeholder.Pieces
import LayeredConfig.Proofs.Dotenv.Search
import LayeredConfig.Proofs.Profile.Spacing
