import TagWeave.Http.Application
import TagWeave.Leveling.Progress
import TagWeave.Leveling.Rates
import TagWeave.Proofs.Engine.Continuation
import TagWeave.Proofs.Engine.TreeRefinement
import TagWeave.Proofs.Number.Written
import TagWeave.Proofs.Tag.Effects
import TagWeave.Settings.Load
import TagWeave.Proofs.Text.Plain
import TagWeave.Proofs.Text.LowerCase
import TagWeave.Proofs.Engine.BraceFree
import TagWeave.Proofs.Engine.Growth
import TagWeave.Proofs.Catalogue.Keeping
import TagWeave.Proofs.Catalogue.MapRefinement
import TagWeave.Proofs.Http.Performing
import TagWeave.Proofs.Http.Refusal
import TagWeave.Proofs.Entries.Sorted
import TagWeave.Proofs.Value.Likeness
import TagWeave.Proofs.Tag.OrderFree
import TagWeave.Proofs.Engine.Chance
import TagWeave.Proofs.Engine.OrderFree
import TagWeave.Proofs.Http.Secrecy
import TagWeave.Proofs.Http.Rendering
import TagWeave.Proofs.Http.Isolation
import TagWeave.Proofs.Json.Equality
import TagWeave.Proofs.Leveling.Tags
import TagWeave.Proofs.Http.Agreement
import TagWeave.Proofs.Leveling.Conservation
import TagWeave.Proofs.Value.Functions
import TagWeave.Proofs.Tag.Calls
import TagWeave.Proofs.Tag.Writes
import TagWeave.Proofs.Engine.Evaluations
import TagWeave.Proofs.Engine.Frame
import TagWeave.Proofs.Engine.Collections
import TagWeave.Proofs.Engine.Shadowing
import TagWeave.Proofs.Leveling.Settlement
import TagWeave.Proofs.Leveling.SmallAmounts
import TagWeave.Proofs.Entries.Selection
import TagWeave.Proofs.Number.Exact
import TagWeave.Proofs.Value.Correspondence
import TagWeave.Proofs.Lookups
import TagWeave.Proofs.Value.Members
import TagWeave.Proofs.Value.Equality
import TagWeave.Proofs.Value.RoundTrip
import TagWeave.Proofs.Http.Origins
import TagWeave.Proofs.Service.Accounts
import TagWeave.Proofs.Service.Operations
import TagWeave.Proofs.Http.Accounts
import TagWeave.Proofs.Tag.Choice
import TagWeave.Proofs.Engine.ObjectText
import TagWeave.Proofs.Number.Whole
import TagWeave.Proofs.Tag.Division
import TagWeave.Proofs.Tag.Selectors
import TagWeave.Proofs.Tag.Assignment
import TagWeave.Proofs.Tag.Pushing
import TagWeave.Proofs.Catalogue.Acceptance
import TagWeave.Proofs.Number.Grammar
import TagWeave.Proofs.Number.Numeral
import TagWeave.Proofs.Number.Prefix
import TagWeave.Proofs.Settings.Spelling
import TagWeave.Proofs.Settings.Paths
import TagWeave.Proofs.Settings.Layers
import TagWeave.Proofs.Settings.ApiKey
import TagWeave.Proofs.Settings.Composition
import TagWeave.Proofs.Settings.Precedence
import TagWeave.Proofs.Settings.Ordering
import TagWeave.Proofs.Settings.Variables
import TagWeave.Proofs.Settings.Loading
import TagWeave.Proofs.Tag.Comparisons
import TagWeave.Proofs.Engine.ListText
import TagWeave.Proofs.Tag.Parentheses
import TagWeave.Proofs.Store.History
import TagWeave.Proofs.Engine.Sharing
import TagWeave.Proofs.Http.Patching
import TagWeave.Proofs.Engine.Positions
