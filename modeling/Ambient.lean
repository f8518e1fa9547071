import Ambient.Main
import Ambient.Log
import Ambient.Template.Slot
import Ambient.Proofs.Grouping
import Ambient.Proofs.Names
import Ambient.Proofs.Text.Lines
import Ambient.Proofs.Declaration.Layout
import Ambient.Proofs.Declaration.Locality
import Ambient.Proofs.Declaration.TypeText
import Ambient.Proofs.Declaration.Emission
import Ambient.Proofs.Model.Builder
import Ambient.Proofs.Declaration.References
import Ambient.Proofs.Declaration.Reading
import Ambient.Proofs.Sweep.Calm
import Ambient.Proofs.Sweep.Heading
import Ambient.Proofs.Sweep.Removal
import Ambient.Proofs.Sweep.EmptyNamespace
import Ambient.Proofs.Sweep.Blanks
import Ambient.Proofs.Sweep.Agreement
import Ambient.Proofs.Sweep.Phase
import Ambient.Proofs.Sweep.Junction
import Ambient.Proofs.Sweep.Scan
import Ambient.Proofs.Distinct
import Ambient.Proofs.Json.Same
import Ambient.Proofs.Symbol.Same
import Ambient.Proofs.Model.Runs
import Ambient.Proofs.Selection
import Ambient.Proofs.Model.Order
import Ambient.Proofs.Manifest.Shapes
import Ambient.Proofs.Manifest.Translation
import Ambient.Proofs.Declaration.Scopes
import Ambient.Proofs.Declaration.Merging
import Ambient.Proofs.Model.Concealment
import Ambient.Proofs.Declaration.Concealment
import Ambient.Proofs.Json.RoundTrip
import Ambient.Proofs.Json.Depth
import Ambient.Proofs.Source.Written
import Ambient.Proofs.Config.Saving
import Ambient.Proofs.Declaration.Collisions
import Ambient.Proofs.Manifest.Refusals
import Ambient.Proofs.Source.Placing
import Ambient.Proofs.CommandLine.Absence
import Ambient.Proofs.CommandLine.Printing
import Ambient.Proofs.CommandLine.Effects
import Ambient.Proofs.Sweep.Settling
import Ambient.Proofs.Naming
import Ambient.Proofs.Declaration.TypeShape
import Ambient.Proofs.Declaration.HostTypes
import Ambient.Proofs.Sweep.Form
import Ambient.Proofs.Declaration.Tidy
import Ambient.Proofs.Selection.Rules
import Ambient.Proofs.Source.Loading
import Ambient.Proofs.Sweep.Braces
import Ambient.Proofs.Config.Names
import Ambient.Proofs.Manifest.WellFormed
