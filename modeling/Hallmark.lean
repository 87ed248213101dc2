import Hallmark.Search.Recursive
import Hallmark.Matching
import Hallmark.Graph.Load
import Hallmark.Graph.Lookup
import Hallmark.Program.Import
import Hallmark.Main
import Hallmark.Proofs.Search.Exploration
import Hallmark.Proofs.Search.Role
import Hallmark.Proofs.Search.Route
import Hallmark.Proofs.Search.Acyclic
import Hallmark.Proofs.Search.LeastRoute
import Hallmark.Proofs.Search.DepthLimit
import Hallmark.Proofs.Search.Room
import Hallmark.Proofs.Search.Return
import Hallmark.Proofs.Search.Trail
import Hallmark.Proofs.Query.Group
import Hallmark.Proofs.Matching.Answer
import Hallmark.Proofs.Query.Meaning
import Hallmark.Proofs.Matching.Legible
import Hallmark.Proofs.Search.Likeness
import Hallmark.Proofs.Search.Locality
import Hallmark.Proofs.Search.Barren
import Hallmark.Proofs.Search.Insertion
import Hallmark.Proofs.Query.Written
import Hallmark.Proofs.Query.Separation
import Hallmark.Proofs.Matching.Conjunction
import Hallmark.Proofs.Program.Session
import Hallmark.Proofs.Program.Snapshot
import Hallmark.Proofs.Graph.Shape
import Hallmark.Proofs.Graph.Loading
import Hallmark.Proofs.Program.History
import Hallmark.Proofs.Program.Restriction
import Hallmark.Proofs.CommandLine.Agreement
import Hallmark.Proofs.Search.Bounds
import Hallmark.Proofs.Query.Interspersed
import Hallmark.Proofs.Query.Position
import Hallmark.Proofs.Settings.Loading
import Hallmark.Proofs.Graph.Denotation
import Hallmark.Proofs.Program.Inheritance
import Hallmark.Proofs.Settings.Precedence
import Hallmark.Proofs.Text.Order
import Hallmark.Proofs.Text.Resemblance
import Hallmark.Proofs.Graph.Suggestion
import Hallmark.Proofs.Graph.Resolution
import Hallmark.Proofs.Program.Naming
import Hallmark.Proofs.Query.Spelling
import Hallmark.Proofs.Program.Metadata
