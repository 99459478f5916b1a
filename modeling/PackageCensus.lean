import PackageCensus.Host.Memory
import PackageCensus.Main
import PackageCensus.Proofs.CommandLine.Weight
import PackageCensus.Proofs.Graph.BreadthFirst
import PackageCensus.Proofs.Graph.Reachable
import PackageCensus.Proofs.Graph.Keyed
import PackageCensus.Proofs.Symbol.BrokenOff
import PackageCensus.Proofs.Symbol.Decoded
import PackageCensus.Proofs.Symbol.Grammar
import PackageCensus.Proofs.Symbol.Joined
import PackageCensus.Proofs.Symbol.Offsets
import PackageCensus.Proofs.Symbol.Printed
import PackageCensus.Proofs.Symbol.QualifiedName
import PackageCensus.Proofs.Symbol.Table
import PackageCensus.Proofs.Text.Order
import PackageCensus.Proofs.Weight.Listing
import PackageCensus.Proofs.Weight.Regrouped
import PackageCensus.Proofs.Graph.Roots
import PackageCensus.Proofs.Graph.Strict
import PackageCensus.Proofs.Graph.Listing
import PackageCensus.Proofs.Graph.Document
import PackageCensus.Proofs.Graph.Union
import PackageCensus.Proofs.Graph.Difference
import PackageCensus.Proofs.Dot.Document
import PackageCensus.Proofs.CommandLine.GraphCommand
import PackageCensus.Proofs.Dot.Label
import PackageCensus.Proofs.Dot.Quote
import PackageCensus.Proofs.CommandLine.Listing
import PackageCensus.Proofs.Symbol.Synthetic
import PackageCensus.Proofs.Graph.Catalog
import PackageCensus.Proofs.Graph.Rounds
import PackageCensus.Proofs.Config
import PackageCensus.Proofs.CommandLine.StandardList
import PackageCensus.Proofs.Dot.Name
import PackageCensus.Proofs.Dot.Writer
import PackageCensus.Proofs.Symbol.TypeArguments
import PackageCensus.Proofs.Symbol.Signature
