import DeclSplit.Main
import DeclSplit.Proofs.CommandLine.Effects
import DeclSplit.Proofs.CommandLine.Foretelling
import DeclSplit.Proofs.CommandLine.JsonOutput
import DeclSplit.Proofs.CommandLine.Listing
import DeclSplit.Proofs.CommandLine.Overwriting
import DeclSplit.Proofs.CommandLine.Switches
import DeclSplit.Proofs.Config.Settings
import DeclSplit.Proofs.Split.Addition
import DeclSplit.Proofs.Split.Classified
import DeclSplit.Proofs.Split.Decoding
import DeclSplit.Proofs.Split.Dependencies
import DeclSplit.Proofs.Split.Flavours
import DeclSplit.Proofs.Split.Footprint
import DeclSplit.Proofs.Split.ImportTargets
import DeclSplit.Proofs.Split.MatchModes
import DeclSplit.Proofs.Split.NamedExports
import DeclSplit.Proofs.Split.Reordering
import DeclSplit.Proofs.Split.Repetition
import DeclSplit.Proofs.Split.ResultMap
import DeclSplit.Proofs.Syntax.Identifiers
import DeclSplit.Proofs.CommandLine.Presentation
