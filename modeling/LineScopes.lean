import LineScopes.Main
import LineScopes.Proofs.Nesting
import LineScopes.Proofs.SelfValidation
import LineScopes.Files.Tree
import LineScopes.Grammar.Outline
import LineScopes.Proofs.Overreach
import LineScopes.Proofs.BackReferences
import LineScopes.Proofs.Carrying
import LineScopes.Proofs.Settling
import LineScopes.Proofs.ContentScopes
import LineScopes.Proofs.ScopeChain
import LineScopes.Proofs.Drafts
import LineScopes.Proofs.Documents
import LineScopes.Proofs.Stages
import LineScopes.Proofs.Renaming
import LineScopes.Proofs.Reordering
import LineScopes.Proofs.Pairing
import LineScopes.Proofs.Simulation
import LineScopes.Proofs.OrderIndependence
import LineScopes.Proofs.Retention
import LineScopes.Proofs.History
import LineScopes.Proofs.StackEquality
import LineScopes.Proofs.Resolution
import LineScopes.Proofs.Workers
import LineScopes.Proofs.FirstDifference
import LineScopes.Proofs.Paths
import LineScopes.Proofs.Layout
import LineScopes.Proofs.Includes
import LineScopes.Proofs.Arenas
import LineScopes.Proofs.Lookups
import LineScopes.Proofs.Selection
import LineScopes.Proofs.FirstFailure
import LineScopes.Proofs.Specificity
import LineScopes.Proofs.Flattening
import LineScopes.Proofs.Visits
import LineScopes.Proofs.Containment
import LineScopes.Proofs.Conditions
import LineScopes.Proofs.PatternItems
import LineScopes.Proofs.LineStarts
import LineScopes.Proofs.Confinement
import LineScopes.Proofs.TokenTexts
import LineScopes.Proofs.NameReferences
import LineScopes.Proofs.NamePositions
import LineScopes.Proofs.Demands
import LineScopes.Proofs.CaptureTables
import LineScopes.Proofs.LoadErrors
import LineScopes.Proofs.Upkeep
import LineScopes.Proofs.LineErrors
import LineScopes.Proofs.FailFast
import LineScopes.Proofs.Precedence
import LineScopes.Proofs.ExitCodes
