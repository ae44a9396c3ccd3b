import QueryAlgebra.Session
import QueryAlgebra.Workload.Runs
import QueryAlgebra.Fingerprint
import QueryAlgebra.Audit.TimeShare
import QueryAlgebra.Audit.Coverage
import QueryAlgebra.Audit.Round
import QueryAlgebra.Main
import QueryAlgebra.Proofs.Acceptance
import QueryAlgebra.Proofs.Agreement
import QueryAlgebra.Proofs.Aliases
import QueryAlgebra.Proofs.BlindSpot
import QueryAlgebra.Proofs.CaseInsensitivity
import QueryAlgebra.Proofs.CheckpointLog
import QueryAlgebra.Proofs.Clauses
import QueryAlgebra.Proofs.CoverageNotes
import QueryAlgebra.Proofs.Evolution
import QueryAlgebra.Proofs.Extraction
import QueryAlgebra.Proofs.FaultyQueries
import QueryAlgebra.Proofs.InsertionOrder
import QueryAlgebra.Proofs.IntegerLists
import QueryAlgebra.Proofs.Isolation
import QueryAlgebra.Proofs.JoinedDialogues
import QueryAlgebra.Proofs.JoinedTables
import QueryAlgebra.Proofs.Layout
import QueryAlgebra.Proofs.Legibility
import QueryAlgebra.Proofs.LowerCase
import QueryAlgebra.Proofs.ManyJoins
import QueryAlgebra.Proofs.Marks
import QueryAlgebra.Proofs.Plateau
import QueryAlgebra.Proofs.PrintedLines
import QueryAlgebra.Proofs.ProjectFrames
import QueryAlgebra.Proofs.ProjectedColumns
import QueryAlgebra.Proofs.Reports
import QueryAlgebra.Proofs.Representation
import QueryAlgebra.Proofs.RoundCompletion
import QueryAlgebra.Proofs.SingleColumn
import QueryAlgebra.Proofs.Statement
import QueryAlgebra.Proofs.Translation
import QueryAlgebra.Proofs.Unreachable
import QueryAlgebra.Proofs.Validation
