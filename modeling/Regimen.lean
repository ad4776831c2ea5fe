import Regimen.Document
import Regimen.Folding
import Regimen.Layout
import Regimen.Settings.File
import Regimen.Server
import Regimen.Session
import Regimen.Main
import Regimen.Proofs.Contents
import Regimen.Proofs.Fidelity
import Regimen.Proofs.FoldsKept
import Regimen.Proofs.Marks
import Regimen.Proofs.Division
import Regimen.Proofs.SlashPieces
import Regimen.Proofs.Margins
import Regimen.Proofs.Absorption
import Regimen.Proofs.Sections
import Regimen.Proofs.Roles
import Regimen.Proofs.Depth
import Regimen.Proofs.NestedCode
import Regimen.Proofs.LineEnds
import Regimen.Proofs.Indentation
import Regimen.Proofs.NestedFolds
import Regimen.Proofs.Joining
import Regimen.Proofs.Runs
import Regimen.Proofs.Store
import Regimen.Proofs.Editing
import Regimen.Proofs.EditorLines
import Regimen.Proofs.Offers
import Regimen.Proofs.Bounds
import Regimen.Proofs.Reading
import Regimen.Proofs.RoundTrip
import Regimen.Proofs.Acceptance
import Regimen.Proofs.Changes
import Regimen.Proofs.Refinement
import Regimen.Proofs.Rejoining
import Regimen.Proofs.Loading
import Regimen.Proofs.Decoding
