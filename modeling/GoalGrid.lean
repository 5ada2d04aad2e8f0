import GoalGrid.Session
import GoalGrid.Main
import GoalGrid.Proofs.Runs
import GoalGrid.Proofs.Failures
import GoalGrid.Proofs.Refinement
import GoalGrid.Proofs.Draws
import GoalGrid.Proofs.Cells
import GoalGrid.Proofs.Layouts
import GoalGrid.Proofs.Builds
import GoalGrid.Proofs.Chance
import GoalGrid.Proofs.Finality
import GoalGrid.Proofs.Lockstep
import GoalGrid.Proofs.Order
import GoalGrid.Proofs.Goals
import GoalGrid.Proofs.Decoding
import GoalGrid.Proofs.Successes
import GoalGrid.Proofs.Frozen
import GoalGrid.Proofs.Vacancies
import GoalGrid.Proofs.FreeCell
import GoalGrid.Proofs.Copies
import GoalGrid.Proofs.Picks
import GoalGrid.Proofs.Placements
import GoalGrid.Proofs.Shuffles
import GoalGrid.Proofs.Exchanges
import GoalGrid.Proofs.Bingos
import GoalGrid.Proofs.Markings
import GoalGrid.Proofs.Additions
import GoalGrid.Proofs.Fillings
import GoalGrid.Proofs.Withdrawals
import GoalGrid.Proofs.Headers
import GoalGrid.Proofs.Resizes
import GoalGrid.Proofs.Frames
import GoalGrid.Proofs.Fields
import GoalGrid.Proofs.CommandLines
import GoalGrid.Proofs.Numerals
import GoalGrid.Proofs.Tables
import GoalGrid.Proofs.Guarded.Operation
