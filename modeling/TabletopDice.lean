import TabletopDice.Audit
import TabletopDice.JsonForm
import TabletopDice.Journal
import TabletopDice.Main
import TabletopDice.Session
import TabletopDice.WyRand
import TabletopDice.Proofs.LetterCase
import TabletopDice.Proofs.Trimming
import TabletopDice.Proofs.Scanning
import TabletopDice.Proofs.MachineWords
import TabletopDice.Proofs.Numbers
import TabletopDice.Proofs.NoOverflow
import TabletopDice.Proofs.Parsing
import TabletopDice.Proofs.Notation
import TabletopDice.Proofs.Faces
import TabletopDice.Proofs.Rolling
import TabletopDice.Proofs.Rollers
import TabletopDice.Proofs.Sessions
import TabletopDice.Proofs.Beginnings
import TabletopDice.Proofs.Transcripts
import TabletopDice.Proofs.ErrorSpans
import TabletopDice.Proofs.Outcomes
import TabletopDice.Proofs.Ranks
import TabletopDice.Proofs.Parting
import TabletopDice.Proofs.Duality
import TabletopDice.Proofs.BestSums
import TabletopDice.Proofs.JsonTokens
import TabletopDice.Proofs.JsonForms
import TabletopDice.Proofs.Replays
import TabletopDice.Proofs.CommandLines
import TabletopDice.Proofs.SeededRolls
import TabletopDice.Proofs.RepeatedSelections
import TabletopDice.Proofs.HigherDice
import TabletopDice.Proofs.Capacity
import TabletopDice.Proofs.Chance
import TabletopDice.Proofs.Turns
import TabletopDice.Proofs.NormalForms
import TabletopDice.Proofs.Descriptions
import TabletopDice.Proofs.Messages
import TabletopDice.Proofs.SplitArguments
