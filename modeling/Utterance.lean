import Utterance.Main
import Utterance.Proofs.FilledSlots
import Utterance.Proofs.Reachability
import Utterance.Proofs.ReferenceTime
import Utterance.Proofs.EnvironmentVariables
import Utterance.Proofs.PrintedActions
import Utterance.Proofs.Rewording
import Utterance.Proofs.Session
import Utterance.Proofs.WordOrder
import Utterance.Text.Digits.Lemmas
import Utterance.Proofs.Continuations
import Utterance.Proofs.PhraseGrammar
import Utterance.Proofs.WrittenTimestamps
import Utterance.Proofs.ActionDocuments
import Utterance.Proofs.TimeHandover
import Utterance.Proofs.LeftmostSplits
import Utterance.Proofs.ExactTimes
import Utterance.Proofs.DayPhrases
import Utterance.Proofs.CalendarDays
import Utterance.Proofs.FirstFaults
import Utterance.Proofs.WordsAfter
import Utterance.Proofs.SnakeCaseNames
import Utterance.Proofs.Spacing
