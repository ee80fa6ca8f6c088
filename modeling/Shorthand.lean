import Shorthand.Main
import Shorthand.Proofs.Entry.Grammar
import Shorthand.Proofs.Line.UnresolvedChild
import Shorthand.Proofs.Entry.Vocabulary
import Shorthand.Proofs.Line.Influence
import Shorthand.Proofs.Line.Output
import Shorthand.Proofs.Text.Capitals
import Shorthand.Proofs.Entry.Capitals
import Shorthand.Proofs.Line.LetterCase
import Shorthand.Proofs.Text.Lines
import Shorthand.Proofs.Command.Settings
import Shorthand.Proofs.Command.Batch
import Shorthand.Proofs.Command.Directives
import Shorthand.Proofs.Command.Reordering
import Shorthand.Proofs.Command.Wording
import Shorthand.Proofs.Command.Endings
import Shorthand.Proofs.Entry.Departure
import Shorthand.Proofs.Passenger.Age
import Shorthand.Proofs.Entry.InfantRecord
import Shorthand.Proofs.Passenger.BirthSpelling
import Shorthand.Proofs.Entry.TrailingText
import Shorthand.Proofs.Entry.Availability
import Shorthand.Proofs.Entry.LeadingWord
import Shorthand.Proofs.Line.Marker
import Shorthand.Proofs.Line.Retranslation
import Shorthand.Proofs.Line.Trace
import Shorthand.Proofs.Command.Color
