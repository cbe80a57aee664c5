import AnswerKey.CommandLine.Reader
import AnswerKey.Files.Walk
import AnswerKey.Grading
import AnswerKey.Key.Reader
import AnswerKey.Log.Filter.Reader
import AnswerKey.Log.Line
import AnswerKey.Main
import AnswerKey.Pattern
import AnswerKey.Proofs.Regex.Group
import AnswerKey.Proofs.Regex.Search
import AnswerKey.Proofs.Regex.Tail
import AnswerKey.Proofs.Regex.Replaced
import AnswerKey.Regex.Reader
import AnswerKey.Regex.Search
import AnswerKey.Report.Grades
import AnswerKey.Report.Listing
import AnswerKey.Report.Record
import AnswerKey.Scoring
import AnswerKey.Session
import AnswerKey.Submission
import AnswerKey.Proofs.Pattern.Anchored
import AnswerKey.Proofs.Pattern.Sign
import AnswerKey.Proofs.Scoring.Single
import AnswerKey.Proofs.Scoring.Assignment
import AnswerKey.Proofs.Scoring.Matching
import AnswerKey.Proofs.Scoring.Fraction
import AnswerKey.Proofs.Scoring.Points
import AnswerKey.Proofs.Scoring.Remaining
import AnswerKey.Proofs.Scoring.Insertion
import AnswerKey.Proofs.Scoring.Separable
import AnswerKey.Proofs.Scoring.Padding
import AnswerKey.Proofs.Scoring.OneLine
import AnswerKey.Proofs.Text.Delimiter
import AnswerKey.Proofs.Text.Piece
import AnswerKey.Proofs.Text.Padding
import AnswerKey.Proofs.Key.Bracket
import AnswerKey.Proofs.Number.Literal
import AnswerKey.Proofs.Options
import AnswerKey.Proofs.Key.Reader
import AnswerKey.Proofs.Key.Written
import AnswerKey.Proofs.Key.WellFormed
import AnswerKey.Proofs.Pattern.Part
import AnswerKey.Proofs.Regex.Inclusion
import AnswerKey.Proofs.Pattern.Growth
import AnswerKey.Proofs.Scoring.Widening
import AnswerKey.Proofs.Pattern.Lexeme
import AnswerKey.Proofs.Submission
import AnswerKey.Proofs.Session.Stage
import AnswerKey.Proofs.Session.Marks
import AnswerKey.Proofs.Key.Refusal
import AnswerKey.Proofs.Key.Separator
import AnswerKey.Proofs.Pattern.Pipe
import AnswerKey.Proofs.Regex.Cost
import AnswerKey.Proofs.Pattern.Template
import AnswerKey.Proofs.Scoring.Template
import AnswerKey.Proofs.Key.Composition
import AnswerKey.Proofs.Key.Declaration
import AnswerKey.Proofs.Submission.Reading
import AnswerKey.Proofs.Text.Order
import AnswerKey.Proofs.Files.Path
import AnswerKey.Proofs.Files.Entry
import AnswerKey.Proofs.Files.Search
import AnswerKey.Proofs.Submission.Discovery
import AnswerKey.Proofs.Files.Fault
import AnswerKey.Proofs.Report
import AnswerKey.Proofs.Key.Scan
import AnswerKey.Proofs.Pattern.Slash
import AnswerKey.Proofs.Number.Integer
import AnswerKey.Proofs.Number.Decimal
