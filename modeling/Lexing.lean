import Lexing.Command.ReadError
import Lexing.Command.Report
import Lexing.Cursor
import Lexing.Diagnostic
import Lexing.Keyword
import Lexing.Lexeme.Blank
import Lexing.Lexeme.Comment
import Lexing.Lexeme.Literal
import Lexing.Lexeme.Name
import Lexing.Lexeme.Number
import Lexing.Lexeme.Standard
import Lexing.Lexeme.Symbol
import Lexing.Main
import Lexing.Movement
import Lexing.Outcome
import Lexing.Position
import Lexing.Recognizer
import Lexing.Round
import Lexing.Run
import Lexing.Tab
import Lexing.TagSet
import Lexing.Text.Basic
import Lexing.Text.LineBreak
import Lexing.Text.Numeral
import Lexing.Text.Quoted
import Lexing.Token
import Lexing.Unicode.Alphabetic
import Lexing.Unicode.ExtendingMark
import Lexing.Unicode.Numeric
import Lexing.Unicode.RangeTable
import Lexing.Unicode.Unprintable
import Lexing.Unicode.WhiteSpace
import Lexing.Window
import Lexing.Word
import Lexing.Proofs.Position.After
import Lexing.Proofs.Cursor.Cuts
import Lexing.Proofs.Cursor.Marker
import Lexing.Proofs.Cursor.Sound
import Lexing.Proofs.Cursor.Calls
import Lexing.Proofs.Lexeme.Literal
import Lexing.Proofs.Lexeme.Outcomes
import Lexing.Proofs.Round.Played
import Lexing.Proofs.Run.Plays
import Lexing.Proofs.Lexeme.Turn
import Lexing.Proofs.Run.Turns
import Lexing.Proofs.Lexeme.Hidden
import Lexing.Proofs.Run.Places
import Lexing.Proofs.Lexeme.Grammar
import Lexing.Proofs.Run.Language
import Lexing.Proofs.Text.Boundary
import Lexing.Proofs.Cursor.Locate
import Lexing.Proofs.Round.Decides
import Lexing.Proofs.Run.Spans
import Lexing.Proofs.Run.Total
import Lexing.Proofs.Lexeme.Truthful
import Lexing.Proofs.Run.Reliable
import Lexing.Proofs.Run.Widths
import Lexing.Proofs.Run.Silence
import Lexing.Proofs.Lexeme.Context
import Lexing.Proofs.Run.Printed
import Lexing.Proofs.Run.InStep
import Lexing.Proofs.Run.Joined
import Lexing.Proofs.Lexeme.Respelled
import Lexing.Proofs.Run.Respelled
import Lexing.Proofs.Run.Stalls
import Lexing.Proofs.Run.Order
import Lexing.Proofs.Run.Parts
import Lexing.Proofs.Command.Execute
import Lexing.Proofs.Cursor.Back
import Lexing.Proofs.Run.Skips
import Lexing.Proofs.Position.Order
import Lexing.Proofs.Cursor.Probe
import Lexing.Proofs.Round.Rule
import Lexing.Proofs.Cursor.Doors
import Lexing.Proofs.Lexeme.Element
import Lexing.Proofs.Run.InPlace
import Lexing.Proofs.Run.Refused
import Lexing.Proofs.Lexeme.Kind
import Lexing.Proofs.Run.Munch
import Lexing.Proofs.Run.Ascent
import Lexing.Proofs.Run.Tagged
import Lexing.Proofs.Lexeme.Marked
import Lexing.Proofs.Window.Parts
import Lexing.Proofs.Window.Extent
import Lexing.Proofs.Cursor.Columns
import Lexing.Proofs.Token.Edits
import Lexing.Proofs.Text.Scan
