import Calculator.CommandLine
import Calculator.CommandLine.Arguments
import Calculator.Environment
import Calculator.Evaluate
import Calculator.Expr
import Calculator.Interpret
import Calculator.Log
import Calculator.Main
import Calculator.Name
import Calculator.Number.Arithmetic
import Calculator.Number.Binary64
import Calculator.Number.Decimal
import Calculator.Number.Literal
import Calculator.Number.Shortest
import Calculator.Operator
import Calculator.Parse.Error
import Calculator.Parse.Event
import Calculator.Parse.Operand
import Calculator.Proofs.CommandLine.Framing
import Calculator.Proofs.CommandLine.Modes
import Calculator.Proofs.CommandLine.Stream
import Calculator.Proofs.Environment.Canonical
import Calculator.Proofs.Environment.Dump
import Calculator.Proofs.Environment.Lookup
import Calculator.Proofs.Evaluate.Assigned
import Calculator.Proofs.Evaluate.Exposed
import Calculator.Proofs.Evaluate.Failure
import Calculator.Proofs.Evaluate.Place
import Calculator.Proofs.Evaluate.Targets
import Calculator.Proofs.Evaluate.Total
import Calculator.Proofs.Evaluate.Unset
import Calculator.Proofs.Evaluate.Visit
import Calculator.Proofs.Expr.Canonical
import Calculator.Proofs.Expr.Order
import Calculator.Proofs.Expr.Reread
import Calculator.Proofs.Expr.Shape
import Calculator.Proofs.Expr.Source
import Calculator.Proofs.Number.Bits
import Calculator.Proofs.Number.Finite
import Calculator.Proofs.Number.Grammar
import Calculator.Proofs.Number.NotANumber
import Calculator.Proofs.Number.Positional
import Calculator.Proofs.Number.ReadBack
import Calculator.Proofs.Number.Recognizer
import Calculator.Proofs.Number.Rounding
import Calculator.Proofs.Number.Shown
import Calculator.Proofs.Number.Spelling
import Calculator.Proofs.Parse.Accept
import Calculator.Proofs.Parse.Closing
import Calculator.Proofs.Parse.Due
import Calculator.Proofs.Parse.Fault
import Calculator.Proofs.Parse.Form
import Calculator.Proofs.Parse.Message
import Calculator.Proofs.Parse.Rejected
import Calculator.Proofs.Parse.Report
import Calculator.Proofs.Parse.Stopped
import Calculator.Proofs.Random.Draw
import Calculator.Proofs.Random.Expr
import Calculator.Proofs.Session.History
import Calculator.Proofs.Session.Interpret
import Calculator.Proofs.Session.Run
import Calculator.Proofs.Session.Variables
import Calculator.Proofs.Session.Widen
import Calculator.Proofs.Text.Backspace
import Calculator.Proofs.Text.Delimited
import Calculator.Proofs.Text.Line
import Calculator.Proofs.Text.Trim
import Calculator.Proofs.Token.Greedy
import Calculator.Proofs.Token.Number
import Calculator.Proofs.Token.Respell
import Calculator.Proofs.Token.Split
import Calculator.Proofs.Token.Widen
import Calculator.Random.Expr
import Calculator.Random.Source
import Calculator.Random.Xoshiro
import Calculator.Separators
import Calculator.Session
import Calculator.Session.Command
import Calculator.Session.History
import Calculator.Text.Backspace
import Calculator.Text.Blank
import Calculator.Text.Break
import Calculator.Text.Cluster
import Calculator.Text.Line
import Calculator.Token
import Calculator.Token.Scan
