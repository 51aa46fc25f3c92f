import InfixCalc.Guard
import InfixCalc.Main
import InfixCalc.Proofs.Postfix.Arrangement
import InfixCalc.Proofs.Expr
import InfixCalc.Proofs.Machine.Postorder
import InfixCalc.Proofs.Numeral
import InfixCalc.Proofs.Token.Typed
import InfixCalc.Proofs.Postfix.Sentence
import InfixCalc.Proofs.Evaluation
import InfixCalc.Proofs.Token.Spelling
import InfixCalc.Proofs.Evaluation.Space
import InfixCalc.Proofs.Evaluation.Partial
import InfixCalc.Proofs.Evaluation.Stages
import InfixCalc.Proofs.Double.Bits
import InfixCalc.Proofs.Double.Nearest
import InfixCalc.Proofs.Decimal
import InfixCalc.Proofs.Double.Shortest
import InfixCalc.Proofs.Numeral.Pointed
import InfixCalc.Proofs.Double.Text
import InfixCalc.Proofs.Rounding
import InfixCalc.Proofs.Evaluation.Joined
import InfixCalc.Proofs.Evaluation.Preview
import InfixCalc.Proofs.Postfix.Unfinished
import InfixCalc.Proofs.Token.Cut
import InfixCalc.Calculator.Use
import InfixCalc.Proofs.Calculator
import InfixCalc.Proofs.Evaluation.Unfinished
import InfixCalc.Proofs.Postfix.Parentheses
import InfixCalc.Proofs.Token.Stop
import InfixCalc.Proofs.Decimal.Limits
import InfixCalc.Proofs.Rounding.Limits
import InfixCalc.Proofs.Evaluation.Messages
import InfixCalc.Proofs.Command.Lines
import InfixCalc.Proofs.Machine.Frame
import InfixCalc.Proofs.Evaluation.Grouped
import InfixCalc.Proofs.Double.Value
import InfixCalc.Proofs.Rounding.Whole
import InfixCalc.Proofs.Double.Typed
import InfixCalc.Proofs.Evaluation.Display
import InfixCalc.Proofs.Postfix.Occurrence
import InfixCalc.Proofs.Double.Order
import InfixCalc.Proofs.Rounding.Order
import InfixCalc.Proofs.Command.Log
import InfixCalc.Proofs.Command.Channels
import InfixCalc.Proofs.Command.Dump
import InfixCalc.Proofs.Command.Blank
import InfixCalc.Proofs.Token.Turns
import InfixCalc.Proofs.Guard
import InfixCalc.Proofs.Numeral.Number
import InfixCalc.Proofs.Evaluation.Numerals
import InfixCalc.Proofs.Postfix.Held
