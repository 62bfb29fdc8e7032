import ChainCalculator.Console
import ChainCalculator.Desk
import ChainCalculator.StateLine
import ChainCalculator.Settings
import ChainCalculator.Main
import ChainCalculator.Proofs.ChainShape
import ChainCalculator.Proofs.Handling
import ChainCalculator.Proofs.PendingOperation
import ChainCalculator.Proofs.OperatorTotals
import ChainCalculator.Proofs.FigureParts
import ChainCalculator.Proofs.PlainScreens
import ChainCalculator.Proofs.DecimalReading
import ChainCalculator.Proofs.Typing
import ChainCalculator.Proofs.RunningTotal
import ChainCalculator.Proofs.FailedButtons
import ChainCalculator.Proofs.RejectedInput
import ChainCalculator.Proofs.NonFinite
import ChainCalculator.Proofs.LastingError
import ChainCalculator.Proofs.PastedNumber
import ChainCalculator.Proofs.NearestMagnitude
import ChainCalculator.Proofs.DecimalMagnitude
import ChainCalculator.Proofs.FloatParts
import ChainCalculator.Proofs.ReenteredFigure
import ChainCalculator.Proofs.OperandProperties
import ChainCalculator.Proofs.WrittenNumber
import ChainCalculator.Proofs.LegibleTexts
import ChainCalculator.Proofs.JsonTexts
import ChainCalculator.Proofs.StateLineReading
import ChainCalculator.Proofs.InputLines
import ChainCalculator.Proofs.PrintedLines
import ChainCalculator.Proofs.Streaming
import ChainCalculator.Proofs.OneShot
import ChainCalculator.Proofs.BindingOrder
import ChainCalculator.Proofs.RepeatedEquals
import ChainCalculator.Proofs.TypedAndPasted
import ChainCalculator.Proofs.ExactValue
import ChainCalculator.Proofs.FigureValue
import ChainCalculator.Proofs.TakenBack
import ChainCalculator.Proofs.KeysOfLines
import ChainCalculator.Proofs.BindingHistory
import ChainCalculator.Proofs.DenotedNumber
import ChainCalculator.Proofs.SettledChains
import ChainCalculator.Proofs.RunOrder
import ChainCalculator.Proofs.DisputedKeys
