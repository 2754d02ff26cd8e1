import ToyRobot.CommandLine.Run
import ToyRobot.Main
import ToyRobot.Proofs.FreshStart
import ToyRobot.Proofs.Ineffective
import ToyRobot.Proofs.OnTable
import ToyRobot.Proofs.Retelling
import ToyRobot.Proofs.Gate
import ToyRobot.Proofs.Grammar
import ToyRobot.Proofs.Pieces
import ToyRobot.Proofs.Piped
import ToyRobot.Proofs.Batch
import ToyRobot.Proofs.Keyword
import ToyRobot.Proofs.Warnings
import ToyRobot.Proofs.Failures
import ToyRobot.Proofs.Softening
import ToyRobot.Proofs.Contract
import ToyRobot.Proofs.Accounting
import ToyRobot.Proofs.Mirror
import ToyRobot.Text.Json.Reading
import ToyRobot.Transcript.Reading
import ToyRobot.Proofs.JsonLines
import ToyRobot.Proofs.Spelling
import ToyRobot.Proofs.Placement
import ToyRobot.Proofs.Report
import ToyRobot.Proofs.Reckoning
import ToyRobot.Proofs.Walk
import ToyRobot.Proofs.Conversation
import ToyRobot.Proofs.LargerTable
import ToyRobot.Proofs.Route
import ToyRobot.Proofs.Cursor
import ToyRobot.Proofs.Layout
import ToyRobot.Proofs.Respelling
import ToyRobot.Proofs.StandIns
import ToyRobot.Proofs.Bounds
import ToyRobot.Proofs.ConsoleLines
