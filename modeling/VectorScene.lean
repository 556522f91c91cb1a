import VectorScene.Command.Builtin
import VectorScene.Geometry.Frame
import VectorScene.Json.Document
import VectorScene.Main
import VectorScene.Scene.State
import VectorScene.Script.Evaluation
import VectorScene.Session
import VectorScene.Terminal.Dialogue
import VectorScene.Proofs.Scene.Requests
import VectorScene.Proofs.Scene.Accounts
import VectorScene.Proofs.Scene.Handles
import VectorScene.Proofs.Scene.Likeness
import VectorScene.Proofs.Command.Changes
import VectorScene.Proofs.Command.Plans
import VectorScene.Proofs.Command.Dispatch
import VectorScene.Proofs.Command.Failure
import VectorScene.Proofs.Scene.Colors
import VectorScene.Proofs.Scene.Revising
import VectorScene.Proofs.Command.Arguments
import VectorScene.Proofs.Command.Edits
import VectorScene.Proofs.Command.Repetition
import VectorScene.Proofs.Command.Copies
import VectorScene.Proofs.Command.Agreement
import VectorScene.Proofs.Command.Composites
import VectorScene.Proofs.Command.Replay
import VectorScene.Proofs.Scene.Growth
import VectorScene.Proofs.Scene.Places
import VectorScene.Proofs.Command.Lines
import VectorScene.Proofs.Command.LogFile
import VectorScene.Proofs.Command.CallTree
import VectorScene.Proofs.Command.Lists
import VectorScene.Proofs.Command.Yields
import VectorScene.Proofs.Command.Generation
import VectorScene.Proofs.Command.InPlace
import VectorScene.Proofs.Command.Depth
import VectorScene.Proofs.Command.Transcript
import VectorScene.Proofs.Command.Export
import VectorScene.Proofs.Command.Literals
import VectorScene.Proofs.Command.Positions
import VectorScene.Proofs.Command.ScriptLog
import VectorScene.Proofs.Command.Reads
import VectorScene.Proofs.Command.Termination
import VectorScene.Proofs.Command.Runs
import VectorScene.Proofs.Command.Menus
import VectorScene.Proofs.Scene.Captions
import VectorScene.Proofs.Command.Tidy
import VectorScene.Proofs.Command.Rebuilding
import VectorScene.Proofs.Scene.Putting
import VectorScene.Proofs.Command.Putting
import VectorScene.Proofs.Command.Duplicates
import VectorScene.Proofs.Command.Positional
import VectorScene.Proofs.Script.Pieces
import VectorScene.Proofs.Script.Literals
import VectorScene.Proofs.Script.Bytes
import VectorScene.Proofs.Script.Prepared
import VectorScene.Proofs.Command.PreparedLog
import VectorScene.Proofs.Command.Frames
import VectorScene.Proofs.Command.Courses
import VectorScene.Proofs.Command.Reported
import VectorScene.Proofs.Command.Recall
import VectorScene.Proofs.Geometry.Frame
import VectorScene.Proofs.Script.Matching
