import Mosaic.Catalogue
import Mosaic.Challenge
import Mosaic.Color
import Mosaic.CommandLine.Arguments
import Mosaic.CommandLine.Tools
import Mosaic.Document
import Mosaic.Document.Display
import Mosaic.Document.Reader
import Mosaic.Document.Writer
import Mosaic.Evaluation
import Mosaic.Fault
import Mosaic.Folder
import Mosaic.Goal
import Mosaic.Goal.Lamps
import Mosaic.Goal.Screen
import Mosaic.Goal.Strips
import Mosaic.Grid
import Mosaic.Grid.CodeTable
import Mosaic.Grid.Loose
import Mosaic.Grid.Normal
import Mosaic.Main
import Mosaic.Maze
import Mosaic.Maze.Carving
import Mosaic.Maze.Reading
import Mosaic.Maze.Session
import Mosaic.Mode
import Mosaic.Number.Binary64
import Mosaic.Number.Shortest
import Mosaic.Picture.Easel
import Mosaic.Picture.Canvas
import Mosaic.Picture.Grid
import Mosaic.Picture.Maze
import Mosaic.Press
import Mosaic.Program.Command
import Mosaic.Program.Expansion
import Mosaic.Program.Line
import Mosaic.Program.Loading
import Mosaic.Program.Parsing
import Mosaic.Program.Problem
import Mosaic.Program.Screen.Sequence
import Mosaic.Program.Screen.Token
import Mosaic.Random.Source
import Mosaic.Random.Twister
import Mosaic.Run
import Mosaic.Run.Execution
import Mosaic.Run.Replay
import Mosaic.Run.Stepping
import Mosaic.Score
import Mosaic.Settings
import Mosaic.Text.Blank
import Mosaic.Text.Capital
import Mosaic.Text.CharClass
import Mosaic.Text.Digit
import Mosaic.Text.Letter
import Mosaic.Text.Lines
import Mosaic.Text.Numeral
import Mosaic.Text.Path
import Mosaic.Text.Printable
import Mosaic.Text.Quoted
import Mosaic.Workbench
import Mosaic.Proofs.Attempts
import Mosaic.Proofs.Text.Numeral
import Mosaic.Proofs.Text.Digits
import Mosaic.Proofs.Program.Loops
import Mosaic.Proofs.Program.Reading
import Mosaic.Proofs.Program.Stream
import Mosaic.Proofs.Run.Painting
import Mosaic.Proofs.Run.Scene
import Mosaic.Proofs.Run.Steady
import Mosaic.Proofs.Run.Course
import Mosaic.Proofs.Run.Rewinding
import Mosaic.Proofs.Run.CarryingOut
import Mosaic.Proofs.Run.Batches
import Mosaic.Proofs.Run.Refinement
import Mosaic.Proofs.Run.Strips
import Mosaic.Proofs.Run.Tables
import Mosaic.Proofs.Workbench.Operations
import Mosaic.Proofs.Maze.Layout
import Mosaic.Proofs.Random.Draws
import Mosaic.Proofs.Run.Objective
import Mosaic.Proofs.Workbench.Objective
import Mosaic.Proofs.Program.Numerals
import Mosaic.Proofs.Run.Replaying
import Mosaic.Proofs.Run.Loading
import Mosaic.Proofs.Maze.Ascending
import Mosaic.Proofs.Maze.Cells
import Mosaic.Proofs.Maze.Passages
import Mosaic.Proofs.Maze.Carving
import Mosaic.Proofs.Maze.Generation
import Mosaic.Proofs.Maze.Trees
import Mosaic.Proofs.Maze.Openings
import Mosaic.Proofs.Maze.Perfection
import Mosaic.Proofs.Maze.Walking
import Mosaic.Proofs.Program.Written
import Mosaic.Proofs.Program.Expansion
import Mosaic.Proofs.Maze.Exploring
import Mosaic.Proofs.Run.Playing
import Mosaic.Proofs.Run.Solving
import Mosaic.Proofs.Run.Exploring
import Mosaic.Proofs.Run.Keeping
import Mosaic.Proofs.Run.Drawing
import Mosaic.Proofs.Run.Filling
import Mosaic.Proofs.Run.Screens
import Mosaic.Proofs.Run.Unrolling
import Mosaic.Proofs.Run.Reproducing
import Mosaic.Proofs.Goal.Lamps
import Mosaic.Proofs.Program.Cuts
import Mosaic.Proofs.Program.Trees
import Mosaic.Proofs.Program.Grammar
import Mosaic.Proofs.Program.Forms
import Mosaic.Proofs.Text.Entries
import Mosaic.Proofs.Program.Layouts
import Mosaic.Proofs.Program.Renderings
import Mosaic.Proofs.Program.Recognizing
import Mosaic.Proofs.Program.Printing
import Mosaic.Proofs.Goal.Patterns
import Mosaic.Proofs.Goal.Screen
import Mosaic.Proofs.Goal.Budget
import Mosaic.Proofs.Goal.Even
import Mosaic.Proofs.Workbench.Reachable
import Mosaic.Proofs.Workbench.Refusal
import Mosaic.Proofs.Workbench.Starting
import Mosaic.Proofs.Document.Texts
import Mosaic.Proofs.Program.Plain
import Mosaic.Proofs.Number.Rounding
import Mosaic.Proofs.Number.Shortest
import Mosaic.Proofs.Document.Numbers
import Mosaic.Proofs.Document.RoundTrip
import Mosaic.Proofs.Maze.Reading
import Mosaic.Proofs.Run.Orderly
import Mosaic.Proofs.Maze.Session
import Mosaic.Proofs.Workbench.Tidy
import Mosaic.Proofs.Workbench.Sessions
import Mosaic.Proofs.Workbench.Moves
import Mosaic.Proofs.Run.Success
import Mosaic.Proofs.Run.Switches
import Mosaic.Proofs.Workbench.Success
import Mosaic.Proofs.Workbench.Range
import Mosaic.Proofs.Run.Sized
import Mosaic.Proofs.Run.Even
import Mosaic.Proofs.Run.Sturdy
import Mosaic.Proofs.Run.Returning
import Mosaic.Proofs.Scoring
import Mosaic.Proofs.Measuring
import Mosaic.Proofs.Evaluation
import Mosaic.Proofs.Folder
import Mosaic.Proofs.Document.Printed
import Mosaic.Proofs.Catalogue.Merging
import Mosaic.Proofs.Catalogue.Updating
import Mosaic.Proofs.Countdown
import Mosaic.Proofs.Run.Advancing
import Mosaic.Proofs.Run.Consistency
import Mosaic.Proofs.Run.Pausing
import Mosaic.Proofs.Run.Layouts
import Mosaic.Proofs.Run.Entries
import Mosaic.Proofs.Program.Tables
import Mosaic.Proofs.Program.Structure
import Mosaic.Proofs.Run.Dots
import Mosaic.Proofs.Goal.Drawable
import Mosaic.Proofs.Goal.Careful
import Mosaic.Proofs.Run.Straight
import Mosaic.Proofs.Maze.Descriptions
import Mosaic.Proofs.Maze.Refusals
import Mosaic.Proofs.Program.Batches
import Mosaic.Proofs.Picture
import Mosaic.Proofs.Text.Classes
import Mosaic.Proofs.Program.Scanning
import Mosaic.Proofs.Program.Parentheses
import Mosaic.Proofs.Document.Grids
