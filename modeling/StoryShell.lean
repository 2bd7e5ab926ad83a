import StoryShell.Text.LetterCase
import StoryShell.Text.Blank
import StoryShell.Text.Digit
import StoryShell.Text.Quoted
import StoryShell.Text.Utf8
import StoryShell.Number.Shortest
import StoryShell.Json.Document
import StoryShell.Json.Spelling
import StoryShell.NameMap
import StoryShell.Tree.FileSystem
import StoryShell.Tree.Workbench
import StoryShell.Command.Interpreter
import StoryShell.Bus.Script
import StoryShell.Gate
import StoryShell.Story.Tracker
import StoryShell.View.Console
import StoryShell.View.Scene
import StoryShell.World.Bundled
import StoryShell.World.Decode
import StoryShell.World.Build
import StoryShell.Session
import StoryShell.Shell
import StoryShell.Arguments
import StoryShell.Launch
import StoryShell.Toml.Document
import StoryShell.Version
import StoryShell.Main
import StoryShell.Proofs.Outcome
import StoryShell.Proofs.Text.Separator
import StoryShell.Proofs.Text.Words
import StoryShell.Proofs.Text.LowerCase
import StoryShell.Proofs.Text.SameName
import StoryShell.Proofs.Bus.Snapshot
import StoryShell.Proofs.Tree.Nodes
import StoryShell.Proofs.Tree.Lineage
import StoryShell.Proofs.Tree.Soundness
import StoryShell.Proofs.Tree.FileSystem
import StoryShell.Proofs.Tree.Changes
import StoryShell.Proofs.Tree.Growth
import StoryShell.Proofs.Tree.Effects
import StoryShell.Proofs.Tree.InTree
import StoryShell.Proofs.Tree.Paths
import StoryShell.Proofs.Tree.Descent
import StoryShell.Proofs.Tree.Frame
import StoryShell.Proofs.Tree.Cursor
import StoryShell.Proofs.Tree.Alike
import StoryShell.Proofs.Tree.Counterpart
import StoryShell.Proofs.Tree.Ways
import StoryShell.Proofs.Tree.Searching
import StoryShell.Proofs.Tree.Copying
import StoryShell.Proofs.Tree.Roles
import StoryShell.Proofs.Tree.Workbench
import StoryShell.Proofs.Tree.Procedures
import StoryShell.Proofs.Tree.Guards
import StoryShell.Proofs.Tree.Moves
import StoryShell.Proofs.Tree.Resolution
import StoryShell.Proofs.Tree.RoundTrip
import StoryShell.Proofs.Command.Execution
import StoryShell.Proofs.Command.Faults
import StoryShell.Proofs.Command.Refusals
import StoryShell.Proofs.Command.LetterCase
import StoryShell.Proofs.Command.Alike
import StoryShell.Proofs.Command.ReadBack
import StoryShell.Proofs.Gate.Verdict
import StoryShell.Proofs.Gate.Edits
import StoryShell.Proofs.Gate.Seeding
import StoryShell.Proofs.Gate.TrailingSlash
import StoryShell.Proofs.Gate.LastEdit
import StoryShell.Proofs.Gate.Query
import StoryShell.Proofs.Story.Prerequisites
import StoryShell.Proofs.Story.Visits
import StoryShell.Proofs.Story.Advances
import StoryShell.Proofs.Story.Gating
import StoryShell.Proofs.Story.Narrative
import StoryShell.Proofs.Story.Cycles
import StoryShell.Proofs.World.Address
import StoryShell.Proofs.World.Build
import StoryShell.Proofs.World.Decode
import StoryShell.Proofs.World.Planting
import StoryShell.Proofs.World.Mirror
import StoryShell.Proofs.World.Faithful
import StoryShell.Proofs.World.Bundled
import StoryShell.Proofs.World.Shape
import StoryShell.Proofs.World.Acceptance
import StoryShell.Proofs.World.Order
import StoryShell.Proofs.World.Reordered
import StoryShell.Proofs.Session.Loading
import StoryShell.Proofs.Session.Publishing
import StoryShell.Proofs.Session.Lines
import StoryShell.Proofs.Session.Passage
import StoryShell.Proofs.Session.Announcements
import StoryShell.Proofs.Session.History
import StoryShell.Proofs.Session.Staging
import StoryShell.Proofs.Session.Frame
import StoryShell.Proofs.Session.Unlocking
import StoryShell.Proofs.Session.Faults
import StoryShell.Proofs.Session.LetterCase
import StoryShell.Proofs.Session.Paths
import StoryShell.Proofs.Session.Refusals
import StoryShell.Proofs.Session.Walks
import StoryShell.Proofs.Session.Entering
import StoryShell.Proofs.Session.Sequence
import StoryShell.Proofs.Session.Errands
import StoryShell.Proofs.Session.Completion
import StoryShell.Proofs.Session.Narrative
import StoryShell.Proofs.Session.Forcing
import StoryShell.Proofs.Session.Openness
import StoryShell.Proofs.Session.Alike
import StoryShell.Proofs.Session.Disturbance
import StoryShell.Proofs.Session.Twins
import StoryShell.Proofs.Session.Order
import StoryShell.Proofs.Shell.Telling
import StoryShell.Proofs.Shell.Rounds
