import SchemaAtlas.Dump.Printer
import SchemaAtlas.Main
import SchemaAtlas.Proofs.Draft.Rows
import SchemaAtlas.Proofs.Dump.RoundTrip
import SchemaAtlas.Proofs.Service.Traffic
import SchemaAtlas.Scene.Event
import SchemaAtlas.Scene.Paint
import SchemaAtlas.Window.Screen
import SchemaAtlas.Proofs.Document.Capture
import SchemaAtlas.Proofs.Document.RoundTrip
import SchemaAtlas.Proofs.Panel.Runs
import SchemaAtlas.Proofs.Service.Survival
import SchemaAtlas.Proofs.Scene.Arena
import SchemaAtlas.Proofs.Scene.Runs
import SchemaAtlas.Proofs.Window.Dialogue
import SchemaAtlas.Proofs.Document.InStep
import SchemaAtlas.Proofs.Dump.Declared
import SchemaAtlas.Proofs.Document.InPlace
import SchemaAtlas.Proofs.Service.Outsiders
import SchemaAtlas.Proofs.Document.Commuting
import SchemaAtlas.Proofs.Document.Undo
import SchemaAtlas.Proofs.Draft.Agreement
import SchemaAtlas.Proofs.Draft.Unedited
import SchemaAtlas.Proofs.Dump.Declarations
import SchemaAtlas.Proofs.Text.Letter
import SchemaAtlas.Proofs.Text.Spacing
import SchemaAtlas.Proofs.Dump.Clauses
import SchemaAtlas.Proofs.Dump.Ticked
import SchemaAtlas.Proofs.Dump.Alike
import SchemaAtlas.Proofs.Dump.Spacing
import SchemaAtlas.Proofs.Dump.Respaced
import SchemaAtlas.Proofs.Dump.Contents
import SchemaAtlas.Proofs.Panel.Polls
import SchemaAtlas.Proofs.Scene.Saved
import SchemaAtlas.Proofs.Dump.Widths
import SchemaAtlas.Proofs.Panel.Closing
import SchemaAtlas.Proofs.Service.Log
import SchemaAtlas.Proofs.Service.Addresses
import SchemaAtlas.Proofs.Settings.Reloading
import SchemaAtlas.Proofs.Scene.Lines
import SchemaAtlas.Proofs.Scene.Picking
import SchemaAtlas.Proofs.Service.Keys
import SchemaAtlas.Proofs.Window.Preferences
import SchemaAtlas.Proofs.Dump.Rounds
