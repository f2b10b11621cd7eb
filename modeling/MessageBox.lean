import MessageBox.CommandLine.Args
import MessageBox.CommandLine.Invocation
import MessageBox.Dialog.Basic
import MessageBox.Dialog.Description
import MessageBox.Failure
import MessageBox.Icon
import MessageBox.Log.Filter
import MessageBox.Log.Journal
import MessageBox.Log.Record
import MessageBox.Log.Rotation
import MessageBox.Machine.Log
import MessageBox.Machine.LoopRun
import MessageBox.Machine.Program
import MessageBox.Machine.Schedule
import MessageBox.Machine.Stage
import MessageBox.Machine.State
import MessageBox.Machine.Step
import MessageBox.Main
import MessageBox.Outcome
import MessageBox.Preset
import MessageBox.Prompt
import MessageBox.Proofs.Agreement
import MessageBox.Proofs.Announcements
import MessageBox.Proofs.Confinement
import MessageBox.Proofs.Conservation
import MessageBox.Proofs.Depth
import MessageBox.Proofs.Dispatch
import MessageBox.Proofs.ExitTokens
import MessageBox.Proofs.Handoff
import MessageBox.Proofs.Isolation
import MessageBox.Proofs.Machine.Activations
import MessageBox.Proofs.Machine.Agenda
import MessageBox.Proofs.Machine.Caller
import MessageBox.Proofs.Machine.ChosenPress
import MessageBox.Proofs.Machine.Custody
import MessageBox.Proofs.Machine.Fires
import MessageBox.Proofs.Machine.Frames
import MessageBox.Proofs.Machine.Growth
import MessageBox.Proofs.Machine.Leads
import MessageBox.Proofs.Machine.Loop
import MessageBox.Proofs.Machine.Phases
import MessageBox.Proofs.Machine.Run
import MessageBox.Proofs.Machine.Sleepers
import MessageBox.Proofs.Machine.Sound
import MessageBox.Proofs.Machine.UiCalls
import MessageBox.Proofs.Nesting
import MessageBox.Proofs.Prompt
import MessageBox.Proofs.Races
import MessageBox.Proofs.Releases
import MessageBox.Proofs.Semaphore
import MessageBox.Proofs.Shutdown
import MessageBox.Proofs.Sync.Monitor
import MessageBox.Proofs.Waiters
import MessageBox.Proofs.WakeUps
import MessageBox.Session
import MessageBox.Settings.Basic
import MessageBox.Settings.File
import MessageBox.Settings.Reader
import MessageBox.Settings.Writer
import MessageBox.Slot
import MessageBox.Spec
import MessageBox.Storage
import MessageBox.Sync.Handoff
import MessageBox.Sync.Monitor
import MessageBox.Sync.Rehearsal
import MessageBox.Sync.Semaphore
import MessageBox.Sync.Wait
import MessageBox.Terminal.Decoding
import MessageBox.Terminal.Display
import MessageBox.Terminal.Drawing
import MessageBox.Terminal.Geometry
import MessageBox.Terminal.Key
import MessageBox.Terminal.Screen
import MessageBox.Terminal.Stack
import MessageBox.Terminal.View
import MessageBox.Text.Base64
import MessageBox.Text.Cluster
import MessageBox.Text.Description
import MessageBox.Text.Duration
import MessageBox.Text.Glyph
import MessageBox.Text.Number
import MessageBox.Text.Quoted
import MessageBox.Text.Ranges
import MessageBox.Text.Space
import MessageBox.Text.Table.Clusters
import MessageBox.Text.Table.Combining
import MessageBox.Text.Table.Emoji
import MessageBox.Text.Table.Joining
import MessageBox.Text.Table.Letters
import MessageBox.Text.Table.Unprinted
import MessageBox.Text.Table.Wide
import MessageBox.Text.Width
import MessageBox.Text.Wrap
import MessageBox.Yaml.Cursor
import MessageBox.Yaml.Node
import MessageBox.Yaml.Scalar
import MessageBox.Yaml.Tag
import MessageBox.Yaml.Token
import MessageBox.Proofs.Buttons
import MessageBox.Proofs.ButtonRoutes
import MessageBox.Proofs.Interruptions
import MessageBox.Proofs.Headless.Scene
import MessageBox.Proofs.Machine.Settling
import MessageBox.Proofs.Headless.OnUiThread
import MessageBox.Proofs.Headless.OnWorker
import MessageBox.Proofs.Arguments
import MessageBox.Proofs.HeadlessRun
import MessageBox.Proofs.Machine.Refusals
import MessageBox.Proofs.Machine.Answered
import MessageBox.Proofs.Failures
import MessageBox.Proofs.Building
import MessageBox.Proofs.Routing
import MessageBox.Proofs.Dismissal
import MessageBox.Proofs.Settings
import MessageBox.Proofs.Offers
import MessageBox.Proofs.NormalForm
import MessageBox.Proofs.Focus
import MessageBox.Proofs.Rotation
import MessageBox.Proofs.Machine.Showing
import MessageBox.Proofs.PendingOrder
import MessageBox.Proofs.WholeLines
import MessageBox.Proofs.Looks
import MessageBox.Proofs.Geometry
import MessageBox.Proofs.MessageRows
