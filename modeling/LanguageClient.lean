import LanguageClient.Completion.Ranking
import LanguageClient.Document.PlacedDiagnostic
import LanguageClient.Document.PlacedHover
import LanguageClient.Json.Reader
import LanguageClient.Json.Writer
import LanguageClient.Main
import LanguageClient.Proofs.Closure.Abstention
import LanguageClient.Proofs.Closure.Arrival
import LanguageClient.Proofs.Closure.Closings
import LanguageClient.Proofs.Closure.Operations
import LanguageClient.Proofs.Closure.Overlap
import LanguageClient.Proofs.Closure.Runs
import LanguageClient.Proofs.Closure.Tenancy
import LanguageClient.Proofs.Completion.BracketExpression
import LanguageClient.Proofs.Completion.Ranking
import LanguageClient.Proofs.Completion.Token
import LanguageClient.Proofs.Conduct.Apart
import LanguageClient.Proofs.Conduct.Course
import LanguageClient.Proofs.Conduct.Deed
import LanguageClient.Proofs.Conduct.Editor
import LanguageClient.Proofs.Conduct.Endings
import LanguageClient.Proofs.Conduct.Events
import LanguageClient.Proofs.Conduct.Leave
import LanguageClient.Proofs.Conduct.Session
import LanguageClient.Proofs.Conduct.Synchronizer
import LanguageClient.Proofs.Conduct.Turns
import LanguageClient.Proofs.Conduct.Undisturbed
import LanguageClient.Proofs.Conduct.Workspace
import LanguageClient.Proofs.Document.Diagnostics
import LanguageClient.Proofs.Document.LineIndex
import LanguageClient.Proofs.Document.Positions
import LanguageClient.Proofs.Document.Printing
import LanguageClient.Proofs.Editor.Answers
import LanguageClient.Proofs.Editor.CompletionRange
import LanguageClient.Proofs.Editor.CompletionTurns
import LanguageClient.Proofs.Editor.Degrading
import LanguageClient.Proofs.Editor.Discretion
import LanguageClient.Proofs.Editor.Events
import LanguageClient.Proofs.Editor.Exchange
import LanguageClient.Proofs.Editor.Flushes
import LanguageClient.Proofs.Editor.Frames
import LanguageClient.Proofs.Editor.LateQueries
import LanguageClient.Proofs.Editor.Order
import LanguageClient.Proofs.Editor.Passage
import LanguageClient.Proofs.Editor.Positions
import LanguageClient.Proofs.Editor.Publications
import LanguageClient.Proofs.Editor.Queries
import LanguageClient.Proofs.Editor.QueryTurns
import LanguageClient.Proofs.Editor.Quiet
import LanguageClient.Proofs.Editor.Sends
import LanguageClient.Proofs.Editor.Starting
import LanguageClient.Proofs.Editor.Steps
import LanguageClient.Proofs.Editor.Tasks
import LanguageClient.Proofs.Editor.Turns
import LanguageClient.Proofs.Editor.Waits
import LanguageClient.Proofs.Editor.World
import LanguageClient.Proofs.Handshake.Creation
import LanguageClient.Proofs.Handshake.Start
import LanguageClient.Proofs.Handshake.Steps
import LanguageClient.Proofs.Handshake.Turns
import LanguageClient.Proofs.Handshake.World
import LanguageClient.Proofs.History
import LanguageClient.Proofs.Inquiry.Answers
import LanguageClient.Proofs.Inquiry.Inertness
import LanguageClient.Proofs.Inquiry.Runs
import LanguageClient.Proofs.Inquiry.Steps
import LanguageClient.Proofs.Inquiry.Turns
import LanguageClient.Proofs.Inquiry.World
import LanguageClient.Proofs.Isolation.Alike
import LanguageClient.Proofs.Isolation.Calls
import LanguageClient.Proofs.Isolation.Ending
import LanguageClient.Proofs.Isolation.Hidden
import LanguageClient.Proofs.Isolation.Pairing
import LanguageClient.Proofs.Isolation.Runs
import LanguageClient.Proofs.Isolation.Seclusion
import LanguageClient.Proofs.Isolation.Shows
import LanguageClient.Proofs.Isolation.Silence
import LanguageClient.Proofs.Isolation.Turns
import LanguageClient.Proofs.Loop.Advance
import LanguageClient.Proofs.Loop.Avoid
import LanguageClient.Proofs.Loop.Collecting
import LanguageClient.Proofs.Loop.Orderly
import LanguageClient.Proofs.Loop.Passage
import LanguageClient.Proofs.Loop.Punctual
import LanguageClient.Proofs.Loop.Queue
import LanguageClient.Proofs.Loop.Stands
import LanguageClient.Proofs.Loop.Steady
import LanguageClient.Proofs.Loop.TaskTurn
import LanguageClient.Proofs.Loop.Timers
import LanguageClient.Proofs.Loop.Wakeful
import LanguageClient.Proofs.Options
import LanguageClient.Proofs.Protocol.NotebookFilter
import LanguageClient.Proofs.Retry.Aside
import LanguageClient.Proofs.Retry.Bypass
import LanguageClient.Proofs.Retry.Opening
import LanguageClient.Proofs.Retry.Runs
import LanguageClient.Proofs.Retry.Turns
import LanguageClient.Proofs.Retry.Unopened
import LanguageClient.Proofs.Sending
import LanguageClient.Proofs.Session.Calls
import LanguageClient.Proofs.Session.Correlation
import LanguageClient.Proofs.Session.Course
import LanguageClient.Proofs.Session.Deadlines
import LanguageClient.Proofs.Session.Pending
import LanguageClient.Proofs.Session.Registration
import LanguageClient.Proofs.Session.Responses
import LanguageClient.Proofs.Session.Resumption
import LanguageClient.Proofs.Session.Steps
import LanguageClient.Proofs.Session.Table
import LanguageClient.Proofs.Session.TableChanges
import LanguageClient.Proofs.Session.TableSteps
import LanguageClient.Proofs.Session.Traffic
import LanguageClient.Proofs.Session.Turns
import LanguageClient.Proofs.Session.World
import LanguageClient.Proofs.StableOrder
import LanguageClient.Proofs.Synchronizer.BurstTurns
import LanguageClient.Proofs.Synchronizer.Bursts
import LanguageClient.Proofs.Synchronizer.CalmTurns
import LanguageClient.Proofs.Synchronizer.Closing
import LanguageClient.Proofs.Synchronizer.Coalescing
import LanguageClient.Proofs.Synchronizer.Consistency
import LanguageClient.Proofs.Synchronizer.Coverage
import LanguageClient.Proofs.Synchronizer.Events
import LanguageClient.Proofs.Synchronizer.Flushing
import LanguageClient.Proofs.Synchronizer.Handover
import LanguageClient.Proofs.Synchronizer.Lock
import LanguageClient.Proofs.Synchronizer.Runs
import LanguageClient.Proofs.Synchronizer.Sends
import LanguageClient.Proofs.Synchronizer.Steps
import LanguageClient.Proofs.Synchronizer.Stranding
import LanguageClient.Proofs.Synchronizer.Tasks
import LanguageClient.Proofs.Synchronizer.Timers
import LanguageClient.Proofs.Synchronizer.Turns
import LanguageClient.Proofs.Synchronizer.World
import LanguageClient.Proofs.Tenure.Attachments
import LanguageClient.Proofs.Tenure.Closing
import LanguageClient.Proofs.Tenure.Redundancy
import LanguageClient.Proofs.Text.Lowercase
import LanguageClient.Proofs.WebSocket.Reading
import LanguageClient.Proofs.Workspace.Dialogue
import LanguageClient.Proofs.Workspace.Discipline
import LanguageClient.Proofs.Workspace.Register
import LanguageClient.Proofs.Workspace.Rollback
import LanguageClient.Proofs.Workspace.Turns
import LanguageClient.Proofs.Workspace.World
import LanguageClient.Protocol.Result
import LanguageClient.Simulation.CommandRun
import LanguageClient.Simulation.SocketStage
