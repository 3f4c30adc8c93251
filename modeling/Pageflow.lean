import Pageflow.Logging.Entry
import Pageflow.Logging.Setup
import Pageflow.Main
import Pageflow.Rehearsal.Scene.Console
import Pageflow.Rehearsal.Scene.Http
import Pageflow.Rehearsal.Scene.Page
import Pageflow.Rehearsal.Scene.Pause
import Pageflow.Rehearsal.Scene.Progress
import Pageflow.Rehearsal.Scene.Run
import Pageflow.Rehearsal.Scene.Service
import Pageflow.Rehearsal.Scene.Session
import Pageflow.Proofs.Activity.Run
import Pageflow.Proofs.Capture.Plan
import Pageflow.Proofs.Capture.Region
import Pageflow.Proofs.Capture.Content
import Pageflow.Proofs.Capture.Height
import Pageflow.Proofs.Capture.Start
import Pageflow.Proofs.Activity.Contract
import Pageflow.Proofs.Activity.Calm
import Pageflow.Proofs.Challenge.Inspect
import Pageflow.Proofs.Progress.Announce
import Pageflow.Proofs.Pause.Board
import Pageflow.Proofs.Pause.Calls
import Pageflow.Proofs.Pause.Agreement
import Pageflow.Proofs.Session.Lock
import Pageflow.Proofs.Session.Contexts
import Pageflow.Proofs.Activity.AtOnce
import Pageflow.Proofs.Capture.Upkeep
import Pageflow.Proofs.Progress.Watch
import Pageflow.Proofs.Session.Calm
import Pageflow.Proofs.Service.Calls
import Pageflow.Proofs.Workflow.Accounts
import Pageflow.Proofs.Blob.Containment
import Pageflow.Proofs.Session.Late
import Pageflow.Proofs.Workflow.Results
import Pageflow.Proofs.Progress.Latest
import Pageflow.Proofs.Service.Consistent
import Pageflow.Proofs.Service.Records
import Pageflow.Proofs.Service.Retention
import Pageflow.Proofs.Service.Agreement
import Pageflow.Proofs.Socket.Delivery
import Pageflow.Proofs.Progress.History
import Pageflow.Proofs.Workflow.Compilation
import Pageflow.Proofs.Network.Waiting
import Pageflow.Proofs.Workflow.Budget
import Pageflow.Proofs.Workflow.HandBack
import Pageflow.Proofs.Session.Serving
import Pageflow.Proofs.Activity.Confined
import Pageflow.Proofs.Session.Launches
import Pageflow.Proofs.Workflow.Walks
import Pageflow.Proofs.Workflow.Unchallenged
import Pageflow.Proofs.Pause.Apart
import Pageflow.Proofs.Blob.Folder
import Pageflow.Proofs.Workflow.Images
import Pageflow.Proofs.Console.Show
import Pageflow.Proofs.Progress.FanOut
import Pageflow.Proofs.Progress.Recorded
import Pageflow.Proofs.Capture.Rounding
import Pageflow.Proofs.Dom.Ancestor
import Pageflow.Proofs.Workflow.Composite
import Pageflow.Proofs.Capture.Crops
import Pageflow.Proofs.Capture.Creep
import Pageflow.Proofs.Capture.Endings
import Pageflow.Proofs.Placeholder.OnePass
import Pageflow.Proofs.Selector.Expression
import Pageflow.Proofs.Dom.Sibling
import Pageflow.Proofs.Workflow.Extracting
import Pageflow.Proofs.Settings.Precedence
import Pageflow.Proofs.Challenge.Verdict
import Pageflow.Proofs.Capture.Scrolling
import Pageflow.Proofs.Service.Batch
import Pageflow.Proofs.Number.Range
import Pageflow.Proofs.Capture.Valid
import Pageflow.Proofs.Logging.Calls
