import ViewInput.Binary32.Shortest
import ViewInput.SelectionHandle
import ViewInput.View.Calls
import ViewInput.Windowing
import ViewInput.Proofs.Touch.Hands
import ViewInput.Proofs.Touch.Stream
import ViewInput.Proofs.Wheel.History
import ViewInput.Proofs.Wheel.Pacing
import ViewInput.Proofs.Wheel.Blocks
import ViewInput.Proofs.Touch.Groups
import ViewInput.Proofs.Touch.Fingers
import ViewInput.Proofs.Touch.Allocation
import ViewInput.Proofs.Composition.Calls
import ViewInput.Proofs.Composition.Mirror
import ViewInput.Proofs.Composition.Reposts
import ViewInput.Proofs.Composition.Bounds
import ViewInput.Proofs.Composition.Settling
import ViewInput.Proofs.Touch.Seen
import ViewInput.Proofs.Touch.Hidden
import ViewInput.Proofs.Touch.Assignment
import ViewInput.Proofs.Touch.Closing
import ViewInput.Proofs.Touch.Agreement
import ViewInput.Proofs.Touch.Contacts
import ViewInput.Proofs.Touch.Restarts
import ViewInput.Proofs.Touch.Ghosts
import ViewInput.Proofs.Touch.Backlog
import ViewInput.Proofs.Wheel.Ids
import ViewInput.Proofs.View.Runs
import ViewInput.Proofs.View.Menu
import ViewInput.Proofs.View.Touches
import ViewInput.Proofs.View.Acknowledgements
import ViewInput.Proofs.View.Commands
import ViewInput.Proofs.Composition.Race
import ViewInput.Proofs.Wheel.Recognition
import ViewInput.Proofs.Wheel.Isolation
import ViewInput.Proofs.Touch.Identities
import ViewInput.Proofs.View.Failures
import ViewInput.Proofs.View.Adoption
import ViewInput.Proofs.TextContext.Rounds
import ViewInput.Proofs.TextContext.Orders
import ViewInput.Proofs.TextContext.Composing
import ViewInput.Proofs.Keyboard.Exchange
import ViewInput.Proofs.Touch.Protocol
import ViewInput.Proofs.Touch.Shape
import ViewInput.Proofs.Touch.Cancellation
import ViewInput.Proofs.Composition.Replacements
import ViewInput.Proofs.Composition.Attributes
import ViewInput.Proofs.Keyboard.Insertion
import ViewInput.Proofs.Keyboard.Layout
import ViewInput.Proofs.Windowing.Preedits
import ViewInput.Proofs.TextContext.Carets
import ViewInput.Proofs.Pointer.Anchor
import ViewInput.Proofs.Pointer.Streaks
import ViewInput.Proofs.SelectionHandle.Visibility
import ViewInput.Proofs.Touch.Waiting
