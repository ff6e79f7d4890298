import Pasteboard.Text.CodePage
import Pasteboard.Desktop.Run
import Pasteboard.Proofs.Board.Entries
import Pasteboard.Proofs.Board.Plans
import Pasteboard.Proofs.Board.Presence
import Pasteboard.Proofs.Board.Requests
import Pasteboard.Proofs.Call.Courses
import Pasteboard.Proofs.Call.Ends
import Pasteboard.Proofs.Call.Ensures
import Pasteboard.Proofs.Call.Keeps
import Pasteboard.Proofs.Call.Operations
import Pasteboard.Proofs.Call.Proper
import Pasteboard.Proofs.Client.Closing
import Pasteboard.Proofs.Client.Idle
import Pasteboard.Proofs.Client.Proper
import Pasteboard.Proofs.Client.Reading
import Pasteboard.Proofs.Client.Rendering
import Pasteboard.Proofs.Client.Requesting
import Pasteboard.Proofs.Client.Tasks
import Pasteboard.Proofs.Client.Writing
import Pasteboard.Proofs.Closing.Completion
import Pasteboard.Proofs.Closing.Notification
import Pasteboard.Proofs.Deriving.LoneClient
import Pasteboard.Proofs.Deriving.Placeholders
import Pasteboard.Proofs.Deriving.Text
import Pasteboard.Proofs.Deriving.TextOffers
import Pasteboard.Proofs.Exchange.Bodies
import Pasteboard.Proofs.Exchange.Dialogue
import Pasteboard.Proofs.Exchange.Fields
import Pasteboard.Proofs.Exchange.Frames
import Pasteboard.Proofs.Exchange.Remote
import Pasteboard.Proofs.Names.Registration
import Pasteboard.Proofs.Names.Registry
import Pasteboard.Proofs.Opening.OneSession
import Pasteboard.Proofs.Ownership.RefusedClaim
import Pasteboard.Proofs.Payload.Buffers
import Pasteboard.Proofs.Payload.Conversions
import Pasteboard.Proofs.Payload.Copies
import Pasteboard.Proofs.Payload.Drawings
import Pasteboard.Proofs.Payload.Encoding
import Pasteboard.Proofs.Payload.InPlace
import Pasteboard.Proofs.Payload.Intact
import Pasteboard.Proofs.Payload.Rasters
import Pasteboard.Proofs.Payload.Results
import Pasteboard.Proofs.Payload.Sights
import Pasteboard.Proofs.Payload.Tables
import Pasteboard.Proofs.Picture.Detours
import Pasteboard.Proofs.Picture.Headers
import Pasteboard.Proofs.Picture.Layouts
import Pasteboard.Proofs.Picture.RowSizes
import Pasteboard.Proofs.Picture.Truncation
import Pasteboard.Proofs.Reading.AllOrNothing
import Pasteboard.Proofs.Reading.Answers
import Pasteboard.Proofs.Reading.Attempts
import Pasteboard.Proofs.Reading.Excuses
import Pasteboard.Proofs.Reading.Getting
import Pasteboard.Proofs.Reading.LastPut
import Pasteboard.Proofs.Reading.OnRequest
import Pasteboard.Proofs.Reading.Repetition
import Pasteboard.Proofs.Reading.Retained
import Pasteboard.Proofs.Reading.StoredPayload
import Pasteboard.Proofs.Text.Broken
import Pasteboard.Proofs.Text.Conversion
import Pasteboard.Proofs.Text.Lengths
import Pasteboard.Proofs.Text.Nulls
import Pasteboard.Proofs.Text.RoundTrip
import Pasteboard.Proofs.Text.SingleByte
import Pasteboard.Proofs.Text.Utf16
import Pasteboard.Proofs.Text.Utf8
import Pasteboard.Proofs.World.Coherence
import Pasteboard.Proofs.World.Coupling
import Pasteboard.Proofs.World.Engaged
import Pasteboard.Proofs.World.Evolution
import Pasteboard.Proofs.World.Inert
import Pasteboard.Proofs.World.Interleaving
import Pasteboard.Proofs.World.Mirroring
import Pasteboard.Proofs.World.Steps
import Pasteboard.Proofs.World.Tasks
import Pasteboard.Proofs.World.Weighing
import Pasteboard.Proofs.World.Windows
import Pasteboard.Proofs.Exchange.Spelling
import Pasteboard.Proofs.Exchange.Streams
import Pasteboard.Proofs.Viewers.Chain
import Pasteboard.Proofs.Viewers.Passing
import Pasteboard.Proofs.Viewers.Tasks
import Pasteboard.Proofs.Viewers.Enrolment
import Pasteboard.Proofs.Viewers.Links
