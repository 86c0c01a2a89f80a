import ConversionDesk.Screen.Desk
import ConversionDesk.Proofs.Column.NewestRequest
import ConversionDesk.Proofs.Column.Toggling
import ConversionDesk.Proofs.Column.Switchboard
import ConversionDesk.Proofs.Column.DiscoveredColumns
import ConversionDesk.Proofs.Json.Spelling
import ConversionDesk.Proofs.Json.RoundTrip
import ConversionDesk.Proofs.Json.RecordForms
import ConversionDesk.Proofs.Json.MemberOrder
import ConversionDesk.Proofs.Json.Indentation
import ConversionDesk.Proofs.Conversion.BodyRoundTrip
import ConversionDesk.Proofs.Conversion.ObjectReplies
import ConversionDesk.Proofs.Conversion.ShownData
import ConversionDesk.Proofs.ReplyForms
import ConversionDesk.Proofs.ReplyMembers
import ConversionDesk.Proofs.ReplyErrors
import ConversionDesk.Proofs.NothingBlank
import ConversionDesk.Proofs.Screen.ShownResult
import ConversionDesk.Proofs.Screen.CopyLabel
import ConversionDesk.Proofs.Screen.NewestFile
import ConversionDesk.Proofs.Screen.CopyButton
import ConversionDesk.Proofs.Screen.NeverStale
import ConversionDesk.Proofs.Column.ControlIds
import ConversionDesk.Proofs.Column.RadioGroup
import ConversionDesk.Proofs.Column.ReadyPanels
import ConversionDesk.Proofs.Screen.ShownControls
import ConversionDesk.Proofs.Screen.ToggleButton
import ConversionDesk.Proofs.Screen.ShownChoices
import ConversionDesk.Proofs.Column.BlankRuns
import ConversionDesk.Proofs.TicketHistories
import ConversionDesk.Proofs.Conversion.FileNames
