import ProfileBrowser.Main
import ProfileBrowser.Screen.Draw
import ProfileBrowser.View.Stored
import ProfileBrowser.Files.Folder
import ProfileBrowser.View.Input
import ProfileBrowser.Flame.Svg
import ProfileBrowser.Proofs.Starvation
import ProfileBrowser.Proofs.Display
import ProfileBrowser.Proofs.Intakes
import ProfileBrowser.Proofs.SavedResponse
import ProfileBrowser.Proofs.Settled
import ProfileBrowser.Proofs.InFlight
import ProfileBrowser.Proofs.Loading
import ProfileBrowser.Proofs.Cursor
import ProfileBrowser.Proofs.Scroll
import ProfileBrowser.Proofs.Highlight
import ProfileBrowser.Proofs.Order
import ProfileBrowser.Proofs.Utf8
import ProfileBrowser.Proofs.Members
import ProfileBrowser.Proofs.Tokens
import ProfileBrowser.Proofs.ReadBack
import ProfileBrowser.Proofs.Decoding
import ProfileBrowser.Proofs.Wire
import ProfileBrowser.Proofs.ReadInOrder
import ProfileBrowser.Proofs.Received
import ProfileBrowser.Proofs.Export
import ProfileBrowser.Proofs.Frames
import ProfileBrowser.Proofs.Parameters
import ProfileBrowser.Proofs.Strokes
import ProfileBrowser.Proofs.Drawing
import ProfileBrowser.Proofs.Markup
import ProfileBrowser.Proofs.Image
import ProfileBrowser.Proofs.Debouncing
import ProfileBrowser.Proofs.Proportion
import ProfileBrowser.Proofs.Clicks
import ProfileBrowser.Proofs.Fields
import ProfileBrowser.Proofs.Tolerance
import ProfileBrowser.Proofs.WholeDocument
import ProfileBrowser.Proofs.Rows
import ProfileBrowser.Proofs.LowerCase
import ProfileBrowser.Proofs.Filtering
import ProfileBrowser.Proofs.Typing
import ProfileBrowser.Proofs.Literal
import ProfileBrowser.Proofs.TimeUnits
import ProfileBrowser.Proofs.WindowLabel
import ProfileBrowser.Proofs.Nesting
import ProfileBrowser.Proofs.Assignments
import ProfileBrowser.Proofs.Rounding
import ProfileBrowser.Proofs.ShownTime
import ProfileBrowser.Proofs.RequestWindow
import ProfileBrowser.Proofs.Labels
