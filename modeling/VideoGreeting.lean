import VideoGreeting.Assets
import VideoGreeting.CaptionOverlay
import VideoGreeting.Catalog
import VideoGreeting.Composition
import VideoGreeting.Disk
import VideoGreeting.Disk.Folder
import VideoGreeting.Disk.Guard
import VideoGreeting.Encoding
import VideoGreeting.Engine.Command
import VideoGreeting.Engine.Log
import VideoGreeting.Engine.Program
import VideoGreeting.Engine.Progress
import VideoGreeting.Environment
import VideoGreeting.Failure
import VideoGreeting.FilterGraph.Assembly
import VideoGreeting.FilterGraph.Escape
import VideoGreeting.FilterGraph.Fragment
import VideoGreeting.FilterGraph.Label
import VideoGreeting.Http.Accepted
import VideoGreeting.Http.Date
import VideoGreeting.Http.FileType
import VideoGreeting.Http.MediaType
import VideoGreeting.Http.Message
import VideoGreeting.Http.Mount
import VideoGreeting.Http.Multipart
import VideoGreeting.Http.Percent
import VideoGreeting.Http.StaticFiles
import VideoGreeting.Http.Stretch
import VideoGreeting.Http.Target
import VideoGreeting.Job
import VideoGreeting.Json
import VideoGreeting.Motion
import VideoGreeting.Number.Decimal
import VideoGreeting.Number.Numeral
import VideoGreeting.Number.Range
import VideoGreeting.Number.Value
import VideoGreeting.Path
import VideoGreeting.Production
import VideoGreeting.Resolution
import VideoGreeting.Selection
import VideoGreeting.Service.Form
import VideoGreeting.Service.Identifier
import VideoGreeting.Service.Layers
import VideoGreeting.Service.Metrics
import VideoGreeting.Service.Problem
import VideoGreeting.Service.Readiness
import VideoGreeting.Service.Router
import VideoGreeting.Service.Settings
import VideoGreeting.Service.World
import VideoGreeting.Settings
import VideoGreeting.Style
import VideoGreeting.Text.Blank
import VideoGreeting.Text.Bytes
import VideoGreeting.Text.Caseless
import VideoGreeting.Text.CharTable
import VideoGreeting.Text.CharTable.Japanese
import VideoGreeting.Text.CharTable.Korean
import VideoGreeting.Text.CharTable.SimplifiedChinese
import VideoGreeting.Text.CharTable.TraditionalChinese
import VideoGreeting.Text.Charset
import VideoGreeting.Text.CodePage
import VideoGreeting.Text.Lines
import VideoGreeting.Text.Multibyte
import VideoGreeting.Text.Quoted
import VideoGreeting.Text.Unprinted
import VideoGreeting.Timeline
import VideoGreeting.Timestamp
import VideoGreeting.Proofs.FilterGraph.Labels
import VideoGreeting.Proofs.FilterGraph.Linearity
import VideoGreeting.Proofs.Composition.Assembled
import VideoGreeting.Proofs.Composition.Layers
import VideoGreeting.Proofs.FilterGraph.Reader
import VideoGreeting.Proofs.Number.Numerals
import VideoGreeting.Proofs.Composition.Script
import VideoGreeting.Proofs.Disk.Place
import VideoGreeting.Proofs.Keys
import VideoGreeting.Proofs.Disk.Files
import VideoGreeting.Proofs.Disk.Finding
import VideoGreeting.Proofs.Production.Lifecycle
import VideoGreeting.Proofs.Composition.Pads
import VideoGreeting.Proofs.Engine.Reading
import VideoGreeting.Proofs.Production.Inputs
import VideoGreeting.Proofs.Production.Arguments
import VideoGreeting.Proofs.Production.Together
import VideoGreeting.Proofs.Production.Outcome
import VideoGreeting.Proofs.Service.Names
import VideoGreeting.Proofs.Service.Uploads
import VideoGreeting.Proofs.Service.Forms
import VideoGreeting.Proofs.Service.Storing
import VideoGreeting.Proofs.Service.Orders
import VideoGreeting.Proofs.Composition.Accepted
import VideoGreeting.Proofs.FilterGraph.Refusals
import VideoGreeting.Proofs.FilterGraph.Interface
import VideoGreeting.Proofs.FilterGraph.Levels
import VideoGreeting.Proofs.Composition.Caption
import VideoGreeting.Proofs.Http.Headers
import VideoGreeting.Proofs.Service.Headers
import VideoGreeting.Proofs.Service.Substance
import VideoGreeting.Proofs.Service.InFlight
import VideoGreeting.Proofs.Http.Serving
import VideoGreeting.Proofs.Production.Abandoned
import VideoGreeting.Proofs.Service.Addresses
import VideoGreeting.Proofs.Service.Details
import VideoGreeting.Proofs.FilterGraph.Values
import VideoGreeting.Proofs.Timeline.Partition
import VideoGreeting.Proofs.Disk.Growth
import VideoGreeting.Proofs.Disk.Reserving
import VideoGreeting.Proofs.Selection.Resolved
import VideoGreeting.Proofs.Service.Readiness
import VideoGreeting.Proofs.Service.Labels
import VideoGreeting.Proofs.Engine.Reports
import VideoGreeting.Proofs.Engine.Unreadable
import VideoGreeting.Proofs.Text.Lines
import VideoGreeting.Proofs.Engine.Result
import VideoGreeting.Proofs.Number.Rounding
import VideoGreeting.Proofs.Number.Decimals
import VideoGreeting.Proofs.Number.Doubles
import VideoGreeting.Proofs.Number.FloatRounding
import VideoGreeting.Proofs.Number.FloatArithmetic
import VideoGreeting.Proofs.Timeline.Seconds
import VideoGreeting.Proofs.Timeline.Gates
import VideoGreeting.Proofs.Timeline.Rounded
import VideoGreeting.Proofs.Composition.Gates
import VideoGreeting.Proofs.Selection.Conditions
import VideoGreeting.Proofs.Number.FloatOrder
import VideoGreeting.Proofs.Timeline.Printed
import VideoGreeting.Proofs.Timeline.Vanishing
import VideoGreeting.Proofs.Composition.Divisors
import VideoGreeting.Proofs.Production.Times
import VideoGreeting.Proofs.Disk.Folders
import VideoGreeting.Proofs.Service.Probe
import VideoGreeting.Proofs.Disk.Ensured
import VideoGreeting.Proofs.Encoding.Fields
import VideoGreeting.Proofs.Production.Choices
import VideoGreeting.Proofs.Service.Desk
import VideoGreeting.Proofs.Service.Balance
import VideoGreeting.Proofs.FilterGraph.Naming
import VideoGreeting.Proofs.FilterGraph.LivePads
import VideoGreeting.Proofs.Disk.Ownership
import VideoGreeting.Proofs.Number.FloatSign
import VideoGreeting.Proofs.Engine.TimeLeft
