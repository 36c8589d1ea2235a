import LogLine.Logger
import LogLine.Render.Session
import LogLine.Proofs.Markup.Glyphs
import LogLine.Proofs.Markup.Reading
import LogLine.Proofs.Markup.Evaluation
import LogLine.Proofs.Markup.Building
import LogLine.Proofs.Markup.Forest
import LogLine.Proofs.Markup.RoundTrip
import LogLine.Proofs.Layout.Widths
import LogLine.Proofs.Layout.Shrinking
import LogLine.Proofs.Layout.Sharing
import LogLine.Proofs.Text.Parts
import LogLine.Proofs.Text.Replace
import LogLine.Proofs.Width.Cells
import LogLine.Proofs.Style.Screen
import LogLine.Proofs.Style.Cascade
import LogLine.Proofs.Style.Inlining
import LogLine.Proofs.Config.Building
import LogLine.Proofs.Layout.Column
import LogLine.Proofs.Render.History
import LogLine.Proofs.Render.Fill
import LogLine.Proofs.Render.Reuse
import LogLine.Proofs.Render.Guards
import LogLine.Proofs.Render.Modes
import LogLine.Proofs.Markup.Template
import LogLine.Proofs.Event.Message
import LogLine.Proofs.Layout.Fitted
import LogLine.Proofs.Render.Showing
import LogLine.Proofs.Logger.Delivery
import LogLine.Proofs.Event.Interpolation
import LogLine.Proofs.Logger.Records
import LogLine.Proofs.Layout.Composed
import LogLine.Proofs.Event.Split
import LogLine.Proofs.Markup.Appending
import LogLine.Proofs.Markup.Joining
import LogLine.Proofs.Layout.Caching
import LogLine.Proofs.Sink.Filling
import LogLine.Proofs.Json.Reading
import LogLine.Proofs.Render.Decoding
import LogLine.Proofs.Style.Spelling
import LogLine.Proofs.Render.Keys
import LogLine.Proofs.Config.Validation
import LogLine.Proofs.Markup.Characters
import LogLine.Proofs.Render.Characters
import LogLine.Proofs.Width.Search
import LogLine.Proofs.Width.Classes
import LogLine.Proofs.Calendar.Fallback
import LogLine.Proofs.Style.Nearest
import LogLine.Proofs.Yaml.Entries
import LogLine.Proofs.Config.Overrides
