import Syllabus.Binary64
import Syllabus.Block.Basic
import Syllabus.Block.Building
import Syllabus.Building
import Syllabus.Color
import Syllabus.Conversion
import Syllabus.Course.Basic
import Syllabus.Course.Page
import Syllabus.Course.Rehearsal
import Syllabus.Course.Review
import Syllabus.Course.Statistics
import Syllabus.Decimal.Digits
import Syllabus.Decimal.Shortest
import Syllabus.Diagnostics
import Syllabus.Environment.Basic
import Syllabus.Environment.Contract
import Syllabus.Environment.File
import Syllabus.Environment.Settings
import Syllabus.Item.Basic
import Syllabus.Item.Blocks
import Syllabus.Item.Reading
import Syllabus.Item.Tag
import Syllabus.Journal
import Syllabus.Json.Basic
import Syllabus.Json.Printer
import Syllabus.Json.Reader
import Syllabus.Json.Shown
import Syllabus.Language
import Syllabus.Log
import Syllabus.Main
import Syllabus.Notion.Batch
import Syllabus.Notion.Call
import Syllabus.Notion.Client
import Syllabus.Notion.Delivery
import Syllabus.Notion.Exchange
import Syllabus.Notion.Summary
import Syllabus.Notion.Token
import Syllabus.Path
import Syllabus.Proofs.Block.Builders
import Syllabus.Proofs.Block.Form
import Syllabus.Proofs.Block.Pieces
import Syllabus.Proofs.Block.Reporting
import Syllabus.Proofs.Block.Tables
import Syllabus.Proofs.Block.Verbatim
import Syllabus.Proofs.Conversion.Digits
import Syllabus.Proofs.Conversion.Integers
import Syllabus.Proofs.Conversion.Members
import Syllabus.Proofs.Conversion.Nulls
import Syllabus.Proofs.Conversion.Reals
import Syllabus.Proofs.Course.Assembly
import Syllabus.Proofs.Course.BareText
import Syllabus.Proofs.Course.Frame
import Syllabus.Proofs.Course.Hints
import Syllabus.Proofs.Course.Overlooking
import Syllabus.Proofs.Course.ParagraphRuns
import Syllabus.Proofs.Course.Places
import Syllabus.Proofs.Course.Reading
import Syllabus.Proofs.Course.Rehearsal
import Syllabus.Proofs.Course.Review
import Syllabus.Proofs.Course.Shape
import Syllabus.Proofs.Course.Soundness
import Syllabus.Proofs.Course.Spelling
import Syllabus.Proofs.Course.Statistics
import Syllabus.Proofs.Course.Surroundings
import Syllabus.Proofs.Environment.Agreement
import Syllabus.Proofs.Environment.Assignments
import Syllabus.Proofs.Environment.Enforcement
import Syllabus.Proofs.Environment.Precedence
import Syllabus.Proofs.Environment.Quotation
import Syllabus.Proofs.Environment.Secrecy
import Syllabus.Proofs.Environment.Settings
import Syllabus.Proofs.Item.Addresses
import Syllabus.Proofs.Item.Contents
import Syllabus.Proofs.Item.Counting
import Syllabus.Proofs.Item.Isolation
import Syllabus.Proofs.Item.Losses
import Syllabus.Proofs.Item.Nesting
import Syllabus.Proofs.Item.Nulls
import Syllabus.Proofs.Item.Overlooking
import Syllabus.Proofs.Item.Replacing
import Syllabus.Proofs.Item.Shape
import Syllabus.Proofs.Item.Surroundings
import Syllabus.Proofs.Item.Tables
import Syllabus.Proofs.Journal.Notes
import Syllabus.Proofs.Journal.Overlooking
import Syllabus.Proofs.Journal.Promise
import Syllabus.Proofs.Json.Names
import Syllabus.Proofs.Json.Outline
import Syllabus.Proofs.Json.Putting
import Syllabus.Proofs.Notion.Batching
import Syllabus.Proofs.Notion.Delivery
import Syllabus.Proofs.Notion.Listing
import Syllabus.Proofs.Notion.Partition
import Syllabus.Proofs.Notion.Surfacing
import Syllabus.Proofs.RichText.Dropping
import Syllabus.Proofs.RichText.Finding
import Syllabus.Proofs.RichText.Occurring
import Syllabus.Proofs.RichText.Prefixing
import Syllabus.Proofs.RichText.Rebuilding
import Syllabus.Proofs.RichText.RoundTrip
import Syllabus.Proofs.RichText.Runs
import Syllabus.Proofs.RichText.Splitting
import Syllabus.Proofs.Service.Answering
import Syllabus.Proofs.Service.CourseCreation
import Syllabus.Proofs.Service.Detail
import Syllabus.Proofs.Service.Redaction
import Syllabus.Proofs.Service.Reports
import Syllabus.Proofs.Template.Builders
import Syllabus.Proofs.Template.Icons
import Syllabus.Proofs.Template.Labels
import Syllabus.Proofs.Template.Notes
import Syllabus.Proofs.Template.Overlooking
import Syllabus.Proofs.Template.Quiz
import Syllabus.Proofs.Text.Lines
import Syllabus.Proofs.Text.Trimming
import Syllabus.Proofs.Text.Utf8
import Syllabus.Proofs.Url.Opening
import Syllabus.Proofs.Url.Slashes
import Syllabus.RichText.Input
import Syllabus.RichText.Markup
import Syllabus.RichText.Run
import Syllabus.Service.Catalogue
import Syllabus.Service.CrossOrigin
import Syllabus.Service.Detail
import Syllabus.Service.Exchange
import Syllabus.Service.Handling
import Syllabus.Service.Header
import Syllabus.Service.Interruption
import Syllabus.Service.Logging
import Syllabus.Service.Payload
import Syllabus.Service.Redaction
import Syllabus.Service.Response
import Syllabus.Service.Server
import Syllabus.Service.Startup
import Syllabus.Service.Task
import Syllabus.Template.Basic
import Syllabus.Template.Label
import Syllabus.Text.Blank
import Syllabus.Text.Case
import Syllabus.Text.CodeRange
import Syllabus.Text.Digit
import Syllabus.Text.Line
import Syllabus.Text.Numeral
import Syllabus.Text.Printable
import Syllabus.Text.Quoted
import Syllabus.Text.Split
import Syllabus.Text.Utf8
import Syllabus.Url.Base
import Syllabus.Url.Basic
import Syllabus.Url.Host
import Syllabus.Url.Percent
