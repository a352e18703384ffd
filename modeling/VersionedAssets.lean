import VersionedAssets.AccessLog
import VersionedAssets.Application
import VersionedAssets.Archive
import VersionedAssets.Bundle
import VersionedAssets.CachePolicy
import VersionedAssets.Calendar
import VersionedAssets.CommandLine
import VersionedAssets.CommandLine.Grammar
import VersionedAssets.CommandLine.Help
import VersionedAssets.CommandLine.Options
import VersionedAssets.Config
import VersionedAssets.Fault
import VersionedAssets.Fields
import VersionedAssets.FileTree
import VersionedAssets.FileTree.Listing
import VersionedAssets.FileTree.Writing
import VersionedAssets.Handler
import VersionedAssets.Host
import VersionedAssets.Host.Install
import VersionedAssets.HttpDate
import VersionedAssets.HttpDate.Reader
import VersionedAssets.Journal
import VersionedAssets.Json
import VersionedAssets.Json.Reader
import VersionedAssets.Json.View
import VersionedAssets.Location
import VersionedAssets.Main
import VersionedAssets.MediaType
import VersionedAssets.Middleware
import VersionedAssets.Moment
import VersionedAssets.Number.Binary64
import VersionedAssets.Number.FloatText
import VersionedAssets.Number.Rounding
import VersionedAssets.Number.Shortest
import VersionedAssets.Proofs.AccessLog
import VersionedAssets.Proofs.Actions
import VersionedAssets.Proofs.Application.AccessRecords
import VersionedAssets.Proofs.Application.Alike
import VersionedAssets.Proofs.Application.Chain
import VersionedAssets.Proofs.Application.Creation
import VersionedAssets.Proofs.Application.Dispatch
import VersionedAssets.Proofs.Application.Framing
import VersionedAssets.Proofs.Application.HeaderText
import VersionedAssets.Proofs.Application.Heads
import VersionedAssets.Proofs.Application.Health
import VersionedAssets.Proofs.Application.Mounts
import VersionedAssets.Proofs.Application.Replies
import VersionedAssets.Proofs.Application.Routing
import VersionedAssets.Proofs.Application.Streams
import VersionedAssets.Proofs.Application.Urls
import VersionedAssets.Proofs.Attempt
import VersionedAssets.Proofs.CachePolicy
import VersionedAssets.Proofs.CachePolicy.Revalidation
import VersionedAssets.Proofs.Calendar
import VersionedAssets.Proofs.CommandLine.Options
import VersionedAssets.Proofs.CommandLine.Overruling
import VersionedAssets.Proofs.Fields
import VersionedAssets.Proofs.FileTree.Links
import VersionedAssets.Proofs.FileTree.Opening
import VersionedAssets.Proofs.FileTree.Reaching
import VersionedAssets.Proofs.FileTree.Settling
import VersionedAssets.Proofs.Handler.Answers
import VersionedAssets.Proofs.Handler.Endings
import VersionedAssets.Proofs.Handler.Lookups
import VersionedAssets.Proofs.Handler.Urls
import VersionedAssets.Proofs.HttpDate
import VersionedAssets.Proofs.HttpDate.Layouts
import VersionedAssets.Proofs.HttpDate.RoundTrip
import VersionedAssets.Proofs.Json
import VersionedAssets.Proofs.MediaType
import VersionedAssets.Proofs.Moment
import VersionedAssets.Proofs.Moment.Parts
import VersionedAssets.Proofs.Number.FloatText
import VersionedAssets.Proofs.Number.Quotient
import VersionedAssets.Proofs.Number.Shortest
import VersionedAssets.Proofs.Request
import VersionedAssets.Proofs.ResourcePath
import VersionedAssets.Proofs.Response.Commitment
import VersionedAssets.Proofs.Response.Delivery
import VersionedAssets.Proofs.Response.Draining
import VersionedAssets.Proofs.Response.Iteration
import VersionedAssets.Proofs.Response.Keeping
import VersionedAssets.Proofs.Response.LastBody
import VersionedAssets.Proofs.Response.Operations
import VersionedAssets.Proofs.Response.Ownership
import VersionedAssets.Proofs.Response.Sink
import VersionedAssets.Proofs.Store.Directory
import VersionedAssets.Proofs.Text.Numerals
import VersionedAssets.Proofs.Text.Pieces
import VersionedAssets.Proofs.Text.Words
import VersionedAssets.Proofs.VersionToken
import VersionedAssets.Proofs.VersionToken.RoundTrip
import VersionedAssets.Proofs.World
import VersionedAssets.Query
import VersionedAssets.Request
import VersionedAssets.ResourcePath
import VersionedAssets.Response
import VersionedAssets.Response.Delivery
import VersionedAssets.Response.Reader
import VersionedAssets.Response.Sink
import VersionedAssets.Status
import VersionedAssets.Store
import VersionedAssets.Store.Directory
import VersionedAssets.Store.Package
import VersionedAssets.Store.Webjar
import VersionedAssets.Stream
import VersionedAssets.Text.Blank
import VersionedAssets.Text.CaseTable
import VersionedAssets.Text.Digit
import VersionedAssets.Text.DigitTable
import VersionedAssets.Text.Letter
import VersionedAssets.Text.Numeral
import VersionedAssets.Text.Percent
import VersionedAssets.Text.Pieces
import VersionedAssets.Text.PrintTable
import VersionedAssets.Text.Quoted
import VersionedAssets.Text.Utf8
import VersionedAssets.VersionToken
import VersionedAssets.World
import VersionedAssets.Proofs.ResourcePath.Segments
import VersionedAssets.Proofs.Store.VersionKey
import VersionedAssets.Proofs.Bundle
import VersionedAssets.Proofs.Store.Package
import VersionedAssets.Proofs.Store.Webjar
import VersionedAssets.Proofs.Store.Probing
import VersionedAssets.Proofs.Text.Case
import VersionedAssets.Proofs.Text.Cutting
import VersionedAssets.Proofs.Response.Disposition
import VersionedAssets.Proofs.CachePolicy.TagLists
import VersionedAssets.Proofs.MediaType.Registration
import VersionedAssets.Proofs.FileTree.PathText
import VersionedAssets.Proofs.Store.Agreement
import VersionedAssets.Proofs.ResourcePath.NormalForm
import VersionedAssets.Proofs.VersionToken.Spans
import VersionedAssets.Proofs.Request.Path
