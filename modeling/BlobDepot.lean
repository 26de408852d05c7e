import BlobDepot.Store.Directory
import BlobDepot.Store.Memory
import BlobDepot.Store.Scripted
import BlobDepot.Transfer.Presigned
import BlobDepot.Transfer.Script
import BlobDepot.Transfer.Sink
import BlobDepot.Tree.Session
import BlobDepot.Proofs.Transfer.Response
import BlobDepot.Proofs.Transfer.Attempts
import BlobDepot.Proofs.Transfer.RunLaw
import BlobDepot.Proofs.Transfer.Timeline
import BlobDepot.Proofs.Transfer.Interruption
import BlobDepot.Proofs.Transfer.Shown
import BlobDepot.Proofs.Transfer.Secrecy
import BlobDepot.Proofs.Transfer.Course
import BlobDepot.Proofs.Transfer.Exchanges
import BlobDepot.Proofs.Transfer.Download
import BlobDepot.Proofs.Transfer.Upload
import BlobDepot.Proofs.Path
import BlobDepot.Proofs.Key
import BlobDepot.Proofs.Text
import BlobDepot.Proofs.Catalog
import BlobDepot.Proofs.Listing
import BlobDepot.Proofs.Tree.Children
import BlobDepot.Proofs.Tree.Scan
import BlobDepot.Proofs.Tree.Contents
import BlobDepot.Proofs.Tree.Snapshot
import BlobDepot.Proofs.Tree.Level
import BlobDepot.Proofs.Tree.Scopes
import BlobDepot.Proofs.Tree.Listings
import BlobDepot.Proofs.Tree.Walk
import BlobDepot.Proofs.Tree.OwnScope
import BlobDepot.Proofs.Tree.Names
import BlobDepot.Proofs.Tree.Discipline
import BlobDepot.Proofs.Tree.Sharing
import BlobDepot.Proofs.Tree.ScopedRuns
import BlobDepot.Proofs.Tree.Calls
import BlobDepot.Proofs.Tree.Knowledge
import BlobDepot.Proofs.Tree.FoundAgain
import BlobDepot.Proofs.Folder.Paths
import BlobDepot.Proofs.Store.Layout
import BlobDepot.Proofs.Store.Listings
import BlobDepot.Proofs.Folder.Changes
import BlobDepot.Proofs.Store.Puts
import BlobDepot.Proofs.Store.Objects
import BlobDepot.Proofs.Store.Containers
import BlobDepot.Proofs.LineFeed
import BlobDepot.Proofs.Transfer.Lines
import BlobDepot.Proofs.Transfer.Backoff
import BlobDepot.Proofs.Decoding
import BlobDepot.Proofs.Transfer.Excerpts
import BlobDepot.Proofs.Store.Spellings
import BlobDepot.Proofs.Url.Segments
import BlobDepot.Proofs.Store.Presigned
import BlobDepot.Proofs.Glob.Filter
import BlobDepot.Proofs.Glob.Language
import BlobDepot.Proofs.Glob.Reach
import BlobDepot.Proofs.Tree.Globs
import BlobDepot.Proofs.Json.Grammar
import BlobDepot.Proofs.Json.Reading
import BlobDepot.Proofs.Json.Writing
import BlobDepot.Proofs.Transfer.Settings
