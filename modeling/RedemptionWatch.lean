import RedemptionWatch.Address
import RedemptionWatch.Admin.MediaType
import RedemptionWatch.Admin.Request
import RedemptionWatch.Admin.Response
import RedemptionWatch.Ankr.Page
import RedemptionWatch.Ankr.Source
import RedemptionWatch.Aptos.Block
import RedemptionWatch.Aptos.Source
import RedemptionWatch.ChainId
import RedemptionWatch.Cli.Invocation
import RedemptionWatch.Cli.Options
import RedemptionWatch.Cli.Outcome
import RedemptionWatch.Clock
import RedemptionWatch.Config.Entry
import RedemptionWatch.Config.Settings
import RedemptionWatch.Decimal.Shortest
import RedemptionWatch.Endpoint.Basic
import RedemptionWatch.Endpoint.Call
import RedemptionWatch.Endpoint.Refusal
import RedemptionWatch.Endpoint.StatusCode
import RedemptionWatch.Evm.Call
import RedemptionWatch.Evm.Calldata
import RedemptionWatch.Evm.Source
import RedemptionWatch.Fetch
import RedemptionWatch.Json.Basic
import RedemptionWatch.Json.Gradual
import RedemptionWatch.Json.Reader
import RedemptionWatch.Json.Record
import RedemptionWatch.Json.Selective
import RedemptionWatch.Json.Writer
import RedemptionWatch.Main
import RedemptionWatch.MessageId
import RedemptionWatch.Octets
import RedemptionWatch.Pagination
import RedemptionWatch.Plan
import RedemptionWatch.Proofs.Address
import RedemptionWatch.Proofs.Ankr.Aggregator
import RedemptionWatch.Proofs.Ankr.Coverage
import RedemptionWatch.Proofs.Ankr.Receipts
import RedemptionWatch.Proofs.Aptos.Functions
import RedemptionWatch.Proofs.BlockTime
import RedemptionWatch.Proofs.Config.Loading
import RedemptionWatch.Proofs.Config.MethodTable
import RedemptionWatch.Proofs.Double.Arithmetic
import RedemptionWatch.Proofs.Endpoint.FetchLog
import RedemptionWatch.Proofs.Endpoint.Throttling
import RedemptionWatch.Proofs.Evm.Argument
import RedemptionWatch.Proofs.Evm.Calldata
import RedemptionWatch.Proofs.Evm.Extraction
import RedemptionWatch.Proofs.Evm.Matching
import RedemptionWatch.Proofs.Octets
import RedemptionWatch.Proofs.Pagination
import RedemptionWatch.Proofs.Pagination.Cover
import RedemptionWatch.Proofs.Plan.Ends
import RedemptionWatch.Proofs.Plan.Ensemble
import RedemptionWatch.Proofs.Plan.Extension
import RedemptionWatch.Proofs.Plan.Interleaving
import RedemptionWatch.Proofs.Plan.Log
import RedemptionWatch.Proofs.Plan.Rounds
import RedemptionWatch.Proofs.Plan.Rules
import RedemptionWatch.Proofs.RateLimit.Waits
import RedemptionWatch.Proofs.RateLimit.Window
import RedemptionWatch.Proofs.Rehearsal.Closing
import RedemptionWatch.Proofs.Rehearsal.Shutdown
import RedemptionWatch.Proofs.Solana.Extraction
import RedemptionWatch.Proofs.Solana.Lookup
import RedemptionWatch.Proofs.Solana.OldestPosting
import RedemptionWatch.Proofs.Store.Candidates
import RedemptionWatch.Proofs.Store.Contention
import RedemptionWatch.Proofs.Store.Convergence
import RedemptionWatch.Proofs.Store.LastBest
import RedemptionWatch.Proofs.Store.Ranks
import RedemptionWatch.Proofs.Store.Refinement
import RedemptionWatch.Proofs.Store.Rows
import RedemptionWatch.Proofs.Table
import RedemptionWatch.Proofs.Terra.Listing
import RedemptionWatch.Proofs.Terra.Paging
import RedemptionWatch.Proofs.Terra.Redemptions
import RedemptionWatch.Proofs.Text.Base64
import RedemptionWatch.Proofs.Text.Blank
import RedemptionWatch.Proofs.Text.Numeral
import RedemptionWatch.Proofs.Trail
import RedemptionWatch.Proofs.Vaa.Body
import RedemptionWatch.Proofs.Vaa.Carriers
import RedemptionWatch.Proofs.Vaa.Identity
import RedemptionWatch.Proofs.Vaa.Posted
import RedemptionWatch.Proofs.Vaa.Signed
import RedemptionWatch.Proofs.Watch.Attempts
import RedemptionWatch.Proofs.Watch.Backfill
import RedemptionWatch.Proofs.Watch.Cancellation
import RedemptionWatch.Proofs.Watch.CursorSafety
import RedemptionWatch.Proofs.Watch.CursorWrites
import RedemptionWatch.Proofs.Watch.Failures
import RedemptionWatch.Proofs.Watch.Findings
import RedemptionWatch.Proofs.Watch.Frontier
import RedemptionWatch.Proofs.Watch.Indifference
import RedemptionWatch.Proofs.Watch.Interference
import RedemptionWatch.Proofs.Watch.Ledger
import RedemptionWatch.Proofs.Watch.Lifecycle
import RedemptionWatch.Proofs.Watch.ListedCursor
import RedemptionWatch.Proofs.Watch.ListingEnd
import RedemptionWatch.Proofs.Watch.LiveListing
import RedemptionWatch.Proofs.Watch.LiveScan
import RedemptionWatch.Proofs.Watch.Overflow
import RedemptionWatch.Proofs.Watch.PageMoves
import RedemptionWatch.Proofs.Watch.PersistedCursor
import RedemptionWatch.Proofs.Watch.Polls
import RedemptionWatch.Proofs.Watch.Readings
import RedemptionWatch.Proofs.Watch.Restart
import RedemptionWatch.Proofs.Watch.ScanLogs
import RedemptionWatch.Proofs.Watch.Scans
import RedemptionWatch.Proofs.Watch.Shared
import RedemptionWatch.Proofs.Watch.Survey
import RedemptionWatch.Proofs.Watch.Sweep
import RedemptionWatch.Proofs.Watch.Traversal
import RedemptionWatch.Proofs.Watch.Visits
import RedemptionWatch.Proofs.Watch.Walk
import RedemptionWatch.RateLimit.Bucket
import RedemptionWatch.RateLimit.Clock
import RedemptionWatch.Redemption
import RedemptionWatch.Rehearsal.Job
import RedemptionWatch.Rehearsal.Quota
import RedemptionWatch.Rehearsal.Remote
import RedemptionWatch.Rehearsal.Script
import RedemptionWatch.Rehearsal.Solo
import RedemptionWatch.Rehearsal.World
import RedemptionWatch.Service
import RedemptionWatch.Solana.Source
import RedemptionWatch.Solana.Transaction
import RedemptionWatch.Source
import RedemptionWatch.Status
import RedemptionWatch.Store.Backend
import RedemptionWatch.Store.Basic
import RedemptionWatch.Store.Disk
import RedemptionWatch.Store.FileName
import RedemptionWatch.Store.Memory
import RedemptionWatch.Store.Place
import RedemptionWatch.Store.Sql
import RedemptionWatch.Table
import RedemptionWatch.Terra.Source
import RedemptionWatch.Terra.Transaction
import RedemptionWatch.Text.Base58
import RedemptionWatch.Text.Base64
import RedemptionWatch.Text.Bidi
import RedemptionWatch.Text.Blank
import RedemptionWatch.Text.CodeRange
import RedemptionWatch.Text.Combining
import RedemptionWatch.Text.Composition
import RedemptionWatch.Text.Hex
import RedemptionWatch.Text.Joining
import RedemptionWatch.Text.Numeral
import RedemptionWatch.Text.Printable
import RedemptionWatch.Text.Quoted
import RedemptionWatch.Text.Real
import RedemptionWatch.Timestamp
import RedemptionWatch.Url.Basic
import RedemptionWatch.Url.DomainMapping
import RedemptionWatch.Url.DomainName
import RedemptionWatch.Url.Host
import RedemptionWatch.Url.Parser
import RedemptionWatch.Url.Path
import RedemptionWatch.Url.Percent
import RedemptionWatch.Url.Punycode
import RedemptionWatch.Vaa
import RedemptionWatch.Watch.ActivityScan
import RedemptionWatch.Watch.BlockScan
import RedemptionWatch.Watch.Interface
import RedemptionWatch.Watch.Report
import RedemptionWatch.Watch.Retry
import RedemptionWatch.Watch.Summary
import RedemptionWatch.Watch.Watcher
import RedemptionWatch.Proofs.Ankr.Pages
