import PayloadDepot.Bytes.Fingerprint
import PayloadDepot.Bytes.Hex
import PayloadDepot.Bytes.Repeat
import PayloadDepot.Bytes.Sha1
import PayloadDepot.Bytes.SignedWord
import PayloadDepot.Claim.Outcome
import PayloadDepot.Claim.Reference
import PayloadDepot.Coding.Codec
import PayloadDepot.Coding.Standard
import PayloadDepot.Decimal.Shortest
import PayloadDepot.Fault
import PayloadDepot.Fault.Report
import PayloadDepot.Host.BlobName
import PayloadDepot.Host.Environment
import PayloadDepot.Host.Files
import PayloadDepot.Host.IoFault
import PayloadDepot.Host.Shelf
import PayloadDepot.Host.World
import PayloadDepot.Inbound.Consumer
import PayloadDepot.Inbound.Interceptor
import PayloadDepot.Inbound.Restoring
import PayloadDepot.Json.Access
import PayloadDepot.Json.Basic
import PayloadDepot.Json.Document
import PayloadDepot.Json.NumberReader
import PayloadDepot.Json.Reader
import PayloadDepot.Json.TextReader
import PayloadDepot.Json.Writer
import PayloadDepot.Outbound.CheckIn
import PayloadDepot.Outbound.Interceptor
import PayloadDepot.Outbound.Producer
import PayloadDepot.Outbound.Sealing
import PayloadDepot.Outbound.Settlement
import PayloadDepot.Outbound.StreamCheckIn
import PayloadDepot.Proofs.Claim
import PayloadDepot.Proofs.Coding
import PayloadDepot.Proofs.Effect
import PayloadDepot.Proofs.Outbound.Producer
import PayloadDepot.Proofs.Outbound.Send
import PayloadDepot.Proofs.Storage.Ledger
import PayloadDepot.Rehearsal.Bench
import PayloadDepot.Rehearsal.Codec
import PayloadDepot.Rehearsal.Depot
import PayloadDepot.Rehearsal.Marks
import PayloadDepot.Rehearsal.Observer
import PayloadDepot.Rehearsal.State
import PayloadDepot.Setup.Assembly
import PayloadDepot.Setup.Keys
import PayloadDepot.Setup.Options
import PayloadDepot.Setup.Plan
import PayloadDepot.Storage.Bucket.Depot
import PayloadDepot.Storage.Bucket.Exchange
import PayloadDepot.Storage.Bucket.Name
import PayloadDepot.Storage.Bucket.ObjectStore
import PayloadDepot.Storage.Bucket.Secret
import PayloadDepot.Storage.Bucket.Settings
import PayloadDepot.Storage.Catalog
import PayloadDepot.Storage.ContainerCache
import PayloadDepot.Storage.Depot
import PayloadDepot.Storage.Directory
import PayloadDepot.Storage.Memory
import PayloadDepot.Stream.Handle
import PayloadDepot.Stream.Reader
import PayloadDepot.Table
import PayloadDepot.Text.Blank
import PayloadDepot.Text.CharSet
import PayloadDepot.Text.Lowercase
import PayloadDepot.Text.Lowercase.Table
import PayloadDepot.Text.Parts
import PayloadDepot.Text.Quoted
import PayloadDepot.Text.Quoted.Table
import PayloadDepot.Text.Utf8
import PayloadDepot.Wire.Batch
import PayloadDepot.Wire.DeclaredLength
import PayloadDepot.Wire.Framing
import PayloadDepot.Wire.Headers
import PayloadDepot.Wire.Record
import PayloadDepot.Proofs.Outbound.NoSilentLoss
import PayloadDepot.Proofs.Storage.ContainerCache
import PayloadDepot.Proofs.Storage.Memory
import PayloadDepot.Proofs.Storage.MemoryRuns
import PayloadDepot.Proofs.Inbound.Poll
import PayloadDepot.Proofs.Exchange.Course
import PayloadDepot.Proofs.Exchange.RoundTrip
import PayloadDepot.Proofs.Exchange.StaleReference
import PayloadDepot.Proofs.Stream.Handle
import PayloadDepot.Proofs.Outbound.StreamSend
import PayloadDepot.Proofs.Exchange.Streams
import PayloadDepot.Proofs.Coding.Standard
import PayloadDepot.Proofs.Storage.Journal
import PayloadDepot.Proofs.Inbound.Agreement
import PayloadDepot.Proofs.Table
import PayloadDepot.Proofs.LabelledRun
import PayloadDepot.Proofs.Storage.CacheTraffic
import PayloadDepot.Proofs.Storage.Memoization
import PayloadDepot.Proofs.Storage.MemoryTally
import PayloadDepot.Proofs.Storage.MemoryTraffic
import PayloadDepot.Proofs.Storage.Redemption
import PayloadDepot.Proofs.Storage.Interleaving
import PayloadDepot.Proofs.Storage.Frame
import PayloadDepot.Proofs.Host.Files
import PayloadDepot.Proofs.Storage.DirectoryRuns
import PayloadDepot.Proofs.Storage.Bucket.Name
import PayloadDepot.Proofs.Storage.Bucket.Channel
import PayloadDepot.Proofs.Storage.Bucket.Uploads
import PayloadDepot.Proofs.Storage.BucketRuns
import PayloadDepot.Proofs.Storage.Issued
import PayloadDepot.Proofs.Host.BlobName
import PayloadDepot.Proofs.Storage.Bucket.Transcript
import PayloadDepot.Proofs.Storage.Bucket.Verification
import PayloadDepot.Proofs.Storage.Bucket.Transfer
import PayloadDepot.Proofs.Storage.Bucket.OpenUploads
import PayloadDepot.Proofs.Storage.Bucket.Tidy
import PayloadDepot.Proofs.Storage.Bucket.Sharing
import PayloadDepot.Proofs.Storage.Bucket.Order
import PayloadDepot.Proofs.Storage.Bucket.Discipline
import PayloadDepot.Proofs.Stream.Ending
import PayloadDepot.Proofs.Storage.Bucket.Cut
import PayloadDepot.Proofs.Storage.Bucket.Streaming
import PayloadDepot.Proofs.Storage.Bucket.Acceptance
import PayloadDepot.Proofs.Storage.Bucket.ExactUpload
import PayloadDepot.Proofs.Host.Paths
import PayloadDepot.Proofs.Host.Directories
import PayloadDepot.Proofs.Host.Session
import PayloadDepot.Proofs.Storage.Directory.BlobFiles
import PayloadDepot.Proofs.Storage.Directory.CheckIn
import PayloadDepot.Proofs.Storage.Directory.Faithful
import PayloadDepot.Proofs.Storage.Directory.Confined
import PayloadDepot.Proofs.Outbound.Ledgered
import PayloadDepot.Proofs.Outbound.Threshold
import PayloadDepot.Proofs.Exchange.Transparency
import PayloadDepot.Proofs.Outbound.Chain
import PayloadDepot.Proofs.Inbound.Order
import PayloadDepot.Proofs.Exchange.StreamAgreement
import PayloadDepot.Proofs.Storage.Declining
import PayloadDepot.Proofs.Storage.Directory.MissingDirectory
import PayloadDepot.Proofs.Storage.Bucket.MissingBucket
import PayloadDepot.Proofs.Storage.MissingContainer
import PayloadDepot.Proofs.Wire.Varint
import PayloadDepot.Proofs.Wire.Framing
import PayloadDepot.Proofs.Wire.Growth
import PayloadDepot.Proofs.Outbound.CutOff
import PayloadDepot.Proofs.Storage.Bucket.Valid
import PayloadDepot.Proofs.Bytes.TwosComplement
import PayloadDepot.Proofs.Wire.LengthHeader
import PayloadDepot.Proofs.Outbound.Telling
import PayloadDepot.Proofs.Stream.Sharing
import PayloadDepot.Proofs.Text.Parts
import PayloadDepot.Proofs.Fault.Report
import PayloadDepot.Proofs.Outbound.Reporting
import PayloadDepot.Proofs.Text.Blank
import PayloadDepot.Proofs.Setup.Options
import PayloadDepot.Proofs.Setup.Plan
import PayloadDepot.Proofs.Setup.Variables
import PayloadDepot.Proofs.Outbound.Revising
import PayloadDepot.Proofs.Outbound.Offsets
import PayloadDepot.Proofs.Outbound.SendTraffic
import PayloadDepot.Proofs.Storage.Bucket.Limits
import PayloadDepot.Proofs.Storage.Bucket.Secret
import PayloadDepot.Proofs.Storage.Bucket.Settings
import PayloadDepot.Proofs.Storage.Bucket.Secrecy
import PayloadDepot.Proofs.Text.Utf8Order
import PayloadDepot.Proofs.Wire.Batch
import PayloadDepot.Proofs.Storage.ForeignReference
import PayloadDepot.Proofs.Wire.Headers
