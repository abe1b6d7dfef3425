import SourceHarvest.Blocks
import SourceHarvest.Chunk.Basic
import SourceHarvest.Chunk.Codec
import SourceHarvest.Chunk.Identity
import SourceHarvest.Chunk.Windows
import SourceHarvest.CommandLine
import SourceHarvest.Configuration.Basic
import SourceHarvest.Configuration.Environment
import SourceHarvest.Configuration.EnvironmentFile
import SourceHarvest.Digest.Hexadecimal
import SourceHarvest.Digest.Md5
import SourceHarvest.Digest.Sha256
import SourceHarvest.Digest.Words
import SourceHarvest.Discovery
import SourceHarvest.Embedding.Basic
import SourceHarvest.Embedding.Ollama
import SourceHarvest.Embedding.OpenAI
import SourceHarvest.Failure.Basic
import SourceHarvest.Failure.Status
import SourceHarvest.FileTree.Basic
import SourceHarvest.FileTree.Operations
import SourceHarvest.FileTree.Resolve
import SourceHarvest.Fingerprint.Cache
import SourceHarvest.Fingerprint.Ledger
import SourceHarvest.Http.DomainName
import SourceHarvest.Http.Exchange
import SourceHarvest.Http.Host
import SourceHarvest.Http.Punycode
import SourceHarvest.Http.Script
import SourceHarvest.Http.Url
import SourceHarvest.Ignore.Glob
import SourceHarvest.Ignore.Glob.Matching
import SourceHarvest.Ignore.Personal
import SourceHarvest.Ignore.RuleFile
import SourceHarvest.Ignore.Scope
import SourceHarvest.Ingestion.Batch
import SourceHarvest.Ingestion.Chunking
import SourceHarvest.Ingestion.FileJob
import SourceHarvest.Ingestion.Job
import SourceHarvest.Ingestion.Run
import SourceHarvest.Ingestion.Tracking
import SourceHarvest.Json.Basic
import SourceHarvest.Json.Decode
import SourceHarvest.Json.Document
import SourceHarvest.Json.Numeral
import SourceHarvest.Json.Quoted
import SourceHarvest.Json.Token
import SourceHarvest.Json.Writer
import SourceHarvest.Main
import SourceHarvest.Numeric.Binary
import SourceHarvest.Numeric.Layout
import SourceHarvest.Numeric.Shortest
import SourceHarvest.Outcome.Log
import SourceHarvest.Outcome.Record
import SourceHarvest.Path
import SourceHarvest.Proofs.Chunk.Codec
import SourceHarvest.Proofs.Chunk.Cutting
import SourceHarvest.Proofs.Chunk.Encoding
import SourceHarvest.Proofs.Chunk.Identity
import SourceHarvest.Proofs.Chunk.Lines
import SourceHarvest.Proofs.Chunk.Windows
import SourceHarvest.Proofs.Configuration.Loading
import SourceHarvest.Proofs.Configuration.Wording
import SourceHarvest.Proofs.Discovery
import SourceHarvest.Proofs.Discovery.Eligible
import SourceHarvest.Proofs.Embedding.Belonging
import SourceHarvest.Proofs.Embedding.Conversation
import SourceHarvest.Proofs.Embedding.Placing
import SourceHarvest.Proofs.Embedding.Rounds
import SourceHarvest.Proofs.Failure.Composition
import SourceHarvest.Proofs.Failure.Lowercase
import SourceHarvest.Proofs.Failure.Precedence
import SourceHarvest.Proofs.FileTree.Around
import SourceHarvest.Proofs.FileTree.Changes
import SourceHarvest.Proofs.FileTree.Kinds
import SourceHarvest.Proofs.FileTree.Replacing
import SourceHarvest.Proofs.FileTree.Retaining
import SourceHarvest.Proofs.FileTree.Sound
import SourceHarvest.Proofs.FileTree.Ways
import SourceHarvest.Proofs.Fingerprint.Atomic
import SourceHarvest.Proofs.Fingerprint.Damaged
import SourceHarvest.Proofs.Fingerprint.Order
import SourceHarvest.Proofs.Fingerprint.Persistence
import SourceHarvest.Proofs.Fingerprint.Reloading
import SourceHarvest.Proofs.Fingerprint.Replacement
import SourceHarvest.Proofs.Fingerprint.Resaving
import SourceHarvest.Proofs.Fingerprint.Standing
import SourceHarvest.Proofs.Fingerprint.Unsaved
import SourceHarvest.Proofs.Http.Transfers
import SourceHarvest.Proofs.Ingestion.Aborting
import SourceHarvest.Proofs.Ingestion.Account
import SourceHarvest.Proofs.Ingestion.Accounting
import SourceHarvest.Proofs.Ingestion.Agreement
import SourceHarvest.Proofs.Ingestion.Chunking
import SourceHarvest.Proofs.Ingestion.Converging
import SourceHarvest.Proofs.Ingestion.Course
import SourceHarvest.Proofs.Ingestion.Dialogue
import SourceHarvest.Proofs.Ingestion.Forgetting
import SourceHarvest.Proofs.Ingestion.Forgotten
import SourceHarvest.Proofs.Ingestion.Harvest
import SourceHarvest.Proofs.Ingestion.History
import SourceHarvest.Proofs.Ingestion.Idempotence
import SourceHarvest.Proofs.Ingestion.Isolation
import SourceHarvest.Proofs.Ingestion.Keys
import SourceHarvest.Proofs.Ingestion.Limits
import SourceHarvest.Proofs.Ingestion.Merging
import SourceHarvest.Proofs.Ingestion.Orderly
import SourceHarvest.Proofs.Ingestion.Processing
import SourceHarvest.Proofs.Ingestion.Protocol
import SourceHarvest.Proofs.Ingestion.Questions
import SourceHarvest.Proofs.Ingestion.Racing
import SourceHarvest.Proofs.Ingestion.Readiness
import SourceHarvest.Proofs.Ingestion.Recovery
import SourceHarvest.Proofs.Ingestion.Repetition
import SourceHarvest.Proofs.Ingestion.Reporting
import SourceHarvest.Proofs.Ingestion.Retry
import SourceHarvest.Proofs.Ingestion.Scheduling
import SourceHarvest.Proofs.Ingestion.SharedStore
import SourceHarvest.Proofs.Ingestion.Straying
import SourceHarvest.Proofs.Ingestion.TableServices
import SourceHarvest.Proofs.Ingestion.Turns
import SourceHarvest.Proofs.Ingestion.Unforgotten
import SourceHarvest.Proofs.Ingestion.Units
import SourceHarvest.Proofs.Json.Compact
import SourceHarvest.Proofs.Json.Grammar
import SourceHarvest.Proofs.Json.Lexis
import SourceHarvest.Proofs.Json.Numerals
import SourceHarvest.Proofs.Json.Printable
import SourceHarvest.Proofs.Json.Reals
import SourceHarvest.Proofs.Json.Records
import SourceHarvest.Proofs.Json.RoundTrip
import SourceHarvest.Proofs.Json.Tokens
import SourceHarvest.Proofs.Outcome.Log
import SourceHarvest.Proofs.Path.Backslashes
import SourceHarvest.Proofs.Path.Extension
import SourceHarvest.Proofs.Path.Names
import SourceHarvest.Proofs.Path.Spelling
import SourceHarvest.Proofs.Syntax.Addresses
import SourceHarvest.Proofs.Syntax.Extraction
import SourceHarvest.Proofs.Syntax.Rows
import SourceHarvest.Proofs.Text.Bytes
import SourceHarvest.Proofs.Text.Slices
import SourceHarvest.Proofs.VectorStore.Absent
import SourceHarvest.Proofs.VectorStore.Calls
import SourceHarvest.Proofs.VectorStore.Commuting
import SourceHarvest.Proofs.VectorStore.Connecting
import SourceHarvest.Proofs.VectorStore.Filter
import SourceHarvest.Proofs.VectorStore.Hits
import SourceHarvest.Proofs.VectorStore.Presence
import SourceHarvest.Proofs.VectorStore.Rows
import SourceHarvest.Syntax.Category
import SourceHarvest.Syntax.Extraction
import SourceHarvest.Syntax.Language
import SourceHarvest.Syntax.Tree
import SourceHarvest.Text.Blank
import SourceHarvest.Text.ByteLines
import SourceHarvest.Text.Case
import SourceHarvest.Text.Lines
import SourceHarvest.Text.Search
import SourceHarvest.Text.Slice
import SourceHarvest.Text.Split
import SourceHarvest.Unicode.Alphanumeric
import SourceHarvest.Unicode.Composition
import SourceHarvest.Unicode.Direction
import SourceHarvest.Unicode.Joining
import SourceHarvest.Unicode.Mark
import SourceHarvest.Unicode.NameMapping
import SourceHarvest.Unicode.Table
import SourceHarvest.VectorStore.Memory
import SourceHarvest.VectorStore.Milvus
