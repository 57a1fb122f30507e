import Groupwise.Aggregate
import Groupwise.Aggregation
import Groupwise.Batch
import Groupwise.Command
import Groupwise.Command.Error
import Groupwise.Command.Explain
import Groupwise.Command.Generate
import Groupwise.Command.Host
import Groupwise.Command.Memory
import Groupwise.Command.Memory.Path
import Groupwise.Command.Options
import Groupwise.Command.Run
import Groupwise.Config
import Groupwise.Config.Json
import Groupwise.Config.Layers
import Groupwise.Config.Yaml
import Groupwise.Csv.Record
import Groupwise.Csv.Text
import Groupwise.Decimal
import Groupwise.Decimal.Fixed
import Groupwise.Decimal.Literal
import Groupwise.Decimal.Style
import Groupwise.Digest
import Groupwise.Digest.Blake3
import Groupwise.Engine
import Groupwise.Engine.Error
import Groupwise.Failpoint
import Groupwise.Generator
import Groupwise.Generator.Random
import Groupwise.GroupMap
import Groupwise.Inspect
import Groupwise.Json.Fault
import Groupwise.Json.Numeral
import Groupwise.Json.Quoted
import Groupwise.Json.Reader
import Groupwise.Json.Value
import Groupwise.KeyPool
import Groupwise.LazyView
import Groupwise.Main
import Groupwise.Manifest
import Groupwise.Manifest.Json
import Groupwise.Manifest.Log
import Groupwise.Mode
import Groupwise.Mode.Json
import Groupwise.Number
import Groupwise.Parallel
import Groupwise.Position
import Groupwise.Position.Csv
import Groupwise.Position.Json
import Groupwise.Position.Keys
import Groupwise.Position.Row
import Groupwise.Proofs.Aborting
import Groupwise.Proofs.Accepting
import Groupwise.Proofs.Assembling
import Groupwise.Proofs.Batches
import Groupwise.Proofs.Bounding
import Groupwise.Proofs.Collecting
import Groupwise.Proofs.Comparing
import Groupwise.Proofs.Compensating
import Groupwise.Proofs.Cutting
import Groupwise.Proofs.Decimals
import Groupwise.Proofs.Delimiting
import Groupwise.Proofs.Describing
import Groupwise.Proofs.Differences
import Groupwise.Proofs.Digesting
import Groupwise.Proofs.Digits
import Groupwise.Proofs.Distinguishing
import Groupwise.Proofs.Drawing
import Groupwise.Proofs.Encoding
import Groupwise.Proofs.Exact
import Groupwise.Proofs.Extremes
import Groupwise.Proofs.FloatOrder
import Groupwise.Proofs.Folding
import Groupwise.Proofs.Generating
import Groupwise.Proofs.Interleaving
import Groupwise.Proofs.Interning
import Groupwise.Proofs.Journaling
import Groupwise.Proofs.Keeping
import Groupwise.Proofs.Layering
import Groupwise.Proofs.Literals
import Groupwise.Proofs.Lockstep
import Groupwise.Proofs.Logging
import Groupwise.Proofs.Merging
import Groupwise.Proofs.Numerals
import Groupwise.Proofs.Overflowing
import Groupwise.Proofs.Packing
import Groupwise.Proofs.Planning
import Groupwise.Proofs.Pooling
import Groupwise.Proofs.Quoting
import Groupwise.Proofs.Reducing
import Groupwise.Proofs.Reporting
import Groupwise.Proofs.Rereading
import Groupwise.Proofs.Restoring
import Groupwise.Proofs.Rounding
import Groupwise.Proofs.Running
import Groupwise.Proofs.Sampling
import Groupwise.Proofs.Seeding
import Groupwise.Proofs.Sharing
import Groupwise.Proofs.Success
import Groupwise.Proofs.Tabulating
import Groupwise.Proofs.Tallying
import Groupwise.Proofs.Tolerating
import Groupwise.Proofs.Trimming
import Groupwise.Proofs.Updates
import Groupwise.Proofs.Verifying
import Groupwise.Proofs.Viewing
import Groupwise.Proofs.Vouching
import Groupwise.Proofs.Waiting
import Groupwise.Reduction
import Groupwise.Schedule
import Groupwise.SharedMap
import Groupwise.Stats
import Groupwise.Stats.Accumulator
import Groupwise.Stats.Csv
import Groupwise.Stats.Json
import Groupwise.Text.Blank
import Groupwise.Text.Digits
import Groupwise.Text.Printable
import Groupwise.Text.Quoted
import Groupwise.Text.Utf8
import Groupwise.Uuid
import Groupwise.Verify
import Groupwise.Word
import Groupwise.WorkerPool
import Groupwise.Yaml.Mapping
import Groupwise.Yaml.Scalar
import Groupwise.Yaml.Tag
import Groupwise.Yaml.Text
import Groupwise.Yaml.Token
