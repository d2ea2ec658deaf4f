import StreetEnv.CommandLine
import StreetEnv.Decimal.Reader
import StreetEnv.Decimal.Text
import StreetEnv.Enrichment
import StreetEnv.Fault
import StreetEnv.Feature.Table
import StreetEnv.Geodesy.Atlas
import StreetEnv.Geodesy.Earth
import StreetEnv.Geodesy.Ellipsoid
import StreetEnv.Geometry.Envelope
import StreetEnv.Grid.Accumulator
import StreetEnv.Grid.AirQualityFile
import StreetEnv.Grid.DataArray
import StreetEnv.Grid.Reader
import StreetEnv.Grid.Update
import StreetEnv.Json.Basic
import StreetEnv.Json.Reader
import StreetEnv.Main
import StreetEnv.Noise.Attribution
import StreetEnv.Noise.Observation
import StreetEnv.Notice
import StreetEnv.Number.Arithmetic
import StreetEnv.Number.Basic
import StreetEnv.Number.Rounding
import StreetEnv.Polling.Updater
import StreetEnv.Proofs.Decimal.Integer
import StreetEnv.Proofs.Enrichment.Reloading
import StreetEnv.Proofs.Enrichment.Repetition
import StreetEnv.Proofs.Fault.Traversal
import StreetEnv.Proofs.Feature.Cells
import StreetEnv.Proofs.Feature.Courses
import StreetEnv.Proofs.Feature.Lines
import StreetEnv.Proofs.Geometry.Bounds
import StreetEnv.Proofs.Geometry.Containment
import StreetEnv.Proofs.Grid.Arrays
import StreetEnv.Proofs.Grid.AverageOrder
import StreetEnv.Proofs.Grid.Batches
import StreetEnv.Proofs.Grid.CutShort
import StreetEnv.Proofs.Grid.Faults
import StreetEnv.Proofs.Grid.FirstCell
import StreetEnv.Proofs.Grid.FirstStep
import StreetEnv.Proofs.Grid.Footprint
import StreetEnv.Proofs.Grid.HigherPollution
import StreetEnv.Proofs.Grid.LastFile
import StreetEnv.Proofs.Grid.Mirror
import StreetEnv.Proofs.Grid.Operations
import StreetEnv.Proofs.Grid.PassesInStep
import StreetEnv.Proofs.Grid.Pixels
import StreetEnv.Proofs.Grid.Progress
import StreetEnv.Proofs.Grid.Reach
import StreetEnv.Proofs.Grid.Reading
import StreetEnv.Proofs.Grid.Refusal
import StreetEnv.Proofs.Grid.SampleRange
import StreetEnv.Proofs.Grid.Samples
import StreetEnv.Proofs.Grid.StepMeans
import StreetEnv.Proofs.Grid.StorageOrder
import StreetEnv.Proofs.Noise.AllOrNothing
import StreetEnv.Proofs.Noise.Footprint
import StreetEnv.Proofs.Noise.Kinds
import StreetEnv.Proofs.Noise.LastCycle
import StreetEnv.Proofs.Noise.Loudest
import StreetEnv.Proofs.Noise.MoreSources
import StreetEnv.Proofs.Noise.Reordering
import StreetEnv.Proofs.Number.HalfAway
import StreetEnv.Proofs.Number.HalfEven
import StreetEnv.Proofs.Number.Mean
import StreetEnv.Proofs.Number.Monotone
import StreetEnv.Proofs.Number.Nearest
import StreetEnv.Proofs.Number.Order
import StreetEnv.Proofs.Number.Range
import StreetEnv.Proofs.Number.Zeros
import StreetEnv.Proofs.Polling.Count
import StreetEnv.Proofs.Polling.Findings
import StreetEnv.Proofs.Polling.Interleaving
import StreetEnv.Proofs.Polling.Turns
import StreetEnv.Proofs.Sampling.Even
import StreetEnv.Proofs.Sampling.Mirror
import StreetEnv.Proofs.Sampling.Nearest
import StreetEnv.Proofs.Sampling.Steps
import StreetEnv.Proofs.Sampling.Walk
import StreetEnv.Proofs.Storage.Layers
import StreetEnv.Proofs.Street.Edgewise
import StreetEnv.Proofs.Street.Footprint
import StreetEnv.Proofs.Street.Inside
import StreetEnv.Proofs.Time.Timeline
import StreetEnv.Sampling.Sampler
import StreetEnv.Settings
import StreetEnv.Storage.Description
import StreetEnv.Storage.FilePath
import StreetEnv.Storage.FileTree
import StreetEnv.Storage.VectorFile
import StreetEnv.Street.Graph
import StreetEnv.Text.Character
import StreetEnv.Text.Quoted
import StreetEnv.Time.Moment
import StreetEnv.Time.Timeline
import StreetEnv.Validation
