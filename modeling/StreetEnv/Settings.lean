import StreetEnv.Grid.Reader
import StreetEnv.Sampling.Sampler
import StreetEnv.Validation

/-!
# Settings

`Settings` says where inputs and outputs are, what their parts are called and how passes are made.

* `Settings.standard` holds the defaults for a base directory and a broker;
* `OutputSettings.path?` places an output file in a directory;
* `Settings.check` reads changes to settings: a part that is absent keeps its value, and everything
  that does not fit is reported;
* `Settings.toJson` writes all settings down.
-/

namespace StreetEnv

/-- Where inputs are read from and outputs are written to. -/
structure PathSettings where
  /-- The directory that the defaults of the other paths are below. -/
  base : FilePath
  /-- The directory of inputs. -/
  data : FilePath
  /-- The directory of outputs. -/
  output : FilePath
  /-- The vector file of the street edges. -/
  streetEdges : FilePath
  /-- The air quality files, in the order of their application. -/
  airQuality : List FilePath
  deriving DecidableEq, Inhabited

/-- What the parts of the inputs are called. -/
structure InputSettings where
  /-- The layer of the street edges, and the first one if it is not named. -/
  layer : Option String := none
  /-- The column of identifiers. -/
  idField : String := "id"
  /-- The names in air quality files. -/
  names : GridNames := {}
  /-- The measurement that gives the noise level. -/
  measurement : String := "LAmax"
  deriving DecidableEq, Inhabited

/-- What outputs are called. -/
structure OutputSettings where
  /-- The file of the enriched edges. -/
  file : String := "enriched_street_edges.gpkg"
  /-- The layer of the enriched edges. -/
  layer : String := "street_edges"
  deriving DecidableEq, Inhabited

/-- How passes are made. -/
structure PassSettings where
  /-- The code of the reference system of the edges. -/
  epsg : Int := 4326
  /-- Metres between samples. -/
  spacing : Number := Sampler.defaultSpacing
  /-- Every how many written edges the progress is reported. -/
  reportEvery : Int := 10000
  /-- The number of workers that average. -/
  workers : Int := 1
  /-- The distance in degrees below which an observation is near. -/
  threshold : Number := .rational (5 / 1000)
  /-- The noise level that covered edges have at least. -/
  floor : Number := 0
  /-- The degrees by which the area of the observations is expanded. -/
  margin : Number := 0
  deriving DecidableEq, Inhabited

/-- How data is polled. -/
structure PollSettings where
  /-- Seconds between polls of the air quality files. -/
  airQualitySeconds : Int := 600
  /-- Seconds between polls of the broker. -/
  noiseSeconds : Int := 300
  /-- The address of the broker. -/
  broker : Option String
  /-- How many minutes back observations are asked for. -/
  lookbackMinutes : Int := 5
  /-- How long to wait for the broker, in seconds. -/
  timeout : Number := 30
  deriving DecidableEq, Inhabited

/-- All settings. -/
structure Settings where
  /-- Where inputs and outputs are. -/
  paths : PathSettings
  /-- What the parts of the inputs are called. -/
  input : InputSettings
  /-- What outputs are called. -/
  output : OutputSettings
  /-- How passes are made. -/
  pass : PassSettings
  /-- How data is polled. -/
  poll : PollSettings
  deriving DecidableEq, Inhabited

/-- The default paths below a base directory. -/
def PathSettings.below (base : FilePath) : PathSettings :=
  { base := base
    data := base.join (.ofText "data")
    output := base.join (.ofText "output")
    streetEdges := base.join (.ofText "data/streets/street_edges.gpkg")
    airQuality := [] }

/-- The defaults, for a base directory and perhaps a broker. -/
def Settings.standard (base : FilePath) (broker : Option String) : Settings :=
  { paths := .below base, input := {}, output := {}, pass := {}, poll := { broker := broker } }

/-- The path of an output in a directory; `none` for a name that no output has. -/
def OutputSettings.path? (o : OutputSettings) (name : String) (directory : FilePath) :
    Option FilePath :=
  let files := [("enriched_edges_gpkg", o.file), ("enriched_edges_layer", o.layer)]
  (files.lookup name).map fun file => directory.join (.ofText file)

/-- The path of the enriched edges. -/
def Settings.enrichedEdges (s : Settings) : FilePath := s.paths.output.join (.ofText s.output.file)

/-! ### Settings as structured data -/

open Check

/-- Changes to paths. -/
def PathSettings.check (s : PathSettings) (j : Json) : Checked PathSettings :=
  .ok PathSettings.mk
    |> (Checked.field · (field ["base_dir"] s.base path j))
    |> (Checked.field · (field ["data_dir"] s.data path j))
    |> (Checked.field · (field ["output_dir"] s.output path j))
    |> (Checked.field · (field ["street_edges_path"] s.streetEdges path j))
    |> (Checked.field · (field ["air_quality_files"] s.airQuality (list path) j))

/-- Changes to what the parts of inputs are called. -/
def InputSettings.check (s : InputSettings) (j : Json) : Checked InputSettings :=
  let make (layer : Option String) (id latitude longitude time aqi tag measurement : String) :
      InputSettings :=
    ⟨layer, id, ⟨latitude, longitude, time, aqi, tag⟩, measurement⟩
  .ok make
    |> (Checked.field · (field ["edge_layer"] s.layer (optional text) j))
    |> (Checked.field · (field ["edge_id_field"] s.idField text j))
    |> (Checked.field · (field ["latitude_variable"] s.names.latitude text j))
    |> (Checked.field · (field ["longitude_variable"] s.names.longitude text j))
    |> (Checked.field · (field ["time_variable"] s.names.time text j))
    |> (Checked.field · (field ["aqi_variable"] s.names.aqi text j))
    |> (Checked.field · (field ["geotiff_time_origin_tag"] s.names.originTag text j))
    |> (Checked.field · (field ["noise_level_measurement"] s.measurement text j))

/-- Changes to what outputs are called. -/
def OutputSettings.check (s : OutputSettings) (j : Json) : Checked OutputSettings :=
  .ok OutputSettings.mk
    |> (Checked.field · (field ["enriched_edges_gpkg"] s.file text j))
    |> (Checked.field · (field ["enriched_edges_layer"] s.layer text j))

/-- Changes to how passes are made. -/
def PassSettings.check (s : PassSettings) (j : Json) : Checked PassSettings :=
  .ok PassSettings.mk
    |> (Checked.field · (field ["edge_crs_epsg"] s.epsg int j))
    |> (Checked.field · (field ["sample_spacing_m"] s.spacing float j))
    |> (Checked.field · (field ["report_every_n_edges"] s.reportEvery int j))
    |> (Checked.field · (field ["dask_workers"] s.workers int j))
    |> (Checked.field · (field ["noise_distance_threshold"] s.threshold float j))
    |> (Checked.field · (field ["noise_floor_level"] s.floor float j))
    |> (Checked.field · (field ["noise_envelope_margin"] s.margin float j))

/-- Changes to how data is polled. -/
def PollSettings.check (s : PollSettings) (j : Json) : Checked PollSettings :=
  .ok PollSettings.mk
    |> (Checked.field · (field ["air_quality_frequency_sec"] s.airQualitySeconds int j))
    |> (Checked.field · (field ["noise_level_frequency_sec"] s.noiseSeconds int j))
    |> (Checked.field · (field ["noise_server_url"] s.broker (optional text) j))
    |> (Checked.field · (field ["noise_lookback_minutes"] s.lookbackMinutes int j))
    |> (Checked.field · (field ["request_timeout_sec"] s.timeout float j))

namespace Settings

/-- Changes to the sections of settings. -/
def checkSections (s : Settings) (j : Json) : Checked Settings :=
  .ok Settings.mk
    |> (Checked.field · (field ["paths"] s.paths (model s.paths.check) j))
    |> (Checked.field · (field ["input_data"] s.input (model s.input.check) j))
    |> (Checked.field · (field ["output_files"] s.output (model s.output.check) j))
    |> (Checked.field · (field ["processing"] s.pass (model s.pass.check) j))
    |> (Checked.field · (field ["updaters"] s.poll (model s.poll.check) j))

/-- The settings with changes. -/
def check (s : Settings) (j : Json) : Checked Settings := model s.checkSections j

/-- A path as structured data. -/
def pathJson (p : FilePath) : Json := .string p.text

/-- All settings as structured data. -/
def toJson (s : Settings) : Json :=
  .object
    [("paths", .object
      [("base_dir", pathJson s.paths.base),
        ("data_dir", pathJson s.paths.data),
        ("output_dir", pathJson s.paths.output),
        ("street_edges_path", pathJson s.paths.streetEdges),
        ("air_quality_files", .array (s.paths.airQuality.map pathJson))]),
      ("input_data", .object
        [("edge_layer", Json.ofOption .string s.input.layer),
          ("edge_id_field", .string s.input.idField),
          ("latitude_variable", .string s.input.names.latitude),
          ("longitude_variable", .string s.input.names.longitude),
          ("time_variable", .string s.input.names.time),
          ("aqi_variable", .string s.input.names.aqi),
          ("geotiff_time_origin_tag", .string s.input.names.originTag),
          ("noise_level_measurement", .string s.input.measurement)]),
      ("output_files", .object
        [("enriched_edges_gpkg", .string s.output.file),
          ("enriched_edges_layer", .string s.output.layer)]),
      ("processing", .object
        [("edge_crs_epsg", .int s.pass.epsg),
          ("sample_spacing_m", .number s.pass.spacing),
          ("report_every_n_edges", .int s.pass.reportEvery),
          ("dask_workers", .int s.pass.workers),
          ("noise_distance_threshold", .number s.pass.threshold),
          ("noise_floor_level", .number s.pass.floor),
          ("noise_envelope_margin", .number s.pass.margin)]),
      ("updaters", .object
        [("air_quality_frequency_sec", .int s.poll.airQualitySeconds),
          ("noise_level_frequency_sec", .int s.poll.noiseSeconds),
          ("noise_server_url", Json.ofOption .string s.poll.broker),
          ("noise_lookback_minutes", .int s.poll.lookbackMinutes),
          ("request_timeout_sec", .number s.poll.timeout)])]

end Settings

end StreetEnv
