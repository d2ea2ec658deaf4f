import StreetEnv.Feature.Table
import StreetEnv.Grid.Update
import StreetEnv.Noise.Attribution
import StreetEnv.Noise.Observation
import StreetEnv.Polling.Updater
import StreetEnv.Settings
import StreetEnv.Storage.FileTree
import StreetEnv.Storage.VectorFile

/-!
# Enrichment of a street graph

What settings make of a graph and its sources.

* `Settings.airQualityPass` applies the configured files once and refuses files that are not valid;
  `Settings.airQualityCycle` does so on every poll, where missing and invalid files leave the graph
  as it is;
* `Settings.noiseCycle` asks the broker and applies its reply.  Without a broker, and without
  observations, the graph stays as it is;
* `Settings.enrich` makes one pass of each.  A failing air quality pass ends the enrichment, a reply
  that gives no observations does not;
* the state of both updaters is the graph with its sources: the air quality updater reads the files
  again on every poll, the noise updater asks the broker again;
* `Settings.loadGraph` reads the street edges from the configured vector file, `Settings.saveGraph`
  writes them, enriched, to the output directory.
-/

namespace StreetEnv

/-! ### Air quality from configured files -/

/-- Reads files in turn, until a fault. -/
def AirQualityFile.readAll (timeline : Timeline) (names : GridNames) (tree : FileTree) :
    List FilePath → Except Fault (List AirQualityFile) × List Notice
  | [] => (.ok [], [])
  | path :: paths =>
    match AirQualityFile.read timeline names path (tree.dataset? path) with
    | .error f => (.error f, [])
    | .ok (file, notices) =>
      let (files, more) := readAll timeline names tree paths
      (files.map (file :: ·), notices ++ more)

namespace Settings

variable (s : Settings)

/-- The update that applies files as the settings say. -/
def airQualityUpdate (files : List AirQualityFile) : AirQualityUpdate :=
  ⟨files, s.pass.spacing, some s.pass.reportEvery, s.pass.workers⟩

/-- Reads files and makes an update of them. -/
def loadAirQuality (timeline : Timeline) (tree : FileTree) (paths : List FilePath) :
    Except Fault AirQualityUpdate × List Notice :=
  let (files, notices) := AirQualityFile.readAll timeline s.input.names tree paths
  (files.map s.airQualityUpdate, notices)

variable (r : Rounding) (earth : Earth) (tree : FileTree) (g : Graph)

/-- One pass of the configured files; the number of edges written. -/
def airQualityPass : Outcome Nat :=
  if s.paths.airQuality = [] then .untouched g [.noFilesForPass] 0
  else
    match s.loadAirQuality earth.timeline tree s.paths.airQuality with
    | (.error f, notices) => .failed g notices f
    | (.ok u, notices) => (u.apply r earth g).noting notices

/-- One poll of the configured files.  The graph is changed only if all of them are valid. -/
def airQualityCycle : Outcome Unit :=
  let paths := s.paths.airQuality
  let missing := paths.filter fun p => !tree.has p
  if missing ≠ [] then .untouched g [.missingFiles (missing.map FilePath.text)] ()
  else if paths = [] then .untouched g [.noFilesForPolling] ()
  else
    match s.loadAirQuality earth.timeline tree paths with
    | (.error f, notices) => .failed g notices f
    | (.ok u, notices) =>
      if u.errors ≠ "" then .untouched g (notices ++ [.invalidFiles u.errors]) ()
      else ((u.apply r earth g).noting notices).map fun _ => ()

end Settings

/-! ### Noise from the configured broker -/

namespace Settings

variable (s : Settings) (r : Rounding)

/-- The broker, unless its address is empty. -/
def broker? : Option String := s.poll.broker.filter (· ≠ "")

/-- The pass of observations as the settings say. -/
def noisePass (os : List (Option Observation)) : Except Fault (NoisePass × List Notice) :=
  NoisePass.ofObservations os s.input.measurement s.pass.threshold s.pass.floor s.pass.margin

/-- Applies observations; the number of raises. -/
def applyNoise (os : List (Option Observation)) (g : Graph) : Outcome Nat :=
  match s.noisePass os with
  | .error f => .failed g [] f
  | .ok (p, notices) => (p.apply r g).noting notices

/-- Applies what a reply from an address tells. -/
def noiseAfter (url : String) (reply : Reply) (g : Graph) : Outcome Unit :=
  match Broker.understand url reply with
  | (.error f, notices) => .untouched g (notices ++ [.noiseUnreachable f]) ()
  | (.ok none, notices) => .untouched g (notices ++ [.noiseUnavailable url]) ()
  | (.ok (some os), notices) =>
    ((s.applyNoise r (os.map some) g).noting notices).map fun _ => ()

/-- Asks the broker for observations changed since a time, or for all, and applies its reply. -/
def noiseCycle (since : Option String) (b : Broker) (g : Graph) : Broker × Outcome Unit :=
  match s.broker? with
  | none => (b, .untouched g [.noBroker] ())
  | some url =>
    let (b, reply) := b.send ⟨url, Broker.parameters since, s.poll.timeout⟩
    (b, s.noiseAfter r url reply g)

end Settings

/-! ### One pass of each -/

/-- Where data comes from. -/
structure Sources where
  /-- The files. -/
  files : FileTree := {}
  /-- The broker. -/
  broker : Broker := {}
  /-- The time since when observations are asked for, if not all are. -/
  since : Option String := none
  deriving DecidableEq, Inhabited

/-- What an enrichment counts. -/
structure EnrichmentCounts where
  /-- Edges written with an air quality, over all files. -/
  airQuality : Nat
  /-- Edges that have a noise level in the end; `none` without a broker. -/
  noise : Option Nat
  deriving DecidableEq, Inhabited

/-- The number of edges that have a noise level. -/
def Graph.noiseCount (g : Graph) : Nat := g.edges.countP fun e => e.noise.isSome

namespace Settings

variable (s : Settings) (r : Rounding) (earth : Earth)

/-- The noise part of an enrichment, after `written` edges were given an air quality. -/
def enrichNoise (written : Nat) (src : Sources) (g : Graph) :
    Sources × Outcome EnrichmentCounts :=
  match s.broker? with
  | none => (src, .untouched g [] ⟨written, none⟩)
  | some _ =>
    let (broker, o) := s.noiseCycle r src.since src.broker g
    ({ src with broker := broker }, o.map fun _ => ⟨written, some o.graph.noiseCount⟩)

/-- Enriches a graph once. -/
def enrich (src : Sources) (g : Graph) : Sources × Outcome EnrichmentCounts :=
  let first := s.airQualityPass r earth src.files g
  match first.result with
  | .error f => (src, .failed first.graph first.notices f)
  | .ok written =>
    let (src, second) := s.enrichNoise r written src first.graph
    (src, second.noting first.notices)

end Settings

/-! ### Polling -/

/-- A graph with the sources of its data. -/
structure Site where
  /-- The graph. -/
  graph : Graph
  /-- The sources. -/
  sources : Sources

/-- What a poll with an outcome leaves. -/
def Polled.ofOutcome {α : Type} (sources : Sources) (o : Outcome α) : Polled Site :=
  { state := ⟨o.graph, sources⟩
    notices := o.notices
    fault := match o.result with
      | .error f => some f
      | .ok _ => none }

namespace Settings

variable (s : Settings) (r : Rounding) (earth : Earth)

/-- The updater from the configured files. -/
def airQualityUpdater : Updater Site :=
  { name := "AirQualityGraphUpdater"
    frequency := .ofInt s.poll.airQualitySeconds
    poll := fun site =>
      .ofOutcome site.sources (s.airQualityCycle r earth site.sources.files site.graph) }

/-- The updater from the configured broker. -/
def noiseUpdater : Updater Site :=
  { name := "NoiseLevelGraphUpdater"
    frequency := .ofInt s.poll.noiseSeconds
    poll := fun site =>
      let src := site.sources
      let (broker, o) := s.noiseCycle r src.since src.broker site.graph
      .ofOutcome { src with broker := broker } o }

/-- Both updaters. -/
def updaters : List (Updater Site) := [s.airQualityUpdater r earth, s.noiseUpdater r]

/-- Runs both updaters.  They write different parts of the edges and share no source, so their runs
may as well follow each other. -/
def pollAll (limit : Option Int) (horizon : Nat) (site : Site) : Site × List Notice :=
  (s.updaters r earth).foldl (fun (site, notices) u =>
    let run := u.run limit horizon site
    (run.state, notices ++ run.notices)) (site, [])

end Settings

/-! ### Loading and saving -/

namespace Settings

variable (s : Settings)

/-- Loads the configured street edges. -/
def loadGraph (atlas : Atlas) (tree : FileTree) : Except Fault Graph × List Notice :=
  match tree.loadTable s.paths.streetEdges s.input.layer with
  | (.error f, notices) => (.error f, notices)
  | (.ok t, notices) =>
    let (g, more) := t.toGraph atlas s.input.idField s.pass.epsg
    (g, notices ++ more)

/-- Saves the enriched street edges. -/
def saveGraph (g : Graph) (tree : FileTree) : FileTree.Saved :=
  tree.saveTable g.toTable s.enrichedEdges (some s.output.layer) (some VectorFormat.layered)

end Settings

end StreetEnv
