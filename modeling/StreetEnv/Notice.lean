import StreetEnv.Fault
import StreetEnv.Text.Quoted

/-!
# Notices

Operations leave notices for whoever runs them.  `Notice` lists what they are about,
`Notice.severity` says how grave they are and `Notice.text` how they read.
-/

namespace StreetEnv

/-- How grave a notice is. -/
inductive Severity where
  | info | warning | error
  deriving DecidableEq, Inhabited

/-- The written name of a level. -/
def Severity.name : Severity → String
  | info => "INFO"
  | warning => "WARNING"
  | error => "ERROR"

/-- Something that whoever runs an operation should know. -/
inductive Notice where
  /-- A file holds no usable grid. -/
  | rejected (text : String)
  /-- So many of the edges have a new air quality. -/
  | progress (updated total : Nat)
  /-- Observations were dropped for want of a place or a level. -/
  | skippedObservations (count : Nat) (measurement : String)
  /-- No observation was left. -/
  | noObservations
  /-- The broker refused. -/
  | listRefused (url : String) (status : Int) (text : String)
  /-- The broker's answer makes no sense. -/
  | undecodable (url : String)
  /-- The broker could not be reached. -/
  | noiseUnreachable (fault : Fault)
  /-- The broker gave no observations. -/
  | noiseUnavailable (url : String)
  /-- No broker is configured. -/
  | noBroker
  /-- No air quality files are configured for a single pass. -/
  | noFilesForPass
  /-- No air quality files are configured for polling. -/
  | noFilesForPolling
  /-- Configured air quality files are absent. -/
  | missingFiles (paths : List String)
  /-- Configured air quality files are not valid. -/
  | invalidFiles (errors : String)
  /-- A polling run failed, and polling goes on. -/
  | pollFailed (updater : String) (fault : Fault)
  /-- Features without a reference system are taken to be in the target system. -/
  | assumedSystem (epsg : Int)
  /-- Features could not be taken to another reference system. -/
  | reprojectionFailed (target : String)
  /-- Features that are no lines were dropped. -/
  | skippedFeatures (count : Nat) (kinds : List String)
  /-- Features have no column of identifiers. -/
  | noIdentifiers (field : String)
  /-- The suffix does not tell the format. -/
  | unknownFormat (path : String)
  /-- A vector file could not be read. -/
  | loadFailed (path : String)
  /-- A vector file could not be written. -/
  | saveFailed (path : String)
  /-- An output directory is emptied. -/
  | clearing (path : String)
  /-- An output directory could not be set up. -/
  | setupFailed (path : String)
  /-- The workflow ends because a file is missing. -/
  | haltedByMissingFile (fault : Fault)
  /-- The workflow ends because of its air quality files. -/
  | haltedByInvalidData (fault : Fault)
  /-- The workflow ends because of data or settings. -/
  | haltedByValue
  deriving DecidableEq, Inhabited

namespace Notice

/-- How grave a notice is. -/
def severity : Notice → Severity
  | progress _ _ => .info
  | listRefused .. => .error
  | undecodable _ => .error
  | noiseUnreachable _ => .error
  | noiseUnavailable _ => .error
  | pollFailed _ _ => .error
  | loadFailed _ => .error
  | saveFailed _ => .error
  | reprojectionFailed _ => .error
  | setupFailed _ => .error
  | haltedByMissingFile _ => .error
  | haltedByInvalidData _ => .error
  | haltedByValue => .error
  | _ => .warning

/-- How a notice reads. -/
def text : Notice → String
  | rejected text => text
  | progress n total => s!"{n} / {total} street edges updated"
  | skippedObservations n measurement =>
    s!"Skipped {n} noise observations without location or {measurement}"
  | noObservations => "No valid noise observations, leaving edges untouched"
  | listRefused url status text => s!"Failed to list noise levels from {url}: {status} {text}"
  | undecodable url => s!"Could not decode noise levels from {url}"
  | noiseUnreachable fault => s!"Error updating noise levels: {fault.text}"
  | noiseUnavailable url => s!"Error fetching noise levels from {url}"
  | noBroker => "Noise level server url is not configured"
  | noFilesForPass => "No air quality files configured. Skipping air quality pass."
  | noFilesForPolling => "No air quality files configured"
  | missingFiles paths => s!"Air quality files {Quoted.quoteList paths} do not exist"
  | invalidFiles errors => s!"Errors {errors} in air quality files"
  | pollFailed updater fault => s!"Error in {updater} polling run: {fault.text}"
  | assumedSystem epsg => s!"Street edges have no CRS, assuming EPSG:{epsg}."
  | reprojectionFailed target => s!"Error during reprojection to {target}"
  | skippedFeatures n kinds =>
    s!"Skipping {n} features with unsupported geometry types: {Quoted.quoteList kinds}"
  | noIdentifiers field => s!"Edge ID field '{field}' not found. Using row number as ID."
  | unknownFormat path =>
    s!"Could not infer driver for {path}. Attempting save without explicit driver."
  | loadFailed path => s!"Error loading vector file {path}"
  | saveFailed path => s!"Error saving vector file to {path}"
  | clearing path => s!"Output directory {path} exists. Removing contents."
  | setupFailed path => s!"Failed to set up output directory {path}"
  | haltedByMissingFile fault =>
    s!"--- Workflow Halted: Required file not found --- \nError: {fault.text}"
  | haltedByInvalidData fault =>
    s!"--- Workflow Halted: Invalid air quality data --- \nError: {fault.text}"
  | haltedByValue => "--- Workflow Halted"

end Notice

end StreetEnv
