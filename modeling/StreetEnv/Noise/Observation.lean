import StreetEnv.Fault
import StreetEnv.Geometry.Envelope
import StreetEnv.Json.Reader
import StreetEnv.Notice
import StreetEnv.Validation

/-!
# Noise observations and their broker

An `Observation` is what a sensor reports about a place: where it stands, when it listened and
several measurements of the noise.  Everything may be missing.

* `Observation.check` reads an observation from structured data;
* `Observation.coordinate?` is the place, if both ordinates are there;
* `Observation.measurement` looks up what is kept under the name of a measurement.

A `Broker` stands for a server that lists observations: it keeps the requests it was sent and the
replies it still has to give.

* `Broker.send` records a request and gives the next reply, the last one again and again;
* `Broker.list` asks for observations and decodes the reply.
-/

namespace StreetEnv

/-! ### Observations -/

/-- A measured value and its type. -/
structure Measurement where
  /-- What kind of value it is. -/
  type : Option String
  /-- The value. -/
  value : Option Number
  deriving DecidableEq, Inhabited

/-- A time in text and its type. -/
structure ObservedTime where
  /-- What kind of value it is. -/
  type : Option String
  /-- The time. -/
  value : Option String
  deriving DecidableEq, Inhabited

/-- A point by its ordinates, longitude first. -/
structure GeoPoint where
  /-- What kind of geometry it is. -/
  type : Option String
  /-- The ordinates. -/
  coordinates : Option (List (Option Number))
  deriving DecidableEq, Inhabited

/-- A place and its type. -/
structure Location where
  /-- What kind of value it is. -/
  type : Option String
  /-- The point. -/
  value : Option GeoPoint
  deriving DecidableEq, Inhabited

/-- What a sensor reports. -/
structure Observation where
  /-- Its name. -/
  id : Option String
  /-- What kind of report it is. -/
  type : Option String
  /-- Where the sensor stands. -/
  location : Option Location
  /-- When the sensor began to listen. -/
  observedFrom : Option ObservedTime
  /-- When the sensor ceased to listen. -/
  observedTo : Option ObservedTime
  /-- The equivalent level. -/
  equivalent : Option Measurement
  /-- The greatest level. -/
  greatest : Option Measurement
  /-- The level with slow weighting. -/
  slow : Option Measurement
  /-- The equivalent level of the day. -/
  equivalentDay : Option Measurement
  deriving DecidableEq, Inhabited

/-- What an observation keeps under a name: a level, or for the times a text. -/
inductive NoiseLevel where
  /-- A level. -/
  | number (x : Number)
  /-- A text, which is no level. -/
  | text (s : String)
  deriving DecidableEq, Inhabited

namespace Observation

open Check

/-- A type and a value. -/
def checkPair {α β : Type} (build : Option String → Option α → β) (names : List String)
    (check : Json → Checked α) : Json → Checked β :=
  model fun j =>
    Checked.both build (field ["type"] none (optional text) j)
      (field names none (optional check) j)

/-- A measurement. -/
def checkMeasurement : Json → Checked Measurement := checkPair Measurement.mk ["value"] float

/-- A time. -/
def checkTime : Json → Checked ObservedTime := checkPair ObservedTime.mk ["value"] text

/-- A point. -/
def checkPoint : Json → Checked GeoPoint :=
  checkPair GeoPoint.mk ["coordinates"] (list (optional float))

/-- A place. -/
def checkLocation : Json → Checked Location := checkPair Location.mk ["value"] checkPoint

/-- An observation.  The times and the measurements have two names each, of which the first is
preferred. -/
def check : Json → Checked Observation :=
  model fun j =>
    let part {α : Type} (names : List String) (c : Json → Checked α) : Checked (Option α) :=
      field names none (optional c) j
    (.ok Observation.mk : Checked _)
      |> (Checked.field · (part ["id"] text))
      |> (Checked.field · (part ["type"] text))
      |> (Checked.field · (part ["location"] checkLocation))
      |> (Checked.field · (part ["dateObservedFrom", "date_observed_from"] checkTime))
      |> (Checked.field · (part ["dateObservedTo", "date_observed_to"] checkTime))
      |> (Checked.field · (part ["LAeq", "la_eq"] checkMeasurement))
      |> (Checked.field · (part ["LAmax", "la_max"] checkMeasurement))
      |> (Checked.field · (part ["LAS", "la_s"] checkMeasurement))
      |> (Checked.field · (part ["LAeq_d", "la_eq_d"] checkMeasurement))

/-- A list of observations. -/
def checkAll : Json → Checked (List Observation) := list check

/-- Longitude and latitude of the place, if both are given. -/
def coordinate? (o : Observation) : Option Coordinate := do
  let location ← o.location
  let point ← location.value
  match ← point.coordinates with
  | some x :: some y :: _ => some ⟨x, y⟩
  | _ => none

/-- What is kept under the name of a measurement. -/
def measurement (o : Observation) (name : String) : Except Fault (Option NoiseLevel) :=
  let level (m : Option Measurement) := (m.bind (·.value)).map NoiseLevel.number
  let time (t : Option ObservedTime) := (t.bind (·.value)).map NoiseLevel.text
  match name with
  | "dateObservedFrom" => .ok (time o.observedFrom)
  | "dateObservedTo" => .ok (time o.observedTo)
  | "LAeq" => .ok (level o.equivalent)
  | "LAmax" => .ok (level o.greatest)
  | "LAS" => .ok (level o.slow)
  | "LAeq_d" => .ok (level o.equivalentDay)
  | _ => .error (.unknownMeasurement name)

end Observation

/-! ### The broker -/

/-- What a server answers. -/
inductive Reply where
  /-- A status and a body. -/
  | answer (status : Int) (body : String)
  /-- No answer, for a reason. -/
  | failure (text : String)
  deriving DecidableEq, Inhabited

/-- What a server is asked. -/
structure Request where
  /-- The address. -/
  url : String
  /-- The parameters, in order. -/
  parameters : List (String × String)
  /-- How long to wait, in seconds. -/
  timeout : Number
  deriving DecidableEq, Inhabited

/-- A server. -/
structure Broker where
  /-- The replies to come. -/
  replies : List Reply := []
  /-- The requests so far, in order. -/
  requests : List Request := []
  deriving DecidableEq, Inhabited

namespace Broker

/-- The type of the entities that are listed. -/
def entityType : String := "NoiseLevelObserved"

/-- Records a request and gives the next reply. -/
def send (b : Broker) (q : Request) : Broker × Reply :=
  let requests := b.requests ++ [q]
  match b.replies with
  | [] => (⟨[], requests⟩, .failure "refused")
  | [reply] => (⟨[reply], requests⟩, reply)
  | reply :: replies => (⟨replies, requests⟩, reply)

/-- The parameters of a request for observations changed after a time. -/
def parameters (modifiedSince : Option String) : List (String × String) :=
  ("type", entityType) :: (modifiedSince.map fun t => ("q", "dateModified>" ++ t)).toList

/-- The observations in a body, if it holds a list of them. -/
def decode? (body : String) : Option (List Observation) :=
  match (Json.read? body).map Observation.checkAll with
  | some (.ok os) => some os
  | _ => none

/-- What a reply tells: observations, a notice why there are none, or a fault. -/
def understand (url : String) : Reply → Except Fault (Option (List Observation)) × List Notice
  | .failure text => (.error (.transport url text), [])
  | .answer status body =>
    if status ≠ 200 then (.ok none, [.listRefused url status body])
    else
      match decode? body with
      | some os => (.ok (some os), [])
      | none => (.ok none, [.undecodable url])

/-- Lists observations. -/
def list (b : Broker) (url : String) (timeout : Number) (modifiedSince : Option String) :
    Broker × Except Fault (Option (List Observation)) × List Notice :=
  let (b, reply) := b.send ⟨url, parameters modifiedSince, timeout⟩
  (b, understand url reply)

end Broker

end StreetEnv
