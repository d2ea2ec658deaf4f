import StreetEnv.Enrichment
import StreetEnv.Proofs.Grid.Faults
import StreetEnv.Proofs.Grid.Footprint
import StreetEnv.Proofs.Grid.Reading
import StreetEnv.Proofs.Grid.Refusal
import StreetEnv.Proofs.Noise.Footprint

/-!
# What a poll finds before it reaches the graph

A poll looks at its sources first and only then, if there is something to apply, takes the graph.  A
`Finding` is what it has in its hands in between.

* `Settings.airQualityCycle_eq` and `Settings.noiseCycle_eq`: a cycle carries out its finding;
* `Finding.IsOf`: the finding of a loop keeps to the footprint of the loop, and does not end the
  process;
* `Settings.isOf_finding`: so do both loops;
* `Settings.FilesEndEarly` and `Settings.BrokerEndsEarly` list what makes a poll end before it
  reaches the graph, and `Settings.EndsEarly.change_ne` says that it does.
-/

namespace StreetEnv

open Traversal Outcome

/-! ### Loops -/

/-- The loops that refresh one graph. -/
inductive Loop where
  | airQuality | noise
  deriving DecidableEq

namespace Loop

/-- What a loop sees and writes of an edge. -/
def own : Loop → Edge → Edge
  | airQuality => Edge.muted
  | noise => Edge.unaired

/-- The loop beside a loop. -/
def other : Loop → Loop
  | airQuality => noise
  | noise => airQuality

theorem eq_other_of_ne {l l' : Loop} (h : l' ≠ l) : l' = l.other := by
  cases l <;> cases l' <;> first | rfl | exact absurd rfl h

end Loop

/-! ### Findings -/

/-- What a poll found: its notices so far, and what it will do to the graph, if it does not stop. -/
structure Finding where
  /-- The notices so far. -/
  notices : List Notice
  /-- What is to be done to the graph, if anything, or the fault that stops the poll. -/
  change : Except Fault (Option (Graph → Outcome Unit))

namespace Finding

/-- The rest of the poll. -/
def carriedOut (x : Finding) (g : Graph) : Outcome Unit :=
  match x.change with
  | .error f => .failed g x.notices f
  | .ok none => .untouched g x.notices ()
  | .ok (some change) => (change g).noting x.notices

/-- The finding belongs to a loop: it keeps to the footprint of the loop, and it does not end the
process. -/
structure IsOf (l : Loop) (x : Finding) : Prop where
  /-- It sees and writes what is the loop's own. -/
  keepsTo : KeepsTo l.own l.other.own x.carriedOut
  /-- It does not end the process. -/
  survivable : ∀ g, StopsOnly (·.endsProcess = false) (x.carriedOut g).result

variable {l : Loop}

theorem isOf_of_error (notices : List Notice) {f : Fault} (h : f.endsProcess = false) :
    IsOf l ⟨notices, .error f⟩ :=
  ⟨.const notices (.error f), fun _ => .error h⟩

theorem isOf_of_none (notices : List Notice) : IsOf l ⟨notices, .ok none⟩ :=
  ⟨.const notices (.ok ()), fun _ => .ok ()⟩

theorem isOf_of_change (notices : List Notice) {change : Graph → Outcome Unit}
    (hkeeps : KeepsTo l.own l.other.own change)
    (hstops : ∀ g, StopsOnly (·.endsProcess = false) (change g).result) :
    IsOf l ⟨notices, .ok (some change)⟩ :=
  ⟨hkeeps.noting notices, hstops⟩

theorem graph_carriedOut {x : Finding} (h : ∀ change, x.change ≠ .ok (some change)) (g : Graph) :
    (x.carriedOut g).graph = g := by
  unfold carriedOut
  split
  · rfl
  · rfl
  · next change hchange => exact absurd hchange (h change)

end Finding

/-! ### The faults of a pass of noise -/

namespace NoisePass

theorem fault_raise {threshold : Number} {sources : List NoiseSource} {e : Edge} {f : Fault}
    (h : (raise threshold sources e).fault = some f) : f = .levelNotComparable := by
  induction sources generalizing e with
  | nil => cases h
  | cons s sources ih =>
    unfold raise at h
    split at h
    · exact (Option.some.inj h).symm
    · dsimp only at h
      split at h
      · exact ih h
      · exact ih h

variable (p : NoisePass)

theorem fault_run {edges : List Edge} {f : Fault} (h : (p.run edges).fault = some f) :
    f = .levelNotComparable := by
  induction edges with
  | nil => cases h
  | cons e edges ih =>
    simp only [run] at h
    split at h
    · next f' hf =>
      cases h
      exact fault_raise hf
    · exact ih h

theorem stopsOnly_apply (r : Rounding) (g : Graph) :
    StopsOnly (·.endsProcess = false) (p.apply r g).result := by
  unfold apply
  split
  · exact .ok 0
  · dsimp only
    split
    · next f hf =>
      rw [p.fault_run hf]
      exact .error rfl
    · exact .ok _

end NoisePass

namespace Settings

variable (s : Settings) (r : Rounding) (earth : Earth)

/-! ### Cycles and their findings -/

/-- What a poll of the files finds. -/
def airQualityFinding (tree : FileTree) : Finding :=
  let paths := s.paths.airQuality
  let missing := paths.filter fun p => !tree.has p
  if missing ≠ [] then ⟨[.missingFiles (missing.map FilePath.text)], .ok none⟩
  else if paths = [] then ⟨[.noFilesForPolling], .ok none⟩
  else
    match s.loadAirQuality earth.timeline tree paths with
    | (.error f, notices) => ⟨notices, .error f⟩
    | (.ok u, notices) =>
      if u.errors ≠ "" then ⟨notices ++ [.invalidFiles u.errors], .ok none⟩
      else ⟨notices, .ok (some fun g => (u.apply r earth g).map fun _ => ())⟩

theorem airQualityCycle_eq (tree : FileTree) (g : Graph) :
    s.airQualityCycle r earth tree g = (s.airQualityFinding r earth tree).carriedOut g := by
  unfold airQualityCycle airQualityFinding
  dsimp only
  split
  · rfl
  · split
    · rfl
    · cases hload : s.loadAirQuality earth.timeline tree s.paths.airQuality with
      | mk loaded notices =>
        cases loaded with
        | error f => rfl
        | ok u =>
          dsimp only
          split
          · rfl
          · rfl

/-- What a reply from an address makes a poll of the broker find. -/
def noiseFindingAfter (url : String) (reply : Reply) : Finding :=
  match Broker.understand url reply with
  | (.error f, notices) => ⟨notices ++ [.noiseUnreachable f], .ok none⟩
  | (.ok none, notices) => ⟨notices ++ [.noiseUnavailable url], .ok none⟩
  | (.ok (some os), notices) =>
    match s.noisePass (os.map some) with
    | .error f => ⟨notices, .error f⟩
    | .ok (p, more) => ⟨notices ++ more, .ok (some fun g => (p.apply r g).map fun _ => ())⟩

/-- What a poll of the broker finds. -/
def noiseFinding (since : Option String) (b : Broker) : Finding :=
  match s.broker? with
  | none => ⟨[.noBroker], .ok none⟩
  | some url =>
    s.noiseFindingAfter r url (b.send ⟨url, Broker.parameters since, s.poll.timeout⟩).2

theorem noiseAfter_eq (url : String) (reply : Reply) (g : Graph) :
    s.noiseAfter r url reply g = (s.noiseFindingAfter r url reply).carriedOut g := by
  unfold noiseAfter noiseFindingAfter applyNoise
  cases hreply : Broker.understand url reply with
  | mk told notices =>
    cases told with
    | error f => rfl
    | ok os =>
      cases os with
      | none => rfl
      | some os =>
        cases hpass : s.noisePass (os.map some) with
        | error f => simp [hpass, Finding.carriedOut, failed, noting, Outcome.map, Except.map]
        | ok found => simp [hpass, Finding.carriedOut, noting, Outcome.map]

theorem noiseCycle_eq (since : Option String) (b : Broker) (g : Graph) :
    (s.noiseCycle r since b g).2 = (s.noiseFinding r since b).carriedOut g := by
  unfold noiseCycle noiseFinding
  cases s.broker? with
  | none => rfl
  | some url => exact s.noiseAfter_eq r url _ g

/-! ### Findings of a loop -/

theorem stopsOnly_read (timeline : Timeline) (names : GridNames) (path : FilePath)
    (stored : Option Dataset) :
    StopsOnly (·.endsProcess = false) (AirQualityFile.read timeline names path stored) := by
  intro f hf
  obtain ⟨-, s, v, -, -, -, hstops⟩ := AirQualityFile.read_eq_error_iff.1 hf
  cases hstops with
  | axis _ => rfl
  | number _ _ _ => rfl
  | texts _ _ _ => rfl

theorem stopsOnly_readAll (timeline : Timeline) (names : GridNames) (tree : FileTree)
    (paths : List FilePath) :
    StopsOnly (·.endsProcess = false) (AirQualityFile.readAll timeline names tree paths).1 := by
  induction paths with
  | nil => exact .ok []
  | cons path paths ih =>
    unfold AirQualityFile.readAll
    cases hread : AirQualityFile.read timeline names path (tree.dataset? path) with
    | error f => exact .error (stopsOnly_read timeline names path _ f hread)
    | ok found => exact ih.map _

theorem isOf_airQualityFinding (tree : FileTree) :
    (s.airQualityFinding r earth tree).IsOf .airQuality := by
  have hload : StopsOnly (·.endsProcess = false)
      (s.loadAirQuality earth.timeline tree s.paths.airQuality).1 :=
    (stopsOnly_readAll earth.timeline s.input.names tree s.paths.airQuality).map _
  unfold airQualityFinding
  dsimp only
  split
  · exact Finding.isOf_of_none _
  · split
    · exact Finding.isOf_of_none _
    · split
      · next f notices heq => exact Finding.isOf_of_error notices (hload f (by rw [heq]))
      · next u notices heq =>
        split
        · exact Finding.isOf_of_none _
        · exact Finding.isOf_of_change notices ((u.keepsTo_apply r earth).map _)
            fun g => (AirQualityUpdate.stopsOnly_apply g).map _

theorem stopsOnly_measurement (o : Observation) (name : String) :
    StopsOnly (·.endsProcess = false) (o.measurement name) := by
  unfold Observation.measurement
  split
  case h_7 => exact .error rfl
  all_goals exact .ok _

theorem stopsOnly_noisePass (os : List (Option Observation)) :
    StopsOnly (·.endsProcess = false) (s.noisePass os) := by
  have hsources : StopsOnly (·.endsProcess = false)
      (NoiseSource.ofObservations s.input.measurement os) :=
    (StopsOnly.mapM fun o _ => (stopsOnly_measurement o _).bind fun _ => .ok _).bind fun _ => .ok _
  exact hsources.bind fun _ => .ok _

theorem isOf_noiseFinding (since : Option String) (b : Broker) :
    (s.noiseFinding r since b).IsOf .noise := by
  unfold noiseFinding
  split
  · exact Finding.isOf_of_none _
  · unfold noiseFindingAfter
    split
    · exact Finding.isOf_of_none _
    · exact Finding.isOf_of_none _
    · next os notices _ =>
      split
      · next f hf => exact Finding.isOf_of_error notices (s.stopsOnly_noisePass _ f hf)
      · next p more _ =>
        exact Finding.isOf_of_change _ ((p.keepsTo_apply r).map _)
          fun g => (p.stopsOnly_apply r g).map _

/-- What the poll of a loop finds in its sources. -/
def finding (l : Loop) (src : Sources) : Finding :=
  match l with
  | .airQuality => s.airQualityFinding r earth src.files
  | .noise => s.noiseFinding r src.since src.broker

theorem isOf_finding (l : Loop) (src : Sources) : (s.finding r earth l src).IsOf l :=
  match l with
  | .airQuality => s.isOf_airQualityFinding r earth src.files
  | .noise => s.isOf_noiseFinding r src.since src.broker

/-! ### Polls that end early -/

/-- The reply of the broker to the request of a poll. -/
def reply (url : String) (src : Sources) : Reply :=
  (src.broker.send ⟨url, Broker.parameters src.since, s.poll.timeout⟩).2

/-- What makes a poll of the files end before it reaches the graph. -/
inductive FilesEndEarly (earth : Earth) (src : Sources) : Prop
  /-- A configured file is missing. -/
  | missingFile {path} (hpath : path ∈ s.paths.airQuality) (h : src.files.has path = false)
  /-- No file is configured. -/
  | noFiles (h : s.paths.airQuality = [])
  /-- Reading a configured file stops. -/
  | unreadFile {path f} (hpath : path ∈ s.paths.airQuality)
      (h : AirQualityFile.read earth.timeline s.input.names path (src.files.dataset? path) =
        .error f)
  /-- A configured file is invalid. -/
  | invalidFile {path file notices} (hpath : path ∈ s.paths.airQuality)
      (h : AirQualityFile.read earth.timeline s.input.names path (src.files.dataset? path) =
        .ok (file, notices))
      (hinvalid : file.isValid = false)

/-- What makes a poll of the broker end before it reaches the graph. -/
inductive BrokerEndsEarly (src : Sources) : Prop
  /-- No broker is configured. -/
  | noBroker (h : s.broker? = none)
  /-- The broker could not be reached. -/
  | noAnswer {url text} (hurl : s.broker? = some url) (h : s.reply url src = .failure text)
  /-- The broker refused. -/
  | refused {url status body} (hurl : s.broker? = some url)
      (h : s.reply url src = .answer status body) (hstatus : status ≠ 200)
  /-- The body of the reply makes no sense. -/
  | undecodable {url status body} (hurl : s.broker? = some url)
      (h : s.reply url src = .answer status body) (hbody : Broker.decode? body = none)

/-- The poll of a loop ends before it reaches the graph. -/
def EndsEarly (earth : Earth) (src : Sources) : Loop → Prop
  | .airQuality => s.FilesEndEarly earth src
  | .noise => s.BrokerEndsEarly src

theorem mem_of_readAll {timeline : Timeline} {names : GridNames} {tree : FileTree}
    {paths : List FilePath} {files : List AirQualityFile}
    (h : (AirQualityFile.readAll timeline names tree paths).1 = .ok files) :
    ∀ path ∈ paths, ∃ file notices,
      AirQualityFile.read timeline names path (tree.dataset? path) = .ok (file, notices) ∧
        file ∈ files := by
  induction paths generalizing files with
  | nil => exact fun path hpath => nomatch hpath
  | cons path paths ih =>
    unfold AirQualityFile.readAll at h
    cases hread : AirQualityFile.read timeline names path (tree.dataset? path) with
    | error f => simp [hread] at h
    | ok found =>
      obtain ⟨file, notices⟩ := found
      cases hrest : (AirQualityFile.readAll timeline names tree paths).1 with
      | error f => simp [hread, hrest, Except.map] at h
      | ok rest =>
        simp only [hread, hrest, Except.map, Except.ok.injEq] at h
        subst h
        refine List.forall_mem_cons.2 ⟨⟨file, notices, hread, List.mem_cons_self⟩, fun p hp => ?_⟩
        obtain ⟨file', notices', hread', hfile'⟩ := ih hrest p hp
        exact ⟨file', notices', hread', List.mem_cons_of_mem file hfile'⟩

theorem mem_of_loadAirQuality {timeline : Timeline} {tree : FileTree} {paths : List FilePath}
    {u : AirQualityUpdate} (h : (s.loadAirQuality timeline tree paths).1 = .ok u) :
    ∀ path ∈ paths, ∃ file notices,
      AirQualityFile.read timeline s.input.names path (tree.dataset? path) = .ok (file, notices) ∧
        file ∈ u.files := by
  unfold loadAirQuality at h
  cases hfiles : (AirQualityFile.readAll timeline s.input.names tree paths).1 with
  | error f => simp [hfiles, Except.map] at h
  | ok files =>
    simp only [hfiles, Except.map, Except.ok.injEq] at h
    subst h
    exact mem_of_readAll hfiles

theorem errors_ne_empty {u : AirQualityUpdate} {file : AirQualityFile} (hfile : file ∈ u.files)
    (hinvalid : file.isValid = false) (hsettled : file.IsSettled) : u.errors ≠ "" := by
  obtain htrue | ⟨text, htext, hne⟩ := hsettled
  · rw [hinvalid] at htrue
    cases htrue
  · have hmem : text ∈ u.reasons := List.mem_filterMap.2 ⟨file, hfile, htext⟩
    rw [ne_eq, AirQualityUpdate.errors_eq_empty_iff]
    rintro (hnil | hsilent)
    · rw [hnil] at hmem
      cases hmem
    · rw [hsilent] at hmem
      exact hne (List.mem_singleton.1 hmem)

/-- A poll of the files has a change in its hands only if they are all there, at least one, and all
read and valid. -/
theorem airQualityFinding_of_change {tree : FileTree} {change : Graph → Outcome Unit}
    (h : (s.airQualityFinding r earth tree).change = .ok (some change)) :
    s.paths.airQuality ≠ [] ∧ ∀ path ∈ s.paths.airQuality, tree.has path = true ∧
      ∃ file notices,
        AirQualityFile.read earth.timeline s.input.names path (tree.dataset? path) =
            .ok (file, notices) ∧
          file.isValid = true := by
  unfold airQualityFinding at h
  dsimp only at h
  split at h
  · cases h
  · next hmissing =>
    split at h
    · cases h
    · next hnil =>
      split at h
      · cases h
      · next u notices heq =>
        split at h
        · cases h
        · next herrors =>
          refine ⟨hnil, fun path hpath => ⟨?_, ?_⟩⟩
          · have hthere := List.filter_eq_nil_iff.1 (Decidable.not_not.1 hmissing) path hpath
            simpa using hthere
          · obtain ⟨file, more, hread, hfile⟩ :=
              s.mem_of_loadAirQuality (congrArg Prod.fst heq) path hpath
            refine ⟨file, more, hread, eq_true_of_ne_false fun hinvalid => herrors ?_⟩
            exact errors_ne_empty hfile hinvalid (AirQualityFile.isSettled_of_read hread).2

/-- A poll of the broker has a change in its hands only if it got observations. -/
theorem noiseFinding_of_change {src : Sources} {change : Graph → Outcome Unit}
    (h : (s.noiseFinding r src.since src.broker).change = .ok (some change)) :
    ∃ url body, s.broker? = some url ∧ s.reply url src = .answer 200 body ∧
      Broker.decode? body ≠ none := by
  unfold noiseFinding at h
  cases hurl : s.broker? with
  | none => simp [hurl] at h
  | some url =>
    simp only [hurl] at h
    change (s.noiseFindingAfter r url (s.reply url src)).change = _ at h
    cases hreply : s.reply url src with
    | failure text => simp [hreply, noiseFindingAfter, Broker.understand] at h
    | answer status body =>
      by_cases hstatus : status = 200
      · subst hstatus
        refine ⟨url, body, rfl, hreply, fun hnone => ?_⟩
        simp [hreply, noiseFindingAfter, Broker.understand, hnone] at h
      · simp [hreply, noiseFindingAfter, Broker.understand, hstatus] at h

variable {s} {src : Sources}

theorem FilesEndEarly.change_ne (h : s.FilesEndEarly earth src) (change : Graph → Outcome Unit) :
    (s.airQualityFinding r earth src.files).change ≠ .ok (some change) := by
  intro hchange
  cases h with
  | missingFile hpath hmissing =>
    obtain ⟨-, hall⟩ := s.airQualityFinding_of_change r earth hchange
    rw [(hall _ hpath).1] at hmissing
    cases hmissing
  | noFiles hnil => exact (s.airQualityFinding_of_change r earth hchange).1 hnil
  | unreadFile hpath hread =>
    obtain ⟨-, hall⟩ := s.airQualityFinding_of_change r earth hchange
    obtain ⟨-, file, notices, hread', -⟩ := hall _ hpath
    rw [hread] at hread'
    exact nomatch hread'
  | invalidFile hpath hread hinvalid =>
    obtain ⟨-, hall⟩ := s.airQualityFinding_of_change r earth hchange
    obtain ⟨-, file, notices, hread', hvalid⟩ := hall _ hpath
    rw [hread] at hread'
    obtain ⟨rfl, -⟩ := Prod.mk.inj (Except.ok.inj hread')
    rw [hinvalid] at hvalid
    cases hvalid

theorem BrokerEndsEarly.change_ne (h : s.BrokerEndsEarly src) (change : Graph → Outcome Unit) :
    (s.noiseFinding r src.since src.broker).change ≠ .ok (some change) := by
  intro hchange
  cases h with
  | noBroker hnone =>
    obtain ⟨url, body, hurl, -, -⟩ := s.noiseFinding_of_change r hchange
    rw [hnone] at hurl
    cases hurl
  | noAnswer hurl hreply =>
    obtain ⟨url, body, hurl', hreply', -⟩ := s.noiseFinding_of_change r hchange
    obtain rfl := Option.some.inj (hurl.symm.trans hurl')
    rw [hreply] at hreply'
    cases hreply'
  | refused hurl hreply hstatus =>
    obtain ⟨url, body, hurl', hreply', -⟩ := s.noiseFinding_of_change r hchange
    obtain rfl := Option.some.inj (hurl.symm.trans hurl')
    rw [hreply] at hreply'
    cases hreply'
    exact hstatus rfl
  | undecodable hurl hreply hbody =>
    obtain ⟨url, body, hurl', hreply', hdecode⟩ := s.noiseFinding_of_change r hchange
    obtain rfl := Option.some.inj (hurl.symm.trans hurl')
    rw [hreply] at hreply'
    cases hreply'
    exact hdecode hbody

/-- **A poll that ends early has no change in its hands.** -/
theorem EndsEarly.change_ne {l : Loop} (h : s.EndsEarly earth src l)
    (change : Graph → Outcome Unit) : (s.finding r earth l src).change ≠ .ok (some change) := by
  cases l with
  | airQuality => exact FilesEndEarly.change_ne r earth h change
  | noise => exact BrokerEndsEarly.change_ne r h change

end Settings

end StreetEnv
