import Provision.Orchestration
import Provision.Proofs.Alone
import Provision.Proofs.Dialogue
/-!
What an inspection asks of a datastore, and that it leaves a cluster as it was.

The replies settle how far the look-ups go and what is reported. No look-up adds anything, and the
session is closed again, so a cluster is the same after an inspection, whatever came of it.
-/

namespace Provision

inductive SurveyDialogue (database collection : String) :
    List (Exchange Calls) → Except Failure DatabaseReport → Prop
  | unversioned (fault : Fault) :
      SurveyDialogue database collection [⟨.serverVersion, .error fault⟩]
        (.error (.ofFault "server version lookup" fault))
  | unlisted (version : String) (fault : Fault) :
      SurveyDialogue database collection
        [⟨.serverVersion, .ok version⟩, ⟨.listCollections database, .error fault⟩]
        (.error (.ofFault "list collections" fault))
  | unnamed (version : String) (names : List String) (absent : collection ∉ names) :
      SurveyDialogue database collection
        [⟨.serverVersion, .ok version⟩, ⟨.listCollections database, .ok names⟩]
        (.ok ⟨version, Text.sorted names, none⟩)
  | unread (version : String) (names : List String) (named : collection ∈ names) (fault : Fault) :
      SurveyDialogue database collection
        [⟨.serverVersion, .ok version⟩, ⟨.listCollections database, .ok names⟩,
          ⟨.findMarker database collection, .error fault⟩]
        (.error (.ofFault "marker lookup" fault))
  | read (version : String) (names : List String) (named : collection ∈ names)
      (marker : Option Marker) :
      SurveyDialogue database collection
        [⟨.serverVersion, .ok version⟩, ⟨.listCollections database, .ok names⟩,
          ⟨.findMarker database collection, .ok marker⟩]
        (.ok ⟨version, Text.sorted names, marker⟩)

inductive InspectionDialogue {S : Type} (scope : String) (admin : Credentials)
    (target collection : String) : List (Exchange (Store S)) → Except Failure DatabaseReport → Prop
  | nameless (empty : target = "") :
      InspectionDialogue scope admin target collection []
        (.error (.input "target database name must not be empty"))
  | refused (named : target ≠ "") (fault : Fault) :
      InspectionDialogue scope admin target collection
        [⟨.openSession scope admin, .error fault⟩] (.error (adminRefused scope fault))
  | held (named : target ≠ "") (session : S) (closed : Except Fault Unit)
      {calls : List (Exchange Calls)} {result : Except Failure DatabaseReport}
      (surveyed : SurveyDialogue target collection calls result) :
      InspectionDialogue scope admin target collection
        (⟨.openSession scope admin, .ok session⟩ ::
          (Program.exchangesOn session calls ++ [⟨.close session, closed⟩])) result

theorem survey_dialogue {σ : Type} (handler : Handler Calls σ) (state : σ)
    (database collection : String) :
    SurveyDialogue database collection ((survey database collection).trace handler state)
      ((survey database collection).run handler state).value := by
  simp only [survey, Program.trace, Program.run]
  cases handler .serverVersion state with
  | mk reply asking =>
  cases reply with
  | error fault => exact .unversioned fault
  | ok version =>
    simp only [Program.trace, Program.run]
    cases handler (.listCollections database) asking with
    | mk reply listing =>
    cases reply with
    | error fault => exact .unlisted version fault
    | ok names =>
      have same : collection ∈ Text.sorted names ↔ collection ∈ names :=
        (Text.sorted_perm names).mem_iff
      by_cases named : collection ∈ names
      · simp only [readMarker, same, named, ↓reduceIte, Program.bind_perform, Program.trace,
          Program.run]
        cases handler (.findMarker database collection) listing with
        | mk reply finding =>
        cases reply with
        | error fault => exact .unread version names named fault
        | ok marker => exact .read version names named marker
      · simp only [readMarker, same, named, ↓reduceIte, Program.bind_done, Program.trace,
          Program.run]
        exact .unnamed version names named

theorem readMarker_asks (database collection : String) (listed : List String) :
    (readMarker database collection listed).Asks Call.LooksUp := by
  unfold readMarker
  split
  · refine ⟨rfl, ?_⟩
    rintro (fault | marker) <;> trivial
  · trivial

theorem survey_asks (database collection : String) :
    (survey database collection).Asks Call.LooksUp := by
  refine ⟨rfl, ?_⟩
  rintro (fault | version)
  · trivial
  refine ⟨rfl, ?_⟩
  rintro (fault | names)
  · trivial
  refine (readMarker_asks database collection (Text.sorted names)).bind ?_
  rintro (failure | marker) <;> trivial

section

variable {S σ : Type} {handler : Handler (Store S) σ} {state middle : σ} {scope : String}
variable {admin : Credentials} {target collection : String}

theorem inspect_of_nameless : inspect (S := S) scope admin "" collection =
    .done (.error (.input "target database name must not be empty")) := rfl

theorem inspect_of_named (named : target ≠ "") :
    inspect (S := S) scope admin target collection =
      (withSession .inspect scope admin (survey target collection)).bind fun
        | .error fault => .done (.error (adminRefused scope fault))
        | .ok result => .done result :=
  if_neg (by simpa using named)

theorem inspect_run_of_refused (named : target ≠ "") {fault : Fault}
    (refused : handler (.openSession scope admin) state = (.error fault, middle)) :
    ((inspect scope admin target collection).run handler state).value =
      .error (adminRefused scope fault) := by
  simp only [inspect_of_named named, Program.run_bind, withSession_run_of_refused _ _ refused,
    Program.run]

theorem inspect_run_of_opened (named : target ≠ "") {session : S}
    (opened : handler (.openSession scope admin) state = (.ok session, middle)) :
    ((inspect scope admin target collection).run handler state).value =
      ((survey target collection).run (callsOn handler session) middle).value := by
  obtain ⟨value, -⟩ := withSession_run_of_opened .inspect (survey target collection) opened
  simp only [inspect_of_named named, Program.run_bind, value, Program.run]

theorem inspect_trace (named : target ≠ "") (handler : Handler (Store S) σ) (state : σ) :
    (inspect scope admin target collection).trace handler state =
      (withSession .inspect scope admin (survey target collection)).trace handler state := by
  rw [inspect_of_named named]
  refine Program.trace_bind_of_quiet ?_ state
  rintro (fault | result) state <;> rfl

theorem inspect_dialogue (handler : Handler (Store S) σ) (state : σ) (scope : String)
    (admin : Credentials) (target collection : String) :
    InspectionDialogue scope admin target collection
      ((inspect scope admin target collection).trace handler state)
      ((inspect scope admin target collection).run handler state).value := by
  by_cases named : target = ""
  · subst named
    exact .nameless rfl
  rw [inspect_trace named]
  cases opened : handler (.openSession scope admin) state with
  | mk opening middle =>
  cases opening with
  | error fault =>
    rw [withSession_trace_of_refused _ _ opened, inspect_run_of_refused named opened]
    exact .refused named fault
  | ok session =>
    obtain ⟨closed, traced⟩ :=
      withSession_trace_of_opened .inspect (survey target collection) opened
    rw [traced, inspect_run_of_opened named opened]
    exact .held named session closed (survey_dialogue _ middle target collection)

theorem status_trace (settings : Settings) (stamp : Int64) (handler : Handler (Store S) σ)
    (state : σ) :
    (settings.orchestrate .status stamp).trace handler state =
      (inspect settings.server.adminDatabase settings.server.admin settings.target
        settings.markerCollection).trace handler state := by
  refine Program.trace_bind_of_quiet ?_ state
  rintro (failure | report) state <;> rfl

end

namespace Cluster

theorem inspect_state (scope : String) (admin : Credentials) (target collection : String)
    (cluster : Cluster) :
    ((inspect scope admin target collection).run handler cluster).state = cluster := by
  by_cases named : target = ""
  · rw [named, inspect_of_nameless]
    rfl
  simp only [inspect_of_named named, Program.run_bind]
  have kept := withSession_of_reads (survey_asks target collection) .inspect scope admin cluster
  rcases ((withSession .inspect scope admin (survey target collection)).run handler cluster).value
    with fault | result <;> exact kept

theorem status_state (settings : Settings) (stamp : Int64) (cluster : Cluster) :
    ((settings.orchestrate .status stamp).run handler cluster).state = cluster := by
  have kept := inspect_state settings.server.adminDatabase settings.server.admin settings.target
    settings.markerCollection cluster
  simp only [Settings.orchestrate, Settings.status, Program.run_bind]
  rcases ((inspect settings.server.adminDatabase settings.server.admin settings.target
    settings.markerCollection).run handler cluster).value with failure | report <;> exact kept

end Cluster

theorem SurveyDialogue.ops_prefix {database collection : String} {calls : List (Exchange Calls)}
    {result : Except Failure DatabaseReport}
    (dialogue : SurveyDialogue database collection calls result) :
    calls.map Exchange.op <+:
      [.serverVersion, .listCollections database, .findMarker database collection] := by
  cases dialogue with
  | unversioned => exact ⟨[.listCollections database, .findMarker database collection], rfl⟩
  | unlisted | unnamed => exact ⟨[.findMarker database collection], rfl⟩
  | unread | read => exact List.prefix_rfl

theorem SurveyDialogue.looksUp {database collection : String} {calls : List (Exchange Calls)}
    {result : Except Failure DatabaseReport}
    (dialogue : SurveyDialogue database collection calls result) {exchange : Exchange Calls}
    (member : exchange ∈ calls) : exchange.op.LooksUp := by
  have asked : exchange.op ∈
      [.serverVersion, .listCollections database, .findMarker database collection] :=
    dialogue.ops_prefix.subset (List.mem_map_of_mem member)
  simp only [List.mem_cons, List.not_mem_nil, or_false] at asked
  rcases asked with same | same | same <;> rw [same] <;> rfl

theorem InspectionDialogue.looksUp {S : Type} {scope : String} {admin : Credentials}
    {target collection : String} {exchanges : List (Exchange (Store S))}
    {result : Except Failure DatabaseReport}
    (dialogue : InspectionDialogue scope admin target collection exchanges result)
    {exchange : Exchange Calls} (member : exchange ∈ exchanges.filterMap Exchange.onSession) :
    exchange.op.LooksUp := by
  cases dialogue with
  | nameless | refused => cases member
  | @held named session closed calls result surveyed =>
    have asked : exchange ∈ calls := by
      rwa [filterMap_onSession_of_held] at member
    exact surveyed.looksUp asked

/-- Over any datastore an inspection opens at most one session, makes its look-ups there in their
order, up to the first that fails, and closes it; it adds nothing, and the command that inspects
asks for nothing else. A cluster is the same afterwards, with its faults and its count of sessions,
whatever came of the inspection. -/
theorem inspections_change_nothing :
    (∀ {S σ : Type} (handler : Handler (Store S) σ) (state : σ) (scope : String)
      (admin : Credentials) (target collection : String),
      let exchanges := (inspect scope admin target collection).trace handler state
      InspectionDialogue scope admin target collection exchanges
          ((inspect scope admin target collection).run handler state).value ∧
        ∀ exchange ∈ exchanges.filterMap Exchange.onSession, exchange.op.LooksUp) ∧
    (∀ {S σ : Type} (handler : Handler (Store S) σ) (state : σ) (settings : Settings)
      (stamp : Int64), (settings.orchestrate .status stamp).trace handler state =
        (inspect settings.server.adminDatabase settings.server.admin settings.target
          settings.markerCollection).trace handler state) ∧
    ∀ cluster : Cluster,
      (∀ (scope : String) (admin : Credentials) (target collection : String),
        ((inspect scope admin target collection).run Cluster.handler cluster).state = cluster) ∧
      ∀ (settings : Settings) (stamp : Int64),
        ((settings.orchestrate .status stamp).run Cluster.handler cluster).state = cluster := by
  refine ⟨?_, fun handler state settings stamp => status_trace settings stamp handler state, ?_⟩
  · intro S σ handler state scope admin target collection exchanges
    have dialogue := inspect_dialogue handler state scope admin target collection
    exact ⟨dialogue, fun exchange member => dialogue.looksUp member⟩
  · intro cluster
    exact ⟨fun scope admin target collection =>
        Cluster.inspect_state scope admin target collection cluster,
      fun settings stamp => Cluster.status_state settings stamp cluster⟩

end Provision
