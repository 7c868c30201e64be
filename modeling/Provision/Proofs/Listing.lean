import Mathlib
import Provision.Proofs.Indifference
import Provision.Proofs.Readback
import Provision.Scripted
/-!
What an inspection reports of a listing.

The names are reported as they were listed, but in ascending order, so the order of the listing is
lost on the report. On a cluster without faults an inspection succeeds for whoever may read the
target, and tells what is there.
-/

namespace Provision

/-- Two replies that are the same but for the order of a listing. -/
inductive Call.AlikeButOrder :
    (call : Call) → Except Fault call.Answer → Except Fault call.Answer → Prop
  | same {call : Call} (reply : Except Fault call.Answer) : AlikeButOrder call reply reply
  | reordered {database : String} {names others : List String} (permuted : names.Perm others) :
      AlikeButOrder (.listCollections database) (.ok names) (.ok others)

theorem readMarker_indifferent (database collection : String) (listed : List String) :
    (readMarker database collection listed).Indifferent Call.AlikeButOrder := by
  unfold readMarker
  split
  · constructor
    · intro reply other alike
      cases alike
      rfl
    · rintro (fault | marker) <;> trivial
  · trivial

theorem survey_indifferent (database collection : String) :
    (survey database collection).Indifferent Call.AlikeButOrder := by
  constructor
  · intro reply other alike
    cases alike
    rfl
  rintro (fault | version)
  · trivial
  constructor
  · intro reply other alike
    cases alike with
    | same => rfl
    | reordered permuted => simp only [Text.sorted_eq_of_perm permuted]
  rintro (fault | names)
  · trivial
  refine (readMarker_indifferent database collection (Text.sorted names)).bind ?_
  rintro (failure | marker) <;> trivial

section

variable {S T σ τ : Type} {scope : String} {admin : Credentials} {target collection : String}

theorem report_of_answers {handler : Handler (Store S) σ} {state : σ} {report : DatabaseReport}
    (ran : ((inspect scope admin target collection).run handler state).value = .ok report) :
    ∃ names, ((inspect scope admin target collection).trace handler state).filterMap
        Exchange.onSession =
          [⟨.serverVersion, .ok report.serverVersion⟩, ⟨.listCollections target, .ok names⟩] ++
            (if collection ∈ names then [⟨.findMarker target collection, .ok report.marker⟩]
              else []) ∧
      report.collections = Text.sorted names ∧ (collection ∉ names → report.marker = none) := by
  have dialogue := inspect_dialogue handler state scope admin target collection
  rw [ran] at dialogue
  generalize (inspect scope admin target collection).trace handler state = exchanges at dialogue ⊢
  cases dialogue with
  | held named session closed surveyed =>
    rw [filterMap_onSession_of_held]
    cases surveyed with
    | unnamed version names absent => exact ⟨names, by simp [absent], rfl, fun _ => rfl⟩
    | read version names named marker =>
      exact ⟨names, by simp [named], rfl, fun absent => absurd named absent⟩

/-- Inspections that are let in alike and answered alike, but for the order of the listing, end with
one result. The sessions may be of different kinds. -/
theorem inspect_alike {handler : Handler (Store S) σ} {state : σ} {other : Handler (Store T) τ}
    {start : τ}
    (opening : ∀ fault,
      ((inspect scope admin target collection).trace handler state).head? =
          some ⟨.openSession scope admin, .error fault⟩ ↔
        ((inspect scope admin target collection).trace other start).head? =
          some ⟨.openSession scope admin, .error fault⟩)
    (alike : AnsweredAlike Call.AlikeButOrder
      (((inspect scope admin target collection).trace handler state).filterMap Exchange.onSession)
      (((inspect scope admin target collection).trace other start).filterMap Exchange.onSession)) :
    ((inspect scope admin target collection).run handler state).value =
      ((inspect scope admin target collection).run other start).value := by
  by_cases named : target = ""
  · subst named
    rfl
  rw [inspect_trace named, inspect_trace named] at opening alike
  cases opened : handler (.openSession scope admin) state with
  | mk reply middle =>
  cases again : other (.openSession scope admin) start with
  | mk otherReply otherMiddle =>
  cases reply with
  | error fault =>
    rw [withSession_trace_of_refused _ _ opened] at opening
    have refused := (opening fault).1 rfl
    cases otherReply with
    | error same =>
      rw [withSession_trace_of_refused _ _ again] at refused
      cases refused
      rw [inspect_run_of_refused named opened, inspect_run_of_refused named again]
    | ok session =>
      obtain ⟨closed, traced⟩ :=
        withSession_trace_of_opened .inspect (survey target collection) again
      rw [traced] at refused
      cases refused
  | ok session =>
    obtain ⟨closed, traced⟩ :=
      withSession_trace_of_opened .inspect (survey target collection) opened
    rw [traced] at opening alike
    cases otherReply with
    | error fault =>
      rw [withSession_trace_of_refused _ _ again] at opening
      cases (opening fault).2 rfl
    | ok another =>
      -- Behind the openings nothing is left of the sessions but the calls on them.
      obtain ⟨otherClosed, otherTraced⟩ :=
        withSession_trace_of_opened .inspect (survey target collection) again
      rw [otherTraced, filterMap_onSession_of_held, filterMap_onSession_of_held] at alike
      rw [inspect_run_of_opened named opened, inspect_run_of_opened named again]
      exact (survey_indifferent target collection).value_eq _ _ _ _ alike

end

namespace Cluster

variable {cluster : Cluster} {session : Session} {scope : String} {admin : Credentials}
variable {target collection : String}

theorem documents_of_unlisted (absent : collection ∉ cluster.collections.names target) :
    cluster.documents target collection = [] := by
  have missing : cluster.collections.find? (target, collection) = none := by
    simpa [Table.mem_names_iff, Table.contains] using absent
  simp [documents, records, missing]

theorem survey_of_reader (faultless : cluster.Faultless)
    (reads : session.holds .read target = true) :
    ((survey target collection).run (callsOn handler session) cluster).value =
      .ok ⟨version, Text.sorted (cluster.collections.names target),
        (cluster.documents target collection).head?⟩ := by
  have answers (call : Call)
      (asked : call ∈ [.serverVersion, .listCollections target, .findMarker target collection]) :
      callsOn handler session call cluster = cluster.execute call :=
    answer_of_permits (permits_of_reads faultless reads asked)
  have same : collection ∈ Text.sorted (cluster.collections.names target) ↔
      collection ∈ cluster.collections.names target := (Text.sorted_perm _).mem_iff
  simp only [survey, Program.run, answers .serverVersion (by simp), execute,
    answers (.listCollections target) (by simp), readMarker, same]
  by_cases listed : collection ∈ cluster.collections.names target
  · simp only [listed, ↓reduceIte, Program.bind_perform, Program.run,
      answers (.findMarker target collection) (by simp), execute, Program.bind_done]
  · simp only [listed, ↓reduceIte, Program.bind_done, Program.run, documents_of_unlisted listed,
      List.head?_nil]

theorem survey_of_stranger (faultless : cluster.Faultless)
    (lacks : session.holds .read target = false) :
    ((survey target collection).run (callsOn handler session) cluster).value =
      .error (.ofFault "list collections" (Refusal.lacksPrivilege .read target).fault) := by
  have permits : cluster.Permits session .serverVersion := ⟨by rw [faultless], rfl⟩
  have told : callsOn handler session .serverVersion cluster = (.ok version, cluster) :=
    answer_of_permits permits
  have refused : callsOn handler session (.listCollections target) cluster =
      (.error (Refusal.lacksPrivilege .read target).fault, cluster) := by
    have unfaulted : cluster.faults (Call.listCollections target).faultPoint = none := by
      rw [faultless]
    simp [callsOn, handler, answer, unfaulted, Session.refusal, Call.needs, lacks]
  simp only [survey, Program.run, told, refused]

/-- Whoever may read the target is told what is there, and nobody else is told anything. -/
theorem inspect_ok_iff (faultless : cluster.Faultless) {report : DatabaseReport} :
    ((inspect scope admin target collection).run handler cluster).value = .ok report ↔
      target ≠ "" ∧
        (∃ user, cluster.users.find? (scope, admin.username) = some user ∧
          user.password = admin.password ∧ Session.holds user.grants .read target = true) ∧
        report = ⟨version, Text.sorted (cluster.collections.names target),
          (cluster.documents target collection).head?⟩ := by
  by_cases named : target = ""
  · subst named
    exact iff_of_false nofun fun told => told.1 rfl
  by_cases known : ∃ user, cluster.users.find? (scope, admin.username) = some user ∧
      user.password = admin.password
  · obtain ⟨user, stored, password⟩ := known
    have opened : handler (.openSession scope admin) cluster = (.ok user.grants, cluster.opened) :=
      openSession_ok.2 ⟨user, stored, password, rfl, rfl⟩
    rw [inspect_run_of_opened named opened]
    cases reads : Session.holds user.grants .read target with
    | true =>
      rw [survey_of_reader (opened_faultless faultless) reads]
      constructor
      · intro told
        exact ⟨named, ⟨user, stored, password, reads⟩, (Except.ok.inj told).symm⟩
      · rintro ⟨-, -, rfl⟩
        rfl
    | false =>
      rw [survey_of_stranger (opened_faultless faultless) reads]
      refine iff_of_false nofun ?_
      rintro ⟨-, ⟨other, again, -, allowed⟩, -⟩
      obtain rfl := Option.some.inj (stored.symm.trans again)
      rw [reads] at allowed
      cases allowed
  · rw [inspect_run_of_refused named (openSession_refused known)]
    refine iff_of_false nofun ?_
    rintro ⟨-, ⟨user, stored, password, -⟩, -⟩
    exact known ⟨user, stored, password⟩

end Cluster

/-- Over any datastore an inspection that succeeds reports the names that were listed, all of them
and no others, in ascending order, and the marker that was found if its collection is among them.
Datastores that answer alike but for the order in which they list lead to one result. On a cluster
without faults an inspection succeeds for an administrator who may read the target. Then it reports
each collection of the target once, and the first document of the marker's collection. -/
theorem inspections_report_listings :
    (∀ {S σ : Type} (handler : Handler (Store S) σ) (state : σ) (scope : String)
      (admin : Credentials) (target collection : String) (report : DatabaseReport),
      let calls := ((inspect scope admin target collection).trace handler state).filterMap
        Exchange.onSession
      ((inspect scope admin target collection).run handler state).value = .ok report →
        ∃ names, calls =
            [⟨.serverVersion, .ok report.serverVersion⟩, ⟨.listCollections target, .ok names⟩] ++
              (if collection ∈ names then [⟨.findMarker target collection, .ok report.marker⟩]
                else []) ∧
          report.collections.Perm names ∧ report.collections.Pairwise (· ≤ ·) ∧
          (collection ∉ names → report.marker = none)) ∧
    (∀ {S T σ τ : Type} (handler : Handler (Store S) σ) (state : σ)
      (other : Handler (Store T) τ) (start : τ) (scope : String) (admin : Credentials)
      (target collection : String),
      let exchanges := (inspect scope admin target collection).trace handler state
      let others := (inspect scope admin target collection).trace other start
      (∀ fault, exchanges.head? = some ⟨.openSession scope admin, .error fault⟩ ↔
        others.head? = some ⟨.openSession scope admin, .error fault⟩) →
      AnsweredAlike Call.AlikeButOrder (exchanges.filterMap Exchange.onSession)
        (others.filterMap Exchange.onSession) →
      ((inspect scope admin target collection).run handler state).value =
        ((inspect scope admin target collection).run other start).value) ∧
    ∀ cluster : Cluster, cluster.Faultless →
      ∀ (scope : String) (admin : Credentials) (target collection : String),
        let ran := (inspect scope admin target collection).run Cluster.handler cluster
        ((∃ report, ran.value = .ok report) ↔ target ≠ "" ∧
          ∃ user, cluster.users.find? (scope, admin.username) = some user ∧
            user.password = admin.password ∧
            Cluster.Session.holds user.grants .read target = true) ∧
        ∀ report, ran.value = .ok report →
          report.collections.Nodup ∧ report.collections.Pairwise (· ≤ ·) ∧
          (∀ name, name ∈ report.collections ↔ cluster.hasCollection target name = true) ∧
          report.marker = (cluster.documents target collection).head? := by
  refine ⟨?answers, ?order, ?cluster⟩
  case answers =>
    intro S σ handler state scope admin target collection report calls ran
    obtain ⟨names, asked, sorted, unmarked⟩ := report_of_answers ran
    rw [sorted]
    exact ⟨names, asked, Text.sorted_perm names, Text.pairwise_sorted names, unmarked⟩
  case order =>
    intro S T σ τ handler state other start scope admin target collection exchanges others opening
      alike
    exact inspect_alike opening alike
  case cluster =>
    intro cluster faultless scope admin target collection ran
    constructor
    · constructor
      · rintro ⟨report, told⟩
        obtain ⟨named, reader, -⟩ := (Cluster.inspect_ok_iff faultless).1 told
        exact ⟨named, reader⟩
      · rintro ⟨named, reader⟩
        exact ⟨_, (Cluster.inspect_ok_iff faultless).2 ⟨named, reader, rfl⟩⟩
    · intro report told
      obtain ⟨-, -, rfl⟩ := (Cluster.inspect_ok_iff faultless).1 told
      have listed := Text.sorted_perm (cluster.collections.names target)
      refine ⟨listed.nodup_iff.2 (cluster.collections.names_nodup target),
        Text.pairwise_sorted _, fun name => ?_, rfl⟩
      rw [listed.mem_iff, Table.mem_names_iff]
      rfl

/-- A listing, and the same in another order before a close that fails; and a cluster that holds a
marker. -/
theorem reordered_listing_is_reported :
    let program {S : Type} := inspect (S := S) "admin" ⟨"root", "secret"⟩ "app" "notes"
    let listing (names : List String) (closed : Except Fault Unit) : Playback :=
      ⟨{ listCollections := [.ok names], closing := [closed] }, []⟩
    let one := listing ["notes", "Notes"] (.ok ())
    let other := listing ["Notes", "notes"] (.error ⟨.unavailable, "gone"⟩)
    let cluster := Cluster.sample.append "app" "notes" ⟨"by-hand", .fresh "1" 5⟩
    (∃ report, (program.run Playback.handler one).value = .ok report ∧
        report.collections.Perm ["notes", "Notes"] ∧ report.collections.Pairwise (· ≤ ·)) ∧
      (program.run Playback.handler one).value = (program.run Playback.handler other).value ∧
      ∃ report, (program.run Cluster.handler cluster).value = .ok report ∧
        "notes" ∈ report.collections ∧ report.marker = some (.fresh "1" 5) := by
  intro program listing one other cluster
  obtain ⟨answers, order, clusters⟩ := inspections_report_listings
  let asked (names : List String) (closed : Except Fault Unit) : List (Exchange (Store Unit)) :=
    [⟨.openSession "admin" ⟨"root", "secret"⟩, .ok ()⟩, ⟨.call () .serverVersion, .ok "scripted"⟩,
      ⟨.call () (.listCollections "app"), .ok names⟩,
      ⟨.call () (.findMarker "app" "notes"), .ok none⟩, ⟨.close (), closed⟩]
  have first : program.trace Playback.handler one = asked ["notes", "Notes"] (.ok ()) := by
    unfold program one listing asked
    cbv
  have second : program.trace Playback.handler other =
      asked ["Notes", "notes"] (.error ⟨.unavailable, "gone"⟩) := by
    unfold program other listing asked
    cbv
  have told : (program.run Playback.handler one).value =
      .ok ⟨"scripted", ["Notes", "notes"], none⟩ := by
    unfold program one listing
    cbv
  refine ⟨⟨_, told, ?_⟩, ?_, ?_⟩
  · obtain ⟨names, calls, permuted, ascending, -⟩ := answers _ _ _ _ _ _ _ told
    rw [first] at calls
    obtain ⟨-, rest⟩ := List.cons.inj calls
    obtain ⟨listed, -⟩ := List.cons.inj rest
    cases listed
    exact ⟨permuted, ascending⟩
  · apply order Playback.handler one Playback.handler other "admin" ⟨"root", "secret"⟩ "app" "notes"
    · intro fault
      rw [first, second]
      exact Iff.rfl
    · rw [first, second]
      exact .cons (.same _) (.cons (.reordered (.swap _ _ _)) (.cons (.same _) .nil))
  · obtain ⟨succeeds, tells⟩ := clusters cluster rfl "admin" ⟨"root", "secret"⟩ "app" "notes"
    obtain ⟨report, seen⟩ := succeeds.2
      ⟨by decide, ⟨"secret", [⟨"root", "admin"⟩]⟩, rfl, rfl, by decide⟩
    obtain ⟨-, -, listed, marker⟩ := tells report seen
    have held : cluster.hasCollection "app" "notes" = true := by
      unfold cluster
      cbv
    have documented : (cluster.documents "app" "notes").head? = some (.fresh "1" 5) := by
      unfold cluster
      cbv
    exact ⟨report, seen, (listed "notes").2 held, marker.trans documented⟩

end Provision
