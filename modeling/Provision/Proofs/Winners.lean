import Mathlib
import Provision.Proofs.Race
/-!
What a race of provisioning runs comes to.

Authors are unique, so of all the runs after one user or one marker at most one wins it, and what is
stored in the end is the winner's. Runs that could each have succeeded alone all succeed together.
-/

namespace Provision

def Request.seeding (request : Request) : Option Key :=
  match request.plan with
  | .skip => none
  | .seed collection _ => some (request.target, collection)

/-- All runs of a race ask for the same, each with its own stamp. -/
def Alike (base : Request) (requests : List Request) : Prop :=
  ∀ request ∈ requests, request = { base with stamp := request.stamp }

structure Reports (requests : List Request) (results : List (Except Failure Report))
    (place : Nat) (request : Request) (report : Report) : Prop where
  asked : requests[place]? = some request
  ended : results[place]? = some (.ok report)

structure Raced (requests : List Request) (results : List (Except Failure Report))
    (ended : Cluster) : Prop where
  finished : results.length = requests.length
  oneCreator : ∀ {place other request rival report answer},
    Reports requests results place request report → Reports requests results other rival answer →
      request.account.key = rival.account.key → report.user = .created → answer.user = .created →
        place = other
  created : ∀ {place request report}, Reports requests results place request report →
    report.user = .created → ended.users.find? request.account.key = some request.account.user
  oneSeeder : ∀ {place other request rival report answer},
    Reports requests results place request report → Reports requests results other rival answer →
      request.seeding = rival.seeding → report.marker = .seeded → answer.marker = .seeded →
        place = other
  seeded : ∀ {place request report}, Reports requests results place request report →
    report.marker = .seeded → ∃ collection version, request.plan = .seed collection version ∧
      ended.records request.target collection =
        [⟨Marker.identifier, .fresh version request.stamp⟩]
  stored : ∀ {place request report}, Reports requests results place request report →
    ended.hasUser request.account.database request.account.username = true
  documented : ∀ {place request report}, Reports requests results place request report →
    ∀ collection version, request.plan = .seed collection version →
      ended.records request.target collection ≠ []

def CreatedAt (results : List (Except Failure Report)) (place : Nat) : Prop :=
  ∃ report : Report, results[place]? = some (.ok report) ∧ report.user = .created

def SeededAt (results : List (Except Failure Report)) (place : Nat) : Prop :=
  ∃ report : Report, results[place]? = some (.ok report) ∧ report.marker = .seeded

/-- What a race of equals reports, by what was there at its start. -/
structure Shared (start : Cluster) (base : Request) (results : List (Except Failure Report)) :
    Prop where
  succeeded : ∀ result ∈ results, ∃ report, result = .ok report
  creator : start.hasUser base.account.database base.account.username = false →
    ∃! place, CreatedAt results place
  found : start.hasUser base.account.database base.account.username = true →
    ∀ report, .ok report ∈ results → report.user = .alreadyPresent
  skipped : base.plan = .skip → ∀ report, .ok report ∈ results → report.marker = .skipped
  seeder : ∀ collection version, base.plan = .seed collection version →
    start.records base.target collection = [] →
      (∃! place, SeededAt results place) ∧
        ∀ report, .ok report ∈ results → report.marker ≠ .skipped
  present : ∀ collection version, base.plan = .seed collection version →
    start.records base.target collection ≠ [] →
      ∀ report, .ok report ∈ results → report.marker = .alreadyPresent

namespace Cluster

open Ledger

section

variable {start : Cluster} {racers place : Nat} {ledger : Ledger}

theorem Ledger.Valid.absent_of_created {account : Account} (valid : ledger.Valid start racers)
    (claim : UserClaim account place .created ledger) :
    start.holds (.user account.key) = false :=
  (valid.authored _ _ (claim.author.2 rfl)).2.1

theorem Ledger.Valid.empty_of_seeded {database collection : String} {marker : Marker}
    (valid : ledger.Valid start racers)
    (claim : MarkerClaim database collection marker place .seeded ledger) :
    start.records database collection = [] := by
  have absent := (valid.authored _ _ (claim.author.2 rfl)).2.1
  have records := claim.own rfl
  rcases valid.evolves.seeded database collection with same | ⟨-, other, added⟩
  · simp [holds, ← same, records] at absent
  · rw [records] at added
    have lengths := congrArg List.length added
    simp only [List.length_append, List.length_cons, List.length_nil] at lengths
    exact List.eq_nil_of_length_eq_zero (by omega)

/-- A new user has a creator in the race. -/
theorem Ledger.Valid.creator {key : Key} (valid : ledger.Valid start racers)
    (absent : start.holds (.user key) = false) (there : ledger.cluster.holds (.user key) = true) :
    ∃ place, place < racers ∧ ledger.author (.user key) = some place := by
  rcases valid.attributed (.user key) (by simp) there with before | ⟨place, entry⟩
  · rw [absent] at before
    cases before
  · exact ⟨place, (valid.authored _ _ entry).1, entry⟩

theorem Ledger.Valid.seeder {database collection : String} (valid : ledger.Valid start racers)
    (empty : start.records database collection = [])
    (documented : ledger.cluster.records database collection ≠ []) :
    ∃ place, place < racers ∧ ledger.author (.marker (database, collection)) = some place := by
  have there : ledger.cluster.holds (.marker (database, collection)) = true := by
    cases marked : ledger.cluster.holds (.marker (database, collection)) with
    | true => rfl
    | false => exact absurd (valid.evolves.still_empty empty marked) documented
  rcases valid.attributed (.marker (database, collection)) (by simp) there with
    before | ⟨place, entry⟩
  · rw [holds_marker_of_empty empty] at before
    cases before
  · exact ⟨place, (valid.authored _ _ entry).1, entry⟩

end

variable {cluster : Cluster}

/-- Where a race has led, as a ledger tells it. -/
structure Told (start : Cluster) (requests : List Request) (results : List (Except Failure Report))
    (ledger : Ledger) : Prop where
  valid : ledger.Valid start requests.length
  finished : results.length = requests.length
  settled : ∀ {place request result}, requests[place]? = some request →
    results[place]? = some result →
      Settles (∃ admin, start.Admits request admin) (RunClaim request place) result ledger

theorem told_of_race (faultless : cluster.Faultless) (requests : List Request)
    (schedule : List Nat) :
    let ended := Program.runTogether handler schedule
      (requests.map (Request.provision (S := Session))) cluster
    ∃ ledger : Ledger, ended.state = ledger.cluster ∧ Told cluster requests ended.value ledger := by
  intro ended
  let post : Nat → Except Failure Report → Ledger → Prop := fun place result ledger =>
    ∀ request, requests[place]? = some request →
      Settles (∃ admin, cluster.Admits request admin) (RunClaim request place) result ledger
  have upholds : ∀ place program,
      (requests.map (Request.provision (S := Session)))[place]? = some program →
        (racing cluster requests.length).Upholds post place program (blank cluster) := by
    intro place program standing
    rw [List.getElem?_map, Option.map_eq_some_iff] at standing
    obtain ⟨request, asked, rfl⟩ := standing
    have inside : place < requests.length := (List.getElem?_eq_some_iff.1 asked).1
    refine (provision_respects request inside faultless).weaken ?_
    intro result ledger settles other same
    obtain rfl := Option.some.inj (asked.symm.trans same)
    exact settles
  obtain ⟨ledger, valid, state, length, settled⟩ :=
    (racing cluster requests.length).runTogether_upholds schedule (blank_valid cluster _) upholds
  refine ⟨ledger, state, valid, ?_, ?_⟩
  · rw [List.length_map] at length
    exact length
  · intro place request result asked reached
    exact settled place result reached request asked

variable {requests : List Request} {results : List (Except Failure Report)} {ledger : Ledger}
variable {place : Nat} {request base : Request} {report : Report}

theorem Told.reports (told : Told cluster requests results ledger)
    (ended : results[place]? = some (.ok report)) :
    ∃ request, Reports requests results place request report := by
  have inside : place < results.length := (List.getElem?_eq_some_iff.1 ended).1
  rw [told.finished] at inside
  exact ⟨requests[place], List.getElem?_eq_getElem inside, ended⟩

theorem Told.claim (told : Told cluster requests results ledger)
    (reports : Reports requests results place request report) :
    RunClaim request place report ledger :=
  (told.settled reports.asked reports.ended).1 report rfl

theorem RunClaim.seeded (claim : RunClaim request place report ledger)
    (seeded : report.marker = .seeded) :
    ∃ collection version, request.plan = .seed collection version ∧
      MarkerClaim request.target collection (.fresh version request.stamp) place .seeded
        ledger := by
  have marker := claim.marker
  cases plan : request.plan with
  | skip =>
    rw [plan, seeded] at marker
    cases marker
  | seed collection version =>
    rw [plan, seeded] at marker
    exact ⟨collection, version, rfl, marker⟩

theorem Told.raced (told : Told cluster requests results ledger) :
    Raced requests results ledger.cluster where
  finished := told.finished
  oneCreator := by
    intro place other request rival report answer first second same created too
    have entry := (told.claim first).user.author.2 created
    have rivalEntry := (told.claim second).user.author.2 too
    rw [same, rivalEntry] at entry
    exact (Option.some.inj entry).symm
  created := by
    intro place request report reports created
    exact (told.claim reports).user.own created
  oneSeeder := by
    intro place other request rival report answer first second same seeded too
    obtain ⟨collection, version, plan, claim⟩ := (told.claim first).seeded seeded
    obtain ⟨rivalCollection, rivalVersion, rivalPlan, rivalClaim⟩ :=
      (told.claim second).seeded too
    simp only [Request.seeding, plan, rivalPlan] at same
    have entry := claim.author.2 rfl
    have rivalEntry := rivalClaim.author.2 rfl
    rw [Option.some.inj same, rivalEntry] at entry
    exact (Option.some.inj entry).symm
  seeded := by
    intro place request report reports seeded
    obtain ⟨collection, version, plan, claim⟩ := (told.claim reports).seeded seeded
    exact ⟨collection, version, plan, claim.own rfl⟩
  stored := by
    intro place request report reports
    exact (told.claim reports).user.stored
  documented := by
    intro place request report reports collection version plan
    have marker := (told.claim reports).marker
    rw [plan] at marker
    exact MarkerClaim.documented marker

theorem Told.alike (told : Told cluster requests results ledger) (alike : Alike base requests)
    (ended : results[place]? = some (.ok report)) :
    UserClaim base.account place report.user ledger ∧
      ∃ stamp, PlanClaim base.target base.plan stamp place report.marker ledger := by
  obtain ⟨request, reports⟩ := told.reports ended
  have claim := told.claim reports
  have same := alike request (List.mem_of_getElem? reports.asked)
  rw [same] at claim
  exact ⟨claim.user, _, claim.marker⟩

theorem Told.reached {admin : User} (told : Told cluster requests results ledger)
    (alike : Alike base requests) (admits : cluster.Admits base admin)
    (inside : place < requests.length) : ∃ report, results[place]? = some (.ok report) := by
  have asked : requests[place]? = some requests[place] := List.getElem?_eq_getElem inside
  have within : place < results.length := by
    rw [told.finished]
    exact inside
  have ended : results[place]? = some results[place] := List.getElem?_eq_getElem within
  have able : ∃ admin, cluster.Admits requests[place] admin := by
    rw [alike _ (List.getElem_mem inside)]
    exact ⟨admin, admits.restamped _⟩
  obtain ⟨report, same⟩ := (told.settled asked ended).2 able
  exact ⟨report, by rw [ended, same]⟩

theorem Told.marked {collection version : String} (told : Told cluster requests results ledger)
    (alike : Alike base requests) (plan : base.plan = .seed collection version)
    (ended : results[place]? = some (.ok report)) :
    ∃ stamp, MarkerClaim base.target collection (.fresh version stamp) place report.marker
      ledger := by
  obtain ⟨-, stamp, claim⟩ := told.alike alike ended
  rw [plan] at claim
  exact ⟨stamp, claim⟩

/-- A user that is new to a race of equals is created by exactly one of them. -/
theorem Told.creator {admin : User} (told : Told cluster requests results ledger)
    (alike : Alike base requests) (racing : requests ≠ []) (admits : cluster.Admits base admin)
    (absent : cluster.holds (.user base.account.key) = false) :
    ∃! place, CreatedAt results place := by
  obtain ⟨first, opening⟩ := told.reached alike admits (List.length_pos_iff.2 racing)
  have stored := (told.alike alike opening).1.stored
  obtain ⟨place, inside, entry⟩ := told.valid.creator absent stored
  obtain ⟨report, ended⟩ := told.reached alike admits inside
  refine ⟨place, ⟨report, ended, (told.alike alike ended).1.author.1 entry⟩, ?_⟩
  rintro other ⟨answer, reached, created⟩
  have rival := (told.alike alike reached).1.author.2 created
  exact Option.some.inj (rival.symm.trans entry)

theorem Told.seeder {admin : User} {collection version : String}
    (told : Told cluster requests results ledger) (alike : Alike base requests)
    (racing : requests ≠ []) (admits : cluster.Admits base admin)
    (plan : base.plan = .seed collection version)
    (empty : cluster.records base.target collection = []) :
    ∃! place, SeededAt results place := by
  obtain ⟨first, opening⟩ := told.reached alike admits (List.length_pos_iff.2 racing)
  obtain ⟨_, opener⟩ := told.marked alike plan opening
  obtain ⟨place, inside, entry⟩ := told.valid.seeder empty opener.documented
  obtain ⟨report, ended⟩ := told.reached alike admits inside
  obtain ⟨_, seeder⟩ := told.marked alike plan ended
  refine ⟨place, ⟨report, ended, seeder.author.1 entry⟩, ?_⟩
  rintro other ⟨answer, reached, seeded⟩
  obtain ⟨_, rival⟩ := told.marked alike plan reached
  exact Option.some.inj ((rival.author.2 seeded).symm.trans entry)

theorem Told.shared {admin : User} (told : Told cluster requests results ledger)
    (alike : Alike base requests) (racing : requests ≠ []) (admits : cluster.Admits base admin) :
    Shared cluster base results := by
  have placed : ∀ report : Report, .ok report ∈ results →
      ∃ place : Nat, results[place]? = some (.ok report) :=
    fun report member => List.getElem?_of_mem member
  constructor
  case succeeded =>
    intro result member
    obtain ⟨place, ended⟩ := List.getElem?_of_mem member
    have inside : place < results.length := (List.getElem?_eq_some_iff.1 ended).1
    rw [told.finished] at inside
    obtain ⟨report, same⟩ := told.reached alike admits inside
    exact ⟨report, Option.some.inj (ended.symm.trans same)⟩
  case creator => exact told.creator alike racing admits
  case found =>
    intro there report member
    obtain ⟨place, ended⟩ := placed report member
    have claim := (told.alike alike ended).1
    cases outcome : report.user with
    | alreadyPresent => rfl
    | created =>
      rw [outcome] at claim
      have absent := told.valid.absent_of_created claim
      exact absurd (there.symm.trans absent) (by simp)
  case skipped =>
    intro plan report member
    obtain ⟨place, ended⟩ := placed report member
    obtain ⟨-, stamp, claim⟩ := told.alike alike ended
    rw [plan] at claim
    exact claim
  case seeder =>
    intro collection version plan empty
    refine ⟨told.seeder alike racing admits plan empty, ?_⟩
    intro report member
    obtain ⟨place, ended⟩ := placed report member
    obtain ⟨_, claim⟩ := told.marked alike plan ended
    exact claim.done
  case present =>
    intro collection version plan documented report member
    obtain ⟨place, ended⟩ := placed report member
    obtain ⟨_, marked⟩ := told.marked alike plan ended
    cases outcome : report.marker with
    | alreadyPresent => rfl
    | skipped => exact absurd outcome marked.done
    | seeded =>
      rw [outcome] at marked
      exact absurd (told.valid.empty_of_seeded marked) documented

/-- Runs race on a cluster without faults, whatever each of them asks for and however they are
interleaved. -/
theorem racing_runs_have_one_winner (faultless : cluster.Faultless) (requests : List Request)
    (schedule : List Nat) :
    let ended := Program.runTogether handler schedule
      (requests.map (Request.provision (S := Session))) cluster
    Raced requests ended.value ended.state ∧
      ∀ (base : Request) (report : Report), requests ≠ [] → Alike base requests →
        (base.provision.run handler cluster).value = .ok report →
          Shared cluster base ended.value := by
  intro ended
  obtain ⟨ledger, state, told⟩ := told_of_race faultless requests schedule
  refine ⟨state ▸ told.raced, ?_⟩
  intro base report racing alike succeeds
  obtain ⟨admin, admits⟩ := (provision_run_iff.1 ⟨succeeds, rfl⟩).admits faultless
  exact told.shared alike racing admits

/-- Three equal runs that all look before the first of them writes. -/
theorem three_racers_have_one_winner :
    let requests := [Request.sample, { Request.sample with stamp := 6 },
      { Request.sample with stamp := 7 }]
    let ended := Program.runTogether handler [0, 1, 2, 0, 1, 2, 1, 2, 0, 1, 0, 2]
      (requests.map (Request.provision (S := Session))) sample
    Raced requests ended.value ended.state ∧ Shared sample Request.sample ended.value := by
  intro requests ended
  have race := racing_runs_have_one_winner (show sample.Faultless from rfl) requests
    [0, 1, 2, 0, 1, 2, 1, 2, 0, 1, 0, 2]
  have succeeds : (Request.sample.provision.run handler sample).value =
      .ok ⟨.created, .seeded⟩ := by cbv
  exact ⟨race.1, race.2 Request.sample _ (by simp [requests]) (by simp [Alike, requests]) succeeds⟩

end Cluster

end Provision
