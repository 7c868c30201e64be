import Mathlib
import Provision.Proofs.History
import Provision.Proofs.Up
/-!
Repeating a run that succeeded.

A step that ended well once ends well again, and writes nothing, on any cluster that has grown
since and has the same faults injected. This also covers steps that ended well only because a fault
pretended that the work was done: the same fault says so again, or the work was done meanwhile.
-/

namespace Provision

/-- What carrying out a plan reports when there is nothing left to do. -/
def MarkerPlan.repeated : MarkerPlan → MarkerOutcome
  | .skip => .skipped
  | .seed .. => .alreadyPresent

namespace Cluster

variable {cluster after later : Cluster} {session : Session}

theorem UserStep.again {account : Account} {outcome : UserOutcome}
    (step : UserStep cluster session account outcome after) (grows : Grows after later)
    (same : later.faults = cluster.faults) :
    UserStep later session account .alreadyPresent later := by
  cases step with
  | present asked there => exact .present (asked.kept same) (grows.holds there)
  | created asked permits written =>
    obtain ⟨item, adds, -, there⟩ := written.adds
    obtain rfl := Option.some.inj adds
    exact .present (asked.kept same) (grows.holds there)
  | pretended asked absent pretends =>
    cases there : later.holds (.user account.key) with
    | true => exact .present (asked.kept same) there
    | false => exact .pretended (asked.kept same) there (pretends.kept same)

theorem CollectionStep.again {database collection : String}
    (step : CollectionStep cluster session database collection after)
    (grows : Grows after later) (same : later.faults = cluster.faults) :
    CollectionStep later session database collection later := by
  cases step with
  | created permits written =>
    obtain ⟨item, adds, -, there⟩ := written.adds
    obtain rfl := Option.some.inj adds
    exact .there (permits.kept same) (grows.holds there)
  | there permits there => exact .there (permits.kept same) (grows.holds there)
  | pretended pretends => exact .pretended (pretends.kept same)

theorem MarkerStep.again {database collection : String} {marker fresh : Marker}
    {outcome : MarkerOutcome}
    (step : MarkerStep cluster session database collection marker outcome after)
    (grows : Grows after later) (same : later.faults = cluster.faults) :
    MarkerStep later session database collection fresh .alreadyPresent later := by
  cases step with
  | present asked documented => exact .present (asked.kept same) (grows.records_ne_nil documented)
  | seeded asked empty ensured permits written =>
    refine .present (asked.kept same) (grows.records_ne_nil ?_)
    cases written with
    | marker => simp [records, append, wrote, Table.find?_insert]
  | pretended asked empty ensured pretends =>
    by_cases documented : later.records database collection = []
    · exact .pretended (asked.kept same) documented (ensured.again grows same)
        (pretends.kept (same.trans ensured.faults.symm))
    · exact .present (asked.kept same) documented

theorem PlanStep.again {target : String} {plan : MarkerPlan} {stamp fresh : Int64}
    {outcome : MarkerOutcome}
    (step : PlanStep cluster session target plan stamp outcome after)
    (grows : Grows after later) (same : later.faults = cluster.faults) :
    PlanStep later session target plan fresh plan.repeated later := by
  cases plan with
  | skip => exact ⟨rfl, rfl⟩
  | seed collection version =>
    obtain ⟨named, versioned, marked⟩ := step
    exact ⟨named, versioned, marked.again grows same⟩

theorem Provisioned.again {request : Request} {report : Report}
    (done : Provisioned cluster request report after) (stamp : Int64)
    (grows : Grows after later) (same : later.faults = cluster.faults) :
    Provisioned later { request with stamp } ⟨.alreadyPresent, request.plan.repeated⟩ later := by
  have started : Grows cluster later := done.grows.trans grows
  cases done with
  | @steps admin user marker middle last stored password accepted ensured planned =>
    have lastGrows : Grows last later.opened :=
      (close_grows last).trans (grows.trans (.of_stored_eq rfl rfl))
    have userAgain : UserStep later.opened admin.grants request.account .alreadyPresent
        later.opened := ensured.again (planned.grows.trans lastGrows) same
    have planAgain : PlanStep later.opened admin.grants request.target request.plan stamp
        request.plan.repeated later.opened :=
      planned.again lastGrows (same.trans ensured.faults.symm)
    have ended : later.opened.close.2 = later := close_opened later
    have repeated : Provisioned later { request with stamp }
        ⟨.alreadyPresent, request.plan.repeated⟩ later.opened.close.2 :=
      .steps (started.users _ _ stored) password accepted userAgain planAgain
    rwa [ended] at repeated

theorem provision_again {request : Request} {report : Report} (stamp : Int64)
    (ran : (request.provision.run handler cluster).value = .ok report)
    (grows : Grows (request.provision.run handler cluster).state later)
    (same : later.faults = (request.provision.run handler cluster).state.faults) :
    (({ request with stamp } : Request).provision.run handler later).value =
        .ok ⟨.alreadyPresent, request.plan.repeated⟩ ∧
      (({ request with stamp } : Request).provision.run handler later).state = later := by
  have done := provision_run_iff.1 ⟨ran, rfl⟩
  exact provision_run_iff.2 (done.again stamp grows (same.trans done.faults))

theorem up_again {settings : Settings} {outcome : Outcome} {stamp : Int64} (fresh : Int64)
    (ran : ((settings.up stamp).run handler cluster).value = .ok outcome)
    (grows : Grows ((settings.up stamp).run handler cluster).state later)
    (same : later.faults = ((settings.up stamp).run handler cluster).state.faults) :
    ((settings.up fresh).run handler later).value =
        .ok (.provisioned ⟨.alreadyPresent, settings.plan.repeated⟩) ∧
      ((settings.up fresh).run handler later).state = later := by
  obtain ⟨reached, succeeds⟩ := up_run settings stamp cluster
  obtain ⟨report, first, -, checked⟩ := (succeeds outcome).1 ran
  rw [reached] at grows same
  obtain ⟨value, state⟩ := provision_again fresh first grows same
  obtain ⟨ended, again⟩ := up_run settings fresh later
  refine ⟨(again _).2 ⟨_, value, rfl, ?_⟩, ended.trans state⟩
  -- The account that could log in then is still stored, with the same password.
  rw [checkLogin_ok] at checked ⊢
  intro asked
  obtain ⟨user, stored, password⟩ := checked asked
  have found := grows.users _ user stored
  exact ⟨user, by rwa [← state] at found, password⟩

end Cluster

open Cluster

/-- A run that succeeded once succeeds again after any history that leaves the injected faults as
they were. The second run finds everything there, and the cluster is as it was before. The same goes
for the whole command, with or without the login check. -/
theorem repeated_run_writes_nothing (cluster : Cluster) (history : List Action) :
    (∀ (request : Request) (report : Report) (stamp : Int64),
      let first := request.provision.run handler cluster
      let later := first.state.after history
      let again := ({ request with stamp } : Request).provision.run handler later
      first.value = .ok report → later.faults = first.state.faults →
        again.value = .ok ⟨.alreadyPresent, request.plan.repeated⟩ ∧ again.state = later) ∧
    ∀ (settings : Settings) (outcome : Outcome) (stamp fresh : Int64),
      let first := (settings.orchestrate .up stamp).run handler cluster
      let later := first.state.after history
      let again := (settings.orchestrate .up fresh).run handler later
      first.value = .ok outcome → later.faults = first.state.faults →
        again.value = .ok (.provisioned ⟨.alreadyPresent, settings.plan.repeated⟩) ∧
          again.state = later := by
  constructor
  · intro request report stamp first later again ran same
    exact provision_again stamp ran (after_grows first.state history) same
  · intro settings outcome stamp fresh first later again ran same
    exact up_again fresh ran (after_grows first.state history) same

/-- A first run that wrote no marker, because a fault pretended that there was one, and a command
with a login check. In between the fault is gone for a while and the marker is inserted. -/
theorem repeated_run_after_pretended_marker :
    let fault : Fault := ⟨.alreadyExists, "busy"⟩
    let start := Cluster.sample.inject .insertMarker fault
    let history : List Action :=
      [.clearFaults,
        .ask (.call [⟨"root", "admin"⟩] (.insertMarker "app" "description" ⟨"2", 7, true⟩)),
        .inject .insertMarker fault]
    let first := Request.sample.provision.run handler start
    let command := (Settings.sample.orchestrate .up 5).run handler start
    (first.value = .ok ⟨.created, .alreadyPresent⟩ ∧
      (first.state.after history).faults = first.state.faults ∧
      (({ Request.sample with stamp := 9 } : Request).provision.run handler
        (first.state.after history)).state = first.state.after history) ∧
    command.value = .ok (.provisioned ⟨.created, .skipped⟩) ∧
      (command.state.after history).faults = command.state.faults ∧
      ((Settings.sample.orchestrate .up 9).run handler (command.state.after history)).value =
        .ok (.provisioned ⟨.alreadyPresent, .skipped⟩) := by
  intro fault start history first command
  have restored (cluster : Cluster) : (cluster.after history).faults = start.faults := by
    simp only [history, after, List.foldl_cons, List.foldl_nil, act, inject, handler_faults]
    rfl
  have ran : first.value = .ok ⟨.created, .alreadyPresent⟩ := by cbv
  have commanded : command.value = .ok (.provisioned ⟨.created, .skipped⟩) := by cbv
  have same : (first.state.after history).faults = first.state.faults :=
    (restored _).trans (provision_run_iff.1 ⟨ran, rfl⟩).faults.symm
  have commandSame : (command.state.after history).faults = command.state.faults := by
    obtain ⟨reached, succeeds⟩ := up_run Settings.sample 5 start
    obtain ⟨report, provisioned, -⟩ := (succeeds _).1 commanded
    exact (restored _).trans (provision_run_iff.1 ⟨provisioned, reached.symm⟩).faults.symm
  obtain ⟨runs, commands⟩ := repeated_run_writes_nothing start history
  exact ⟨⟨ran, same, (runs _ _ 9 ran same).2⟩, commanded, commandSame,
    (commands _ _ 5 9 commanded commandSame).1⟩

end Provision
