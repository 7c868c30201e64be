import Mathlib
import Provision.Proofs.Isolation
import Provision.Proofs.Outcome
/-!
Grant lists are sets.

The order of an account's grants and their repetitions decide nothing: not whether the account is
stored, not which role its refusal names, and not what its user may do later. Clusters that differ
in how one user's grants are listed are compared over everything that clients can ask of them, on
sessions of that user and of others.
-/

namespace Provision.Cluster

/-- The same grants, in any order and any number of times. -/
def SameGrants (grants others : List Grant) : Prop :=
  ∀ grant, grant ∈ grants ↔ grant ∈ others

structure Resembles (user twin : User) : Prop where
  password : twin.password = user.password
  grants : SameGrants user.grants twin.grants

/-- Clusters that differ in how the grants of one user are listed at most. -/
structure SameButListing (key : Key) (first second : Cluster) : Prop where
  listed : ∃ user twin, first.users.find? key = some user ∧ second.users.find? key = some twin ∧
    Resembles user twin
  users : ∀ other, other ≠ key → second.users.find? other = first.users.find? other
  collections : second.collections = first.collections
  faults : second.faults = first.faults
  openSessions : second.openSessions = first.openSessions
  writes : second.writes = first.writes

/-- A cluster with the sessions opened on it, which its clients know by their numbers. -/
structure Desk where
  cluster : Cluster
  sessions : List Session

/-- A number that was not given out stands for a session without grants. -/
def Desk.session (desk : Desk) (number : Nat) : Session :=
  desk.sessions.getD number []

def Desk.handler : Handler (Store Nat) Desk
  | .openSession scope credentials, desk =>
    match desk.cluster.openSession scope credentials with
    | (.error fault, cluster) => (.error fault, { desk with cluster })
    | (.ok session, cluster) => (.ok desk.sessions.length, ⟨cluster, desk.sessions ++ [session]⟩)
  | .call number call, desk =>
    let answered := desk.cluster.answer (desk.session number) call
    (answered.1, { desk with cluster := answered.2 })
  | .close _, desk =>
    let closed := desk.cluster.close
    (closed.1, { desk with cluster := closed.2 })

structure Desk.Alike (key : Key) (first second : Desk) : Prop where
  clusters : SameButListing key first.cluster second.cluster
  sessions : List.Forall₂ SameGrants first.sessions second.sessions

variable {cluster first second : Cluster} {key : Key} {session twin : Session}
variable {account : Account} {grants others : List Grant} {call : Call}

/-! ### What is read off a list of grants -/

theorem SameGrants.refl (grants : List Grant) : SameGrants grants grants :=
  fun _ => Iff.rfl

theorem SameGrants.holds_eq (same : SameGrants session twin) (privilege : Privilege)
    (database : String) : session.holds privilege database = twin.holds privilege database := by
  apply Bool.eq_iff_iff.2
  simp only [Session.holds, List.any_eq_true, same _]

theorem SameGrants.refusal_eq (same : SameGrants session twin) (call : Call) :
    session.refusal call = twin.refusal call := by
  simp only [Session.refusal, same.holds_eq]

theorem unknownRole_eq_some_iff {written : String} :
    unknownRole grants = some written ↔
      (∃ grant ∈ grants, grant.role ∉ builtinRoles ∧ grant.written = written) ∧
        ∀ grant ∈ grants, grant.role ∉ builtinRoles → written ≤ grant.written := by
  rw [unknownRole, Text.head?_sorted_eq_some_iff, List.forall_mem_map]
  simp [and_assoc]

theorem SameGrants.unknownRole_eq (same : SameGrants grants others) :
    unknownRole grants = unknownRole others := by
  apply Option.ext
  intro written
  simp only [unknownRole_eq_some_iff, same _]

/-! ### One operation on both clusters -/

theorem SameButListing.found (same : SameButListing key first second) (other : Key) :
    (first.users.find? other = none ∧ second.users.find? other = none) ∨
      ∃ user twin, first.users.find? other = some user ∧ second.users.find? other = some twin ∧
        Resembles user twin := by
  by_cases here : other = key
  · exact .inr (here ▸ same.listed)
  · rw [same.users other here]
    cases first.users.find? other with
    | none => exact .inl ⟨rfl, rfl⟩
    | some user => exact .inr ⟨user, user, rfl, rfl, rfl, .refl _⟩

theorem SameButListing.holds_user (same : SameButListing key first second) (other : Key) :
    second.holds (.user other) = first.holds (.user other) := by
  change (second.users.find? other).isSome = (first.users.find? other).isSome
  rcases same.found other with ⟨here, there⟩ | ⟨user, twin, here, there, -⟩
  · rw [here, there]
  · rw [here, there]
    rfl

theorem SameButListing.opened (same : SameButListing key first second) :
    SameButListing key first.opened second.opened :=
  { same with openSessions := congrArg (· + 1) same.openSessions }

theorem SameButListing.openSession (same : SameButListing key first second) (scope : String)
    (credentials : Credentials) :
    (∃ fault, first.openSession scope credentials = (.error fault, first) ∧
      second.openSession scope credentials = (.error fault, second)) ∨
    ∃ session twin, first.openSession scope credentials = (.ok session, first.opened) ∧
      second.openSession scope credentials = (.ok twin, second.opened) ∧
      SameGrants session twin := by
  rcases same.found (scope, credentials.username) with
    ⟨here, there⟩ | ⟨user, twin, here, there, alike⟩
  · exact .inl ⟨_, openSession_refused (by simp [here]), openSession_refused (by simp [there])⟩
  · by_cases right : user.password = credentials.password
    · exact .inr ⟨user.grants, twin.grants, openSession_ok.2 ⟨user, here, right, rfl, rfl⟩,
        openSession_ok.2 ⟨twin, there, alike.password.trans right, rfl, rfl⟩, alike.grants⟩
    · exact .inl ⟨_, openSession_refused (by simp [here, right]),
        openSession_refused (by simp [there, alike.password, right])⟩

/-- The same write on both sides leaves the listing as their only difference. Whoever is created is
not the user that they list differently, as this one is there already. -/
theorem SameButListing.written {firstAfter secondAfter : Cluster}
    (same : SameButListing key first second) (one : Written first call firstAfter)
    (other : Written second call secondAfter) : SameButListing key firstAfter secondAfter := by
  have count : second.writes + 1 = first.writes + 1 := congrArg (· + 1) same.writes
  cases one with
  | @user account known absent =>
    cases other
    have elsewhere : account.key ≠ key := by
      rintro rfl
      obtain ⟨user, -, there, -⟩ := same.listed
      change (first.users.find? account.key).isSome = false at absent
      simp [there] at absent
    have kept : ∀ table : Table User,
        (table.insert account.key account.user).find? key = table.find? key :=
      fun table => table.find?_insert_of_ne elsewhere _
    constructor
    case listed => simpa only [kept] using same.listed
    case users =>
      intro other away
      rw [Table.find?_insert, Table.find?_insert, same.users other away]
    case writes => exact count
    all_goals simp only [same.collections, same.faults, same.openSessions]
  | collection =>
    cases other
    exact { same with
      collections := congrArg (Table.insert · _ []) same.collections
      writes := count }
  | @marker database collection marker =>
    cases other
    have documents : second.records database collection = first.records database collection := by
      rw [records, records, same.collections]
    have collections :
        (second.append database collection ⟨Marker.identifier, marker⟩).wrote.collections =
          (first.append database collection ⟨Marker.identifier, marker⟩).wrote.collections := by
      simp only [append, wrote, documents, same.collections]
    exact ⟨same.listed, same.users, collections, same.faults, same.openSessions, count⟩

theorem SameButListing.moves_alike (same : SameButListing key first second) (call : Call) :
    (first.execute call).1 = (second.execute call).1 ∧
      MovesAlike call first second (first.execute call).2 (second.execute call).2 := by
  have stored : ∀ other : Key,
      second.collections.find? other = first.collections.find? other :=
    fun other => congrArg (Table.find? · other) same.collections
  cases call with
  | userExists database username =>
    exact ⟨congrArg Except.ok (same.holds_user (database, username)).symm, .unchanged⟩
  | createUser account => exact execute_createUser_alike (same.holds_user account.key)
  | serverVersion => exact ⟨rfl, .unchanged⟩
  | ensureCollection | findMarker | insertMarker => exact SameFor.execute (stored _)
  | listCollections => exact SameFor.execute fun name => stored _

theorem SameButListing.execute (same : SameButListing key first second) (call : Call) :
    (first.execute call).1 = (second.execute call).1 ∧
      SameButListing key (first.execute call).2 (second.execute call).2 := by
  obtain ⟨replies, moves⟩ := same.moves_alike call
  exact ⟨replies, moves.keeps (SameButListing key) same same.written⟩

theorem SameButListing.answer (same : SameButListing key first second)
    (grants : SameGrants session twin) (call : Call) :
    (first.answer session call).1 = (second.answer twin call).1 ∧
      SameButListing key (first.answer session call).2 (second.answer twin call).2 := by
  unfold Cluster.answer
  rw [same.faults, grants.refusal_eq]
  cases first.faults call.faultPoint with
  | some fault => exact ⟨rfl, same⟩
  | none =>
    cases twin.refusal call with
    | some refusal => exact ⟨rfl, same⟩
    | none => exact same.execute call

theorem SameButListing.close (same : SameButListing key first second) :
    first.close.1 = second.close.1 ∧ SameButListing key first.close.2 second.close.2 := by
  have closed : second.openSessions - 1 = first.openSessions - 1 :=
    congrArg (· - 1) same.openSessions
  unfold Cluster.close
  rw [same.faults]
  cases first.faults .close with
  | some fault => exact ⟨rfl, same.listed, same.users, same.collections, rfl, closed, same.writes⟩
  | none => exact ⟨rfl, same.listed, same.users, same.collections, rfl, closed, same.writes⟩

/-- What is asked of two sessions with the same grants, with the replies in view, goes alike. -/
theorem SameButListing.run_alike (same : SameButListing key first second)
    (grants : SameGrants session twin) {α : Type} (body : Program Calls α) :
    let one := body.run (callsOn handler session) first
    let other := body.run (callsOn handler twin) second
    body.trace (callsOn handler session) first = body.trace (callsOn handler twin) second ∧
      one.value = other.value ∧ one.log = other.log ∧ SameButListing key one.state other.state :=
  body.asks_anything.run_alike (fun call _ _ _ alike => alike.answer grants call) same

namespace Desk

variable {one other : Desk}

theorem Alike.sameGrants (alike : Alike key one other) (number : Nat) :
    SameGrants (one.session number) (other.session number) := by
  have sessions := alike.sessions
  unfold Desk.session
  generalize one.sessions = left at sessions
  generalize other.sessions = right at sessions
  induction sessions generalizing number with
  | nil => exact .refl _
  | cons head _ ih =>
    cases number with
    | zero => exact head
    | succ number => exact ih number

theorem Alike.handler (alike : Alike key one other) (op : StoreOp Nat) :
    (Desk.handler op one).1 = (Desk.handler op other).1 ∧
      Alike key (Desk.handler op one).2 (Desk.handler op other).2 := by
  cases op with
  | openSession scope credentials =>
    rcases alike.clusters.openSession scope credentials with
      ⟨fault, here, there⟩ | ⟨session, twin, here, there, grants⟩
    · simp only [Desk.handler, here, there]
      exact ⟨trivial, alike⟩
    · simp only [Desk.handler, here, there]
      refine ⟨congrArg Except.ok alike.sessions.length_eq, alike.clusters.opened, ?_⟩
      exact List.rel_append alike.sessions (.cons grants .nil)
  | call number call =>
    obtain ⟨replies, clusters⟩ := alike.clusters.answer (alike.sameGrants number) call
    exact ⟨replies, clusters, alike.sessions⟩
  | close =>
    obtain ⟨replies, clusters⟩ := alike.clusters.close
    exact ⟨replies, clusters, alike.sessions⟩

theorem Alike.run_alike (alike : Alike key one other) {α : Type} (client : Program (Store Nat) α) :
    let ran := client.run Desk.handler one
    let again := client.run Desk.handler other
    client.trace Desk.handler one = client.trace Desk.handler other ∧
      ran.value = again.value ∧ ran.log = again.log ∧ Alike key ran.state again.state :=
  client.asks_anything.run_alike (fun op _ _ _ alike => alike.handler op) alike

end Desk

/-! ### The creation -/

theorem SameGrants.createUser (same : SameGrants account.grants grants) (cluster : Cluster) :
    (∃ refusal, cluster.createUser account = .error refusal ∧
      cluster.createUser { account with grants } = .error refusal) ∨
    ∃ made again, cluster.createUser account = .ok made ∧
      cluster.createUser { account with grants } = .ok again ∧
      Written cluster (.createUser account) made ∧
      Written cluster (.createUser { account with grants }) again := by
  have roles : unknownRole grants = unknownRole account.grants := same.unknownRole_eq.symm
  cases known : unknownRole account.grants with
  | some written =>
    refine .inl ⟨.unknownRole written, ?_, ?_⟩
    · simp only [createUser_eq, known]
    · simp only [createUser_eq, roles, known]
  | none =>
    rw [known] at roles
    cases absent : cluster.holds (.user account.key) with
    | true =>
      refine .inl ⟨.userExists account.username account.database, ?_, ?_⟩
      · simp only [createUser_eq, known]
        exact if_pos absent
      · simp only [createUser_eq, roles]
        exact if_pos absent
    | false =>
      have missing : ¬cluster.holds (.user account.key) = true := by simp [absent]
      refine .inr ⟨_, _, ?_, ?_, .user known absent, .user roles absent⟩
      · simp only [createUser_eq, known]
        exact if_neg missing
      · simp only [createUser_eq, roles]
        exact if_neg missing

theorem SameGrants.answer_createUser (same : SameGrants account.grants grants)
    (cluster : Cluster) (session : Session) :
    (∃ fault, cluster.answer session (.createUser account) = (.error fault, cluster) ∧
      cluster.answer session (.createUser { account with grants }) = (.error fault, cluster)) ∨
    ∃ made again, cluster.answer session (.createUser account) = (.ok (), made) ∧
      cluster.answer session (.createUser { account with grants }) = (.ok (), again) ∧
      Written cluster (.createUser account) made ∧
      Written cluster (.createUser { account with grants }) again := by
  have allowed : session.refusal (.createUser { account with grants }) =
      session.refusal (.createUser account) := rfl
  simp only [Cluster.answer, Call.faultPoint, allowed]
  cases cluster.faults .createUser with
  | some fault => exact .inl ⟨fault, rfl, rfl⟩
  | none =>
    cases session.refusal (.createUser account) with
    | some refusal => exact .inl ⟨refusal.fault, rfl, rfl⟩
    | none =>
      simp only [Cluster.execute]
      rcases same.createUser cluster with
        ⟨refusal, here, there⟩ | ⟨made, again, here, there, one, other⟩
      · rw [here, there]
        exact .inl ⟨refusal.fault, rfl, rfl⟩
      · rw [here, there]
        exact .inr ⟨made, again, rfl, rfl, one, other⟩

theorem SameButListing.of_created {made again : Cluster}
    (same : SameGrants account.grants grants) (one : Written cluster (.createUser account) made)
    (other : Written cluster (.createUser { account with grants }) again) :
    SameButListing account.key made again := by
  cases one
  cases other
  constructor
  case listed =>
    exact ⟨account.user, ⟨account.password, grants⟩, Table.find?_insert_self ..,
      Table.find?_insert_self .., rfl, same⟩
  case users =>
    intro other away
    calc (cluster.users.insert account.key ⟨account.password, grants⟩).find? other
      _ = cluster.users.find? other := Table.find?_insert_of_ne away.symm _ _
      _ = (cluster.users.insert account.key account.user).find? other :=
        (Table.find?_insert_of_ne away.symm _ _).symm
  all_goals rfl

theorem Written.login {made : Cluster} (written : Written cluster (.createUser account) made) :
    made.openSession account.database account.credentials = (.ok account.grants, made.opened) := by
  cases written
  exact openSession_ok.2 ⟨account.user, Table.find?_insert_self .., rfl, rfl, rfl⟩

/-- The grant that a refusal names: of the unknown ones, the one written least. -/
theorem answer_createUser_of_unknown (unfaulted : cluster.faults .createUser = none)
    (manages : session.holds .manageUsers account.database = true)
    (unknown : ∃ grant ∈ account.grants, grant.role ∉ builtinRoles) :
    ∃ named ∈ account.grants, named.role ∉ builtinRoles ∧
      (∀ grant ∈ account.grants, grant.role ∉ builtinRoles → named.written ≤ grant.written) ∧
      (cluster.answer session (.createUser account)).1 =
        .error ⟨.other, "No role named " ++ named.written⟩ := by
  have permits : cluster.Permits session (.createUser account) := ⟨unfaulted, if_pos manages⟩
  cases role : unknownRole account.grants with
  | none =>
    obtain ⟨grant, member, absent⟩ := unknown
    exact absurd (unknownRole_eq_none_iff.1 role grant member) absent
  | some written =>
    obtain ⟨⟨named, member, absent, rfl⟩, least⟩ := unknownRole_eq_some_iff.1 role
    refine ⟨named, member, absent, least, ?_⟩
    rw [answer_of_permits permits]
    simp only [Cluster.execute, createUser_eq, role]
    rfl

/-- How an account lists its grants makes no difference, neither the order nor a repetition. Two
accounts with the same grants are answered alike: what stands against one stands against the other
and leaves the cluster as it is, and of several unknown roles the refusal names the one written
least. Once they are stored, both users log in, their sessions give the same replies to whatever
they are asked, and so do all sessions that clients hold or open; what the two clusters go on to
store differs in that listing only. -/
theorem grants_are_a_set (cluster : Cluster) (session : Session) (account : Account)
    (grants : List Grant) (same : SameGrants account.grants grants) :
    let made := cluster.answer session (.createUser account)
    let again := cluster.answer session (.createUser { account with grants })
    made.1 = again.1 ∧
    (∀ fault, made.1 = .error fault → made.2 = cluster ∧ again.2 = cluster) ∧
    (cluster.faults .createUser = none → session.holds .manageUsers account.database = true →
      (∃ grant ∈ account.grants, grant.role ∉ builtinRoles) →
      ∃ named ∈ account.grants, named.role ∉ builtinRoles ∧
        (∀ grant ∈ account.grants, grant.role ∉ builtinRoles → named.written ≤ grant.written) ∧
        made.1 = .error ⟨.other, "No role named " ++ named.written⟩) ∧
    (made.1 = .ok () →
      SameButListing account.key made.2 again.2 ∧
      made.2.openSession account.database account.credentials =
        (.ok account.grants, made.2.opened) ∧
      again.2.openSession account.database account.credentials = (.ok grants, again.2.opened) ∧
      (∀ (α : Type) (body : Program Calls α),
        let one := body.run (callsOn handler account.grants) made.2.opened
        let other := body.run (callsOn handler grants) again.2.opened
        body.trace (callsOn handler account.grants) made.2.opened =
            body.trace (callsOn handler grants) again.2.opened ∧
          one.value = other.value ∧ SameButListing account.key one.state other.state) ∧
      ∀ (α : Type) (client : Program (Store Nat) α) (held : List Session),
        let one := client.run Desk.handler ⟨made.2, held⟩
        let other := client.run Desk.handler ⟨again.2, held⟩
        client.trace Desk.handler ⟨made.2, held⟩ = client.trace Desk.handler ⟨again.2, held⟩ ∧
          one.value = other.value ∧ Desk.Alike account.key one.state other.state) := by
  intro made again
  rcases same.answer_createUser cluster session with
    ⟨fault, here, there⟩ | ⟨stored, listed, here, there, one, other⟩
  · have failed : made = (.error fault, cluster) := here
    have alsoFailed : again = (.error fault, cluster) := there
    refine ⟨?_, ?_, answer_createUser_of_unknown, ?_⟩
    · rw [failed, alsoFailed]
    · intro _ _
      rw [failed, alsoFailed]
      exact ⟨rfl, rfl⟩
    · rw [failed]
      intro done
      cases done
  · have done : made = (.ok (), stored) := here
    have alsoDone : again = (.ok (), listed) := there
    have alike : SameButListing account.key stored listed := .of_created same one other
    refine ⟨?_, ?_, answer_createUser_of_unknown, ?_⟩
    · rw [done, alsoDone]
    · rw [done]
      intro _ failed
      cases failed
    · rw [done, alsoDone]
      intro _
      refine ⟨alike, one.login, other.login, ?_, ?_⟩
      · intro α body
        obtain ⟨traces, values, -, ends⟩ := alike.opened.run_alike same body
        exact ⟨traces, values, ends⟩
      · intro α client held
        have desks : Desk.Alike account.key ⟨stored, held⟩ ⟨listed, held⟩ :=
          ⟨alike, List.forall₂_same.2 fun grants _ => .refl grants⟩
        obtain ⟨traces, values, -, ends⟩ := desks.run_alike client
        exact ⟨traces, values, ends⟩

def sampleAccount (grants : List Grant) : Account :=
  ⟨"dev", "word", "app", grants⟩

def sampleCreated (grants : List Grant) : Except Fault Unit × Cluster :=
  sample.answer [⟨"root", "admin"⟩] (.createUser (sampleAccount grants))

def sampleListing : List Grant :=
  [⟨"readWrite", "app"⟩, ⟨"userAdmin", "app"⟩]

def sampleRelisting : List Grant :=
  [⟨"userAdmin", "app"⟩, ⟨"readWrite", "app"⟩, ⟨"userAdmin", "app"⟩]

/-- A user and its relisted twin log in, write, create another user and read. Of two unknown roles
it is the earlier one that a refusal names, though it is listed last. -/
theorem relisted_grants_go_unnoticed :
    let client := Program.inTurn (I := Store Nat)
      [.openSession "app" ⟨"dev", "word"⟩, .call 0 (.insertMarker "app" "notes" (.fresh "1" 5)),
        .call 0 (.createUser ⟨"eve", "pass", "app", [⟨"read", "app"⟩]⟩),
        .call 0 (.findMarker "other" "notes"), .call 0 (.listCollections "app"), .close 0]
    SameGrants sampleListing sampleRelisting ∧
      (sampleCreated sampleListing).2.userGrants "app" "dev" = some sampleListing ∧
      (sampleCreated sampleRelisting).2.userGrants "app" "dev" = some sampleRelisting ∧
      client.trace Desk.handler ⟨(sampleCreated sampleListing).2, []⟩ =
        client.trace Desk.handler ⟨(sampleCreated sampleRelisting).2, []⟩ ∧
      (sampleCreated [⟨"writer", "app"⟩, ⟨"read", "app"⟩, ⟨"author", "app"⟩]).1 =
        .error ⟨.other, "No role named author@app"⟩ := by
  intro client
  have same : SameGrants sampleListing sampleRelisting := by
    intro grant
    simp only [sampleListing, sampleRelisting, List.mem_cons, List.not_mem_nil, or_false]
    tauto
  refine ⟨same, by cbv, by cbv, ?traces, ?refused⟩
  case traces =>
    obtain ⟨-, -, -, stored⟩ := grants_are_a_set sample [⟨"root", "admin"⟩]
      (sampleAccount sampleListing) sampleRelisting same
    have created : (sampleCreated sampleListing).1 = .ok () := by cbv
    obtain ⟨-, -, -, -, clients⟩ := stored created
    exact (clients Unit client []).1
  case refused =>
    obtain ⟨-, -, naming, -⟩ := grants_are_a_set sample [⟨"root", "admin"⟩]
      (sampleAccount [⟨"writer", "app"⟩, ⟨"read", "app"⟩, ⟨"author", "app"⟩]) _ (.refl _)
    have unknown : "author" ∉ builtinRoles := by decide
    obtain ⟨named, member, unlisted, least, refused⟩ :=
      naming rfl rfl ⟨⟨"author", "app"⟩, by simp [sampleAccount], unknown⟩
    have lowest := least ⟨"author", "app"⟩ (by simp [sampleAccount]) unknown
    simp only [sampleAccount, List.mem_cons, List.not_mem_nil, or_false] at member
    rcases member with rfl | rfl | rfl
    · exact absurd lowest (by decide)
    · exact absurd unlisted (by decide)
    · exact refused

end Provision.Cluster
