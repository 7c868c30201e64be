import Provision.Cluster
/-!
What an answered call can do to a cluster, and what no call ever does.

A call either changes nothing or adds one item that was not there. So users keep their passwords
and grants, and collections keep the documents they hold. Without documents from elsewhere a
collection gets a document through sessions only if it holds none under the marker's identifier.
-/

namespace Provision

inductive Item where
  | user (key : Key)
  | collection (key : Key)
  | marker (key : Key)
deriving DecidableEq

def Call.adds : Call → Option Item
  | .createUser account => some (.user (account.database, account.username))
  | .ensureCollection database collection => some (.collection (database, collection))
  | .insertMarker database collection _ => some (.marker (database, collection))
  | _ => none

def Call.LooksUp (call : Call) : Prop :=
  call.adds = none

def Account.user (account : Account) : User :=
  ⟨account.password, account.grants⟩

def Account.key (account : Account) : Key :=
  (account.database, account.username)

namespace Cluster

def holds (cluster : Cluster) : Item → Bool
  | .user key => cluster.hasUser key.1 key.2
  | .collection key => cluster.hasCollection key.1 key.2
  | .marker key => (cluster.records key.1 key.2).any fun record =>
      decide (record.identifier = Marker.identifier)

theorem createUser_eq (cluster : Cluster) (account : Account) :
    cluster.createUser account =
      match unknownRole account.grants with
      | some written => .error (.unknownRole written)
      | none =>
        if cluster.holds (.user account.key) then
          .error (.userExists account.username account.database)
        else
          .ok { cluster with
            users := cluster.users.insert account.key account.user
            writes := cluster.writes + 1 } := rfl

theorem createCollection_eq (cluster : Cluster) (database collection : String) :
    cluster.createCollection database collection =
      if cluster.holds (.collection (database, collection)) then
        .error (.collectionExists database collection)
      else .ok { cluster with
        collections := cluster.collections.insert (database, collection) []
        writes := cluster.writes + 1 } := rfl

theorem enter_of_records_ne_nil {cluster : Cluster} {database collection : String}
    (documented : cluster.records database collection ≠ []) :
    cluster.enter database collection = cluster := by
  cases found : cluster.collections.find? (database, collection) with
  | none => exact absurd (by simp [records, found]) documented
  | some held =>
    have same : cluster.records database collection = held := by simp [records, found]
    rw [enter, same, Table.insert_of_find? found]

theorem enter_records (cluster : Cluster) (database collection : String) :
    (cluster.enter database collection).records database collection =
      cluster.records database collection := by
  simp [records, enter, Table.find?_insert]

theorem enter_append (cluster : Cluster) (database collection : String) (record : Record) :
    (cluster.enter database collection).append database collection record =
      cluster.append database collection record := by
  rw [append, append, enter_records, enter, Table.insert_insert]

theorem insertMarker_eq (cluster : Cluster) (database collection : String) (marker : Marker) :
    cluster.insertMarker database collection marker = cluster.settle
      (if cluster.holds (.marker (database, collection)) then
        .error (.markerExists database collection)
      else .ok (cluster.append database collection ⟨Marker.identifier, marker⟩).wrote) := by
  have searched : ((cluster.enter database collection).records database collection).any
      (fun record => decide (record.identifier = Marker.identifier)) =
        cluster.holds (.marker (database, collection)) := by
    rw [enter_records]
    rfl
  simp only [insertMarker, searched, enter_append]
  cases there : cluster.holds (.marker (database, collection)) with
  | false => rfl
  | true =>
    have documented : cluster.records database collection ≠ [] := by
      intro empty
      simp [holds, empty] at there
    rw [enter_of_records_ne_nil documented]
    rfl

inductive Written (cluster : Cluster) : Call → Cluster → Prop
  | user {account : Account} (known : unknownRole account.grants = none)
      (absent : cluster.holds (.user account.key) = false) :
      Written cluster (.createUser account)
        { cluster with
          users := cluster.users.insert account.key account.user
          writes := cluster.writes + 1 }
  | collection {database collection : String}
      (absent : cluster.holds (.collection (database, collection)) = false) :
      Written cluster (.ensureCollection database collection)
        { cluster with
          collections := cluster.collections.insert (database, collection) []
          writes := cluster.writes + 1 }
  | marker {database collection : String} {marker : Marker}
      (absent : cluster.holds (.marker (database, collection)) = false) :
      Written cluster (.insertMarker database collection marker)
        (cluster.append database collection ⟨Marker.identifier, marker⟩).wrote

variable {cluster before middle after : Cluster}

/-- Everything an answer can be: a fault, the reply of a look-up, or the end of a write. -/
theorem answer_cases (cluster : Cluster) (session : Session) (call : Call) :
    (∃ fault, cluster.answer session call = (.error fault, cluster)) ∨
    (∃ value, cluster.answer session call = (.ok value, cluster) ∧ call.adds = none) ∨
    ∃ value after,
      cluster.answer session call = (.ok value, after) ∧ Written cluster call after := by
  unfold answer
  cases cluster.faults call.faultPoint with
  | some fault => exact .inl ⟨fault, rfl⟩
  | none =>
    cases session.refusal call with
    | some refusal => exact .inl ⟨refusal.fault, rfl⟩
    | none =>
      cases call with
      | userExists | findMarker | serverVersion | listCollections =>
        exact .inr (.inl ⟨_, rfl, rfl⟩)
      | createUser account =>
        simp only [execute, createUser_eq]
        cases known : unknownRole account.grants with
        | some written => exact .inl ⟨_, rfl⟩
        | none =>
          cases absent : cluster.holds (.user account.key) with
          | true => exact .inl ⟨_, rfl⟩
          | false => exact .inr (.inr ⟨_, _, rfl, .user known absent⟩)
      | ensureCollection database collection =>
        simp only [execute, createCollection_eq]
        cases absent : cluster.holds (.collection (database, collection)) with
        | true => exact .inl ⟨_, rfl⟩
        | false => exact .inr (.inr ⟨_, _, rfl, .collection absent⟩)
      | insertMarker database collection marker =>
        simp only [execute, insertMarker_eq]
        cases absent : cluster.holds (.marker (database, collection)) with
        | true => exact .inl ⟨_, rfl⟩
        | false => exact .inr (.inr ⟨_, _, rfl, .marker absent⟩)

theorem Written.adds {call : Call} (written : Written before call after) :
    ∃ item, call.adds = some item ∧ before.holds item = false ∧ after.holds item = true := by
  cases written with
  | user _ absent =>
    refine ⟨_, rfl, absent, ?_⟩
    simp [holds, hasUser, Table.contains, Account.key, Table.find?_insert]
  | collection absent =>
    refine ⟨_, rfl, absent, ?_⟩
    simp [holds, hasCollection, Table.contains, Table.find?_insert]
  | marker absent =>
    refine ⟨_, rfl, absent, ?_⟩
    simp [holds, records, append, wrote, Table.find?_insert]

/-- What holds both after no change and after the call's write holds after the call. -/
theorem answer_induction {call : Call} (claim : Cluster → Prop) (session : Session)
    (unchanged : claim cluster) (written : ∀ after, Written cluster call after → claim after) :
    claim (cluster.answer session call).2 := by
  rcases answer_cases cluster session call with ⟨fault, answered⟩ | ⟨value, answered, -⟩ |
    ⟨value, after, answered, wrote⟩
  · rw [answered]
    exact unchanged
  · rw [answered]
    exact unchanged
  · rw [answered]
    exact written after wrote

theorem unmoved_of_read {call : Call} (cluster : Cluster) (session : Session)
    (look : call.LooksUp) : (cluster.answer session call).2 = cluster := by
  refine answer_induction (· = cluster) session rfl ?_
  intro after written
  obtain ⟨item, adds, -⟩ := written.adds
  cases look.symm.trans adds

theorem openSession_stored (cluster : Cluster) (scope : String) (credentials : Credentials) :
    (cluster.openSession scope credentials).2.users = cluster.users ∧
      (cluster.openSession scope credentials).2.collections = cluster.collections ∧
      (cluster.openSession scope credentials).2.faults = cluster.faults := by
  unfold openSession
  cases cluster.users.find? (scope, credentials.username) with
  | none => exact ⟨rfl, rfl, rfl⟩
  | some user =>
    by_cases password : user.password = credentials.password
    · simp [password]
    · simp [password]

theorem close_stored (cluster : Cluster) :
    cluster.close.2.users = cluster.users ∧ cluster.close.2.collections = cluster.collections ∧
      cluster.close.2.faults = cluster.faults := by
  unfold close
  cases cluster.faults .close <;> exact ⟨rfl, rfl, rfl⟩

theorem answer_openSessions (cluster : Cluster) (session : Session) (call : Call) :
    (cluster.answer session call).2.openSessions = cluster.openSessions := by
  apply answer_induction (fun after => after.openSessions = cluster.openSessions) session rfl
  rintro after (- | - | -) <;> rfl

/-- What is stored stays: users as they are, documents in their place. -/
structure Grows (before after : Cluster) : Prop where
  users : ∀ key user, before.users.find? key = some user → after.users.find? key = some user
  collections : ∀ key records, before.collections.find? key = some records →
    ∃ added, after.collections.find? key = some (records ++ added)

theorem Grows.refl (cluster : Cluster) : Grows cluster cluster :=
  ⟨fun _ _ found => found, fun _ records found => ⟨[], by simpa using found⟩⟩

theorem Grows.trans (first : Grows before middle) (last : Grows middle after) :
    Grows before after where
  users := fun key user found => last.users key user (first.users key user found)
  collections := fun key records found => by
    obtain ⟨added, inMiddle⟩ := first.collections key records found
    obtain ⟨more, inAfter⟩ := last.collections key _ inMiddle
    exact ⟨added ++ more, by simpa using inAfter⟩

theorem Grows.of_stored_eq (users : after.users = before.users)
    (collections : after.collections = before.collections) : Grows before after where
  users := fun key user found => users ▸ found
  collections := fun key records found => ⟨[], by simpa [collections] using found⟩

theorem append_grows (cluster : Cluster) (database collection : String) (record : Record) :
    Grows cluster (cluster.append database collection record) where
  users := fun _ _ found => found
  collections := fun key held found => by
    simp only [append, Table.find?_insert]
    split
    case isTrue same => exact ⟨[record], by simp [records, same, found]⟩
    case isFalse => exact ⟨[], by simpa using found⟩

theorem Written.grows {call : Call} (written : Written before call after) :
    Grows before after := by
  cases written with
  | @user account _ absent =>
    refine ⟨fun key user found => ?_, fun key held found => ⟨[], by simpa using found⟩⟩
    simp only [Table.find?_insert]
    split
    case isTrue same =>
      simp [holds, hasUser, Table.contains, same, found] at absent
    case isFalse => exact found
  | @collection database collection absent =>
    refine ⟨fun _ _ found => found, fun key held found => ⟨[], ?_⟩⟩
    simp only [Table.find?_insert]
    split
    case isTrue same =>
      simp [holds, hasCollection, Table.contains, same, found] at absent
    case isFalse => simpa using found
  | @marker database collection marker _ =>
    exact (append_grows before database collection ⟨Marker.identifier, marker⟩).trans
      (.of_stored_eq rfl rfl)

theorem Written.faults {call : Call} (written : Written before call after) :
    after.faults = before.faults := by
  cases written <;> rfl

theorem Grows.hasUser (grows : Grows before after) {database username : String}
    (there : before.hasUser database username = true) :
    after.hasUser database username = true := by
  obtain ⟨user, found⟩ := Option.isSome_iff_exists.1 there
  exact Option.isSome_iff_exists.2 ⟨user, grows.users _ user found⟩

theorem Grows.hasCollection (grows : Grows before after) {database collection : String}
    (there : before.hasCollection database collection = true) :
    after.hasCollection database collection = true := by
  obtain ⟨held, found⟩ := Option.isSome_iff_exists.1 there
  obtain ⟨added, later⟩ := grows.collections _ held found
  exact Option.isSome_iff_exists.2 ⟨_, later⟩

theorem Grows.records (grows : Grows before after) (database collection : String) :
    ∃ added, after.records database collection = before.records database collection ++ added := by
  unfold Cluster.records
  cases found : before.collections.find? (database, collection) with
  | none => exact ⟨_, rfl⟩
  | some held =>
    obtain ⟨added, later⟩ := grows.collections _ held found
    exact ⟨added, by simp [later]⟩

theorem Grows.records_ne_nil (grows : Grows before after) {database collection : String}
    (documented : before.records database collection ≠ []) :
    after.records database collection ≠ [] := by
  obtain ⟨added, records⟩ := grows.records database collection
  rw [records]
  exact List.append_ne_nil_of_left_ne_nil documented added

theorem Grows.records_eq_nil (grows : Grows before after) {database collection : String}
    (empty : after.records database collection = []) :
    before.records database collection = [] := by
  obtain ⟨added, records⟩ := grows.records database collection
  rw [empty] at records
  exact (List.append_eq_nil_iff.1 records.symm).1

theorem Grows.holds (grows : Grows before after) {item : Item}
    (there : before.holds item = true) : after.holds item = true := by
  cases item with
  | user key => exact grows.hasUser there
  | collection key => exact grows.hasCollection there
  | marker key =>
    obtain ⟨added, later⟩ := grows.records key.1 key.2
    simp only [Cluster.holds, later, List.any_append, Bool.or_eq_true]
    exact .inl there

theorem Grows.absent (grows : Grows before after) {item : Item}
    (absent : after.holds item = false) : before.holds item = false := by
  cases there : before.holds item with
  | false => rfl
  | true =>
    rw [grows.holds there] at absent
    cases absent

/-- What calls alone can do: a collection gets at most one document, and that under the marker's
identifier. -/
structure Evolves (before after : Cluster) : Prop extends Grows before after where
  faults : after.faults = before.faults
  seeded : ∀ database collection,
    after.records database collection = before.records database collection ∨
      before.holds (.marker (database, collection)) = false ∧
        ∃ marker, after.records database collection =
          before.records database collection ++ [⟨Marker.identifier, marker⟩]

theorem records_congr (same : after.collections = before.collections)
    (database collection : String) :
    after.records database collection = before.records database collection := by
  unfold records
  rw [same]

theorem records_of_insert {key : Key} {held : List Record}
    (inserted : after.collections = before.collections.insert key held)
    (database collection : String) :
    after.records database collection =
      if key = (database, collection) then held else before.records database collection := by
  unfold records
  rw [inserted, Table.find?_insert]
  split <;> rfl

theorem records_append (cluster : Cluster) (database collection : String) (record : Record) :
    (cluster.append database collection record).wrote.records database collection =
      cluster.records database collection ++ [record] :=
  (records_of_insert rfl database collection).trans (if_pos rfl)

theorem Evolves.of_stored_eq (users : after.users = before.users)
    (collections : after.collections = before.collections) (faults : after.faults = before.faults) :
    Evolves before after :=
  ⟨.of_stored_eq users collections, faults, fun database collection =>
    .inl (records_congr collections database collection)⟩

theorem Evolves.refl (cluster : Cluster) : Evolves cluster cluster :=
  .of_stored_eq rfl rfl rfl

theorem Evolves.trans (first : Evolves before middle) (last : Evolves middle after) :
    Evolves before after := by
  refine ⟨first.toGrows.trans last.toGrows, last.faults.trans first.faults, ?_⟩
  intro database collection
  rcases first.seeded database collection with same | ⟨absent, marker, added⟩
  · rcases last.seeded database collection with same' | ⟨absent, marker, added⟩
    · exact .inl (same'.trans same)
    · refine .inr ⟨?_, marker, added.trans (by rw [same])⟩
      simpa only [holds, same] using absent
  · -- The first marker to come keeps every later one out.
    have there : middle.holds (.marker (database, collection)) = true := by
      simp [holds, added]
    rcases last.seeded database collection with same | ⟨missing, -⟩
    · exact .inr ⟨absent, marker, same.trans added⟩
    · rw [there] at missing
      cases missing

theorem Written.evolves {call : Call} (written : Written before call after) :
    Evolves before after := by
  refine ⟨written.grows, written.faults, ?_⟩
  intro other name
  cases written with
  | user => exact .inl (records_congr rfl other name)
  | @collection database collection absent =>
    left
    rw [records_of_insert rfl]
    split
    case isTrue same =>
      obtain ⟨rfl, rfl⟩ := Prod.mk.inj same
      have none : before.collections.find? (database, collection) = none := by
        simpa [holds, hasCollection, Table.contains] using absent
      simp [records, none]
    case isFalse => rfl
  | @marker database collection marker absent =>
    by_cases same : (database, collection) = (other, name)
    · obtain ⟨rfl, rfl⟩ := Prod.mk.inj same
      exact .inr ⟨absent, marker, records_append before database collection _⟩
    · exact .inl ((records_of_insert rfl _ _).trans (if_neg same))

theorem handler_evolves (cluster : Cluster) (op : StoreOp Session) :
    Evolves cluster (handler op cluster).2 := by
  cases op with
  | openSession scope credentials =>
    obtain ⟨users, collections, faults⟩ := openSession_stored cluster scope credentials
    exact .of_stored_eq users collections faults
  | call session asked =>
    exact answer_induction (Evolves cluster) session (.refl cluster) fun _ => Written.evolves
  | close session =>
    obtain ⟨users, collections, faults⟩ := close_stored cluster
    exact .of_stored_eq users collections faults

theorem handler_grows (cluster : Cluster) (op : StoreOp Session) :
    Grows cluster (handler op cluster).2 :=
  (handler_evolves cluster op).toGrows

theorem handler_faults (cluster : Cluster) (op : StoreOp Session) :
    (handler op cluster).2.faults = cluster.faults :=
  (handler_evolves cluster op).faults

end Cluster

end Provision
