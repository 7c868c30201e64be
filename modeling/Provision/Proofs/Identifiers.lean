import Mathlib
import Provision.Proofs.Readback
/-!
The identifier of markers stays unique in every collection.

An insertion is refused by identifier, while a look-up goes by position. The two agree where it
matters: a collection in which a look-up found nothing has no document at all, so the next insertion
succeeds and its marker is the first document from then on, whatever comes behind it.
-/

namespace Provision.Cluster

def underMarker (cluster : Cluster) (database collection : String) : Nat :=
  (cluster.records database collection).countP fun record =>
    decide (record.identifier = Marker.identifier)

/-- Whoever puts documents in himself puts them under other identifiers. -/
def Foreign (history : List Action) : Prop :=
  ∀ database collection record, .insertRaw database collection record ∈ history →
    record.identifier ≠ Marker.identifier

/-- No document comes into a collection in a history, neither directly nor through a session. -/
structure Spares (cluster : Cluster) (database collection : String) (history : List Action) :
    Prop where
  raw : ∀ record, .insertRaw database collection record ∉ history
  inserted : ∀ session marker,
    ⟨.call session (.insertMarker database collection marker), .ok ()⟩ ∉ cluster.exchanged history

variable {cluster after : Cluster} {session : Session} {database collection : String}
variable {marker : Marker} {op : StoreOp Session}

theorem holds_marker_eq (cluster : Cluster) (database collection : String) :
    cluster.holds (.marker (database, collection)) =
      decide (0 < cluster.underMarker database collection) := by
  rw [Bool.eq_iff_iff]
  simp [holds, underMarker, List.countP_pos_iff]

/-! ### Uniqueness -/

theorem handler_unique (unique : cluster.underMarker database collection ≤ 1) :
    (handler op cluster).2.underMarker database collection ≤ 1 := by
  unfold underMarker at unique ⊢
  rcases (handler_evolves cluster op).seeded database collection with same | ⟨absent, marker, added⟩
  · rwa [same]
  · have none : cluster.underMarker database collection = 0 := by
      simpa [holds_marker_eq] using absent
    unfold underMarker at none
    rw [added, List.countP_append, none]
    exact Nat.le_of_eq (by simp)

theorem underMarker_append {record : Record} (foreign : record.identifier ≠ Marker.identifier)
    (home name : String) : (cluster.append home name record).underMarker database collection =
      cluster.underMarker database collection := by
  unfold underMarker
  rw [records_of_insert rfl]
  split
  case isTrue same =>
    obtain ⟨rfl, rfl⟩ := Prod.mk.inj same
    simp [foreign]
  case isFalse => rfl

theorem after_unique {history : List Action} (foreign : Foreign history)
    (unique : cluster.underMarker database collection ≤ 1) :
    (cluster.after history).underMarker database collection ≤ 1 := by
  induction history generalizing cluster with
  | nil => exact unique
  | cons action rest ih =>
    refine ih (fun home name record later => foreign home name record (.tail _ later)) ?_
    cases action with
    | ask op => exact handler_unique unique
    | inject | clearFaults => exact unique
    | insertRaw home name record =>
      have other := foreign home name record List.mem_cons_self
      exact (underMarker_append other home name).trans_le unique

/-! ### Insertions -/

/-- The insertion of a marker succeeds exactly where there is none. -/
theorem insertMarker_answer
    (permits : cluster.Permits session (.insertMarker database collection marker)) :
    (cluster.answer session (.insertMarker database collection marker)).1 =
      if cluster.underMarker database collection = 0 then .ok ()
      else .error (Refusal.markerExists database collection).fault := by
  rw [answer_of_permits permits]
  simp only [execute, insertMarker_eq, holds_marker_eq, decide_eq_true_eq, Nat.pos_iff_ne_zero]
  by_cases none : cluster.underMarker database collection = 0
  · simp [none, settle]
  · simp [none, settle]

theorem records_of_found_nothing
    (answered : (cluster.answer session (.findMarker database collection)).1 = .ok none) :
    cluster.records database collection = [] := by
  obtain ⟨-, executed⟩ := answer_ok (Prod.ext answered rfl)
  have nothing : (cluster.documents database collection).head? = none :=
    Except.ok.inj (Prod.mk.inj executed).1
  simpa [documents] using nothing

/-! ### From a look-up to an insertion -/

theorem handler_empty (empty : cluster.records database collection = [])
    (spared : ∀ session marker, (⟨op, (handler op cluster).1⟩ : Exchange (Store Session)) ≠
      ⟨.call session (.insertMarker database collection marker), .ok ()⟩) :
    (handler op cluster).2.records database collection = [] := by
  cases op with
  | openSession scope credentials =>
    obtain ⟨-, collections, -⟩ := openSession_stored cluster scope credentials
    exact (records_congr collections database collection).trans empty
  | close session =>
    obtain ⟨-, collections, -⟩ := close_stored cluster
    exact (records_congr collections database collection).trans empty
  | call session call =>
    rcases answer_cases cluster session call with ⟨fault, answered⟩ | ⟨value, answered, -⟩ |
      ⟨value, after, answered, written⟩
    · simpa only [handler, answered] using empty
    · simpa only [handler, answered] using empty
    · simp only [handler, answered] at spared ⊢
      cases written with
      | user => exact empty
      | collection =>
        rw [records_of_insert rfl, empty]
        split <;> rfl
      | @marker home name marker =>
        have apart : (home, name) ≠ (database, collection) := by
          intro same
          obtain ⟨rfl, rfl⟩ := Prod.mk.inj same
          exact spared session marker rfl
        exact ((records_of_insert rfl database collection).trans (if_neg apart)).trans empty

theorem after_empty {history : List Action} (empty : cluster.records database collection = [])
    (spares : cluster.Spares database collection history) :
    (cluster.after history).records database collection = [] := by
  induction history generalizing cluster with
  | nil => exact empty
  | cons action rest ih =>
    have raw (record : Record) : .insertRaw database collection record ∉ rest := fun later =>
      spares.raw record (.tail _ later)
    cases action with
    | ask op =>
      have nextEmpty : (cluster.act (.ask op)).records database collection = [] := by
        refine handler_empty empty fun session marker same => ?_
        exact spares.inserted session marker (same ▸ List.mem_cons_self)
      refine ih nextEmpty ⟨raw, fun session marker later => ?_⟩
      exact spares.inserted session marker (.tail _ later)
    | inject | clearFaults => exact ih empty ⟨raw, spares.inserted⟩
    | insertRaw home name record =>
      have apart : (home, name) ≠ (database, collection) := by
        intro same
        obtain ⟨rfl, rfl⟩ := Prod.mk.inj same
        exact spares.raw record List.mem_cons_self
      have nextEmpty : (cluster.act (.insertRaw home name record)).records database collection =
          [] := ((records_of_insert rfl database collection).trans (if_neg apart)).trans empty
      exact ih nextEmpty ⟨raw, spares.inserted⟩

theorem finds_inserted {history : List Action} {reader : Session}
    (empty : cluster.records database collection = [])
    (inserted : cluster.answer session (.insertMarker database collection marker) = (.ok (), after))
    (permits : (after.after history).Permits reader (.findMarker database collection)) :
    ((after.after history).answer reader (.findMarker database collection)).1 =
      .ok (some marker) := by
  obtain ⟨-, written⟩ := answer_written rfl inserted
  cases written with
  | marker absent =>
    rw [answer_of_permits permits]
    refine congrArg Except.ok ((after_grows _ history).first ?_)
    simp [documents, records_append, empty]

/-- As long as documents are put in only under other identifiers, no collection has the identifier
of markers twice. An insertion that nothing stands against succeeds exactly where nobody has it.
After a look-up has found nothing, the next insertion succeeds unless a document came in between,
and every look-up from then on finds its marker. -/
theorem marker_identifier_is_unique :
    (∀ (scope : String) (root : Credentials) (history : List Action), Foreign history →
      ∀ database collection : String,
        ((withRoot scope root).after history).underMarker database collection ≤ 1) ∧
    (∀ (cluster : Cluster) (session : Session) (database collection : String) (marker : Marker),
      cluster.Permits session (.insertMarker database collection marker) →
        ((cluster.answer session (.insertMarker database collection marker)).1 = .ok () ↔
          cluster.underMarker database collection = 0) ∧
        (cluster.underMarker database collection ≠ 0 → ∃ fault,
          (cluster.answer session (.insertMarker database collection marker)).1 = .error fault ∧
            fault.kind = .alreadyExists)) ∧
    ∀ (cluster : Cluster) (reader : Session) (database collection : String),
      (cluster.answer reader (.findMarker database collection)).1 = .ok none →
      ∀ between, cluster.Spares database collection between →
      ∀ (writer : Session) (marker : Marker), let found := cluster.after between
        found.Permits writer (.insertMarker database collection marker) →
        ∃ seeded, found.answer writer (.insertMarker database collection marker) =
            (.ok (), seeded) ∧
          ∀ (history : List Action) (later : Session),
            (seeded.after history).Permits later (.findMarker database collection) →
            ((seeded.after history).answer later (.findMarker database collection)).1 =
              .ok (some marker) := by
  refine ⟨?_, ?_, ?_⟩
  · intro scope root history foreign database collection
    exact after_unique foreign (Nat.zero_le 1)
  · intro cluster session database collection marker permits
    rw [insertMarker_answer permits]
    by_cases none : cluster.underMarker database collection = 0
    · simp [none]
    · simp [none, Refusal.fault]
  · intro cluster reader database collection nothing between spares writer marker found permits
    have empty : found.records database collection = [] :=
      after_empty (records_of_found_nothing nothing) spares
    have none : found.underMarker database collection = 0 := by simp [underMarker, empty]
    have answered := (insertMarker_answer permits).trans (if_pos none)
    refine ⟨_, Prod.ext answered rfl, fun history later reads => ?_⟩
    exact finds_inserted empty (Prod.ext answered rfl) reads

def crowded (root : Session) (marker : Marker) : List Action :=
  let insertion := .ask (.call root (.insertMarker "app" "description" marker))
  [.insertRaw "app" "description" ⟨"note", ⟨"0.9", 1, true⟩⟩, insertion, insertion]

theorem sole_marker_is_found :
    let start := withRoot "admin" ⟨"root", "secret"⟩
    let root : Session := [⟨"root", "admin"⟩]
    let marker : Marker := ⟨"1.0", 5, false⟩
    let creation := [.ask (.call root (.ensureCollection "app" "description"))]
    (start.after (crowded root marker)).underMarker "app" "description" ≤ 1 ∧
      ∃ seeded, (start.after creation).answer root (.insertMarker "app" "description" marker) =
          (.ok (), seeded) ∧
        ((seeded.after (crowded root marker)).answer root (.findMarker "app" "description")).1 =
          .ok (some marker) := by
  intro start root marker creation
  obtain ⟨unique, -, found⟩ := marker_identifier_is_unique
  have foreign : Foreign (crowded root marker) := by
    intro database collection record member
    simp only [crowded, List.mem_cons, reduceCtorEq, List.not_mem_nil, or_false] at member
    cases member
    decide
  have nothing : (start.answer root (.findMarker "app" "description")).1 = .ok none := by cbv
  have spares : start.Spares "app" "description" creation := by
    refine ⟨by simp [creation], fun session other member => ?_⟩
    cases congrArg Exchange.op (List.mem_singleton.1 member)
  obtain ⟨seeded, inserted, finds⟩ := found start root "app" "description" nothing creation spares
    root marker ⟨by cbv, by cbv⟩
  have faultless : seeded.Faultless := by
    have kept := handler_faults (start.after creation)
      (.call root (.insertMarker "app" "description" marker))
    simp only [handler, inserted] at kept
    exact kept.trans (after_faultless rfl (by simp [Calm, creation]))
  have later : (seeded.after (crowded root marker)).Faultless :=
    after_faultless faultless (by simp [Calm, crowded])
  refine ⟨unique "admin" ⟨"root", "secret"⟩ _ foreign "app" "description", seeded, inserted, ?_⟩
  exact finds (crowded root marker) root (.of_holds later rfl (by cbv))

end Provision.Cluster
