import Provision.Proofs.Admission
import Provision.Proofs.Interference
/-!
Who added what, when runs race on a cluster.

A ledger keeps, beside the cluster, the place of the run that added each item. An item has one
author at most and never changes it, because a call adds only what is not there. Each run may count
on the others to add nothing in its name.
-/

namespace Provision.Cluster

structure Ledger where
  cluster : Cluster
  author : Item → Option Nat

/-- What an operation added, going by its reply. -/
def added {S : Type} : (op : StoreOp S) → op.Reply → Option Item
  | .call _ asked, .ok _ => asked.adds
  | _, _ => none

theorem holds_of_added {cluster : Cluster} {op : StoreOp Session} {item : Item}
    (adds : added op (handler op cluster).1 = some item) :
    cluster.holds item = false ∧ (handler op cluster).2.holds item = true := by
  cases op with
  | openSession | close => simp [added] at adds
  | call session asked =>
    simp only [handler] at adds ⊢
    rcases answer_cases cluster session asked with ⟨fault, answered⟩ |
      ⟨value, answered, nothing⟩ | ⟨value, after, answered, written⟩
    · simp [added, answered] at adds
    · simp [added, answered, nothing] at adds
    · obtain ⟨other, named, absent, there⟩ := written.adds
      rw [answered] at adds ⊢
      obtain rfl := Option.some.inj (named.symm.trans adds)
      exact ⟨absent, there⟩

theorem Written.holds_of_holds {before after : Cluster} {call : Call} {item : Item}
    (written : Written before call after) (kind : ∀ key, item ≠ .collection key)
    (there : after.holds item = true) : before.holds item = true ∨ call.adds = some item := by
  cases item with
  | collection key => exact absurd rfl (kind key)
  | user key =>
    cases written with
    | @user account known absent =>
      by_cases same : account.key = key
      · exact .inr (by rw [← same]; rfl)
      · left
        simpa [holds, hasUser, Table.contains, Table.find?_insert, same] using there
    | collection | marker => exact .inl there
  | marker key =>
    cases written with
    | user => exact .inl there
    | @collection database collection absent =>
      left
      simp only [holds] at there ⊢
      rw [records_of_insert rfl] at there
      split at there
      · simp at there
      · exact there
    | @marker database collection marker absent =>
      by_cases same : (database, collection) = key
      · exact .inr (by rw [← same]; rfl)
      · left
        simp only [holds] at there ⊢
        rw [records_of_insert rfl, if_neg same] at there
        exact there

theorem added_of_holds {cluster : Cluster} {op : StoreOp Session} {item : Item}
    (kind : ∀ key, item ≠ .collection key) (there : (handler op cluster).2.holds item = true) :
    cluster.holds item = true ∨ added op (handler op cluster).1 = some item := by
  cases op with
  | openSession scope credentials =>
    left
    simp only [handler, openSession] at there
    split at there
    · exact there
    · split at there
      · cases item <;> exact there
      · exact there
  | close session =>
    left
    simp only [handler, close] at there
    cases item <;> split at there <;> exact there
  | call session asked =>
    simp only [handler] at there ⊢
    rcases answer_cases cluster session asked with ⟨fault, answered⟩ |
      ⟨value, answered, nothing⟩ | ⟨value, after, answered, written⟩
    · rw [answered] at there
      exact .inl there
    · rw [answered] at there
      exact .inl there
    · rw [answered] at there ⊢
      exact written.holds_of_holds kind there

namespace Ledger

def act (place : Nat) : Handler (Store Session) Ledger := fun op ledger =>
  let answered := handler op ledger.cluster
  (answered.1,
    { cluster := answered.2
      author := fun item =>
        if added op answered.1 = some item then some place else ledger.author item })

structure Valid (start : Cluster) (racers : Nat) (ledger : Ledger) : Prop where
  evolves : Evolves start ledger.cluster
  /-- Authors are runs of the race, and what they added is new and there. -/
  authored : ∀ item place, ledger.author item = some place →
    place < racers ∧ start.holds item = false ∧ ledger.cluster.holds item = true
  attributed : ∀ item, (∀ key, item ≠ .collection key) → ledger.cluster.holds item = true →
    start.holds item = true ∨ ∃ place, ledger.author item = some place

/-- The cluster evolves, and nobody adds anything in the name of the run at the place. -/
def contract (racers place : Nat) : Contract Ledger where
  rely before after := Evolves before.cluster after.cluster ∧
    ∀ item, after.author item = some place ↔ before.author item = some place
  guarantee _ _ := place < racers
  refl ledger := ⟨.refl ledger.cluster, fun _ => .rfl⟩
  trans _ _ _ := fun first last =>
    ⟨first.1.trans last.1, fun item => (last.2 item).trans (first.2 item)⟩

theorem Valid.act {start : Cluster} {racers place : Nat} {ledger : Ledger}
    (valid : ledger.Valid start racers) (inside : place < racers) (op : StoreOp Session) :
    (Ledger.act place op ledger).2.Valid start racers := by
  have step : Evolves ledger.cluster (handler op ledger.cluster).2 := handler_evolves _ op
  refine ⟨valid.evolves.trans step, ?_, ?_⟩
  · intro item writer entry
    simp only [Ledger.act] at entry ⊢
    split at entry
    case isTrue adds =>
      obtain rfl := Option.some.inj entry
      obtain ⟨absent, there⟩ := holds_of_added adds
      exact ⟨inside, valid.evolves.toGrows.absent absent, there⟩
    case isFalse =>
      obtain ⟨racing, absent, there⟩ := valid.authored item writer entry
      exact ⟨racing, absent, step.toGrows.holds there⟩
  · intro item kind there
    simp only [Ledger.act] at there ⊢
    rcases added_of_holds kind there with before | adds
    · rcases valid.attributed item kind before with old | ⟨writer, entry⟩
      · exact .inl old
      · right
        split
        · exact ⟨place, rfl⟩
        · exact ⟨writer, entry⟩
    · exact .inr ⟨place, if_pos adds⟩

theorem Valid.rely_act {start : Cluster} {racers place other : Nat} {ledger : Ledger}
    (valid : ledger.Valid start racers) (different : other ≠ place) (op : StoreOp Session) :
    (contract racers other).rely ledger (Ledger.act place op ledger).2 := by
  refine ⟨handler_evolves _ op, fun item => ?_⟩
  simp only [Ledger.act]
  split
  case isTrue adds =>
    constructor
    · intro entry
      exact absurd (Option.some.inj entry).symm different
    · intro entry
      obtain ⟨-, -, there⟩ := valid.authored item other entry
      rw [(holds_of_added adds).1] at there
      cases there
  case isFalse => exact .rfl

/-- To its own run an operation that adds nothing is like one of another run. -/
theorem rely_act_of_unadded {racers place : Nat} {ledger : Ledger} {op : StoreOp Session}
    (nothing : added op (handler op ledger.cluster).1 = none) :
    (contract racers place).rely ledger (Ledger.act place op ledger).2 :=
  ⟨handler_evolves _ op, fun item => by simp [Ledger.act, nothing]⟩

def racing (start : Cluster) (racers : Nat) : Interference handler Ledger where
  state := cluster
  act := act
  contract := contract racers
  valid := Valid start racers
  answers _ _ _ := rfl
  valid_act _ op _ := fun valid inside => valid.act inside op
  rely_act _ _ op _ := fun valid different _ => valid.rely_act different op

def blank (start : Cluster) : Ledger :=
  ⟨start, fun _ => none⟩

theorem blank_valid (start : Cluster) (racers : Nat) : (blank start).Valid start racers where
  evolves := .refl start
  authored := by simp [blank]
  attributed := fun _ _ there => .inl there

variable {ledger : Ledger} {session : Session} {call : Call} {place : Nat} {after : Cluster}

theorem callsOn_error {fault : Fault}
    (answered : ledger.cluster.answer session call = (.error fault, after)) :
    callsOn (act place) session call ledger = (.error fault, ledger) := by
  have unmoved : after = ledger.cluster := by
    rcases answer_cases ledger.cluster session call with ⟨other, same⟩ | ⟨value, other, -⟩ |
      ⟨value, last, other, -⟩
    · exact (Prod.mk.inj (answered.symm.trans same)).2
    · simp [answered] at other
    · simp [answered] at other
  simp [callsOn, act, handler, answered, added, unmoved]

theorem callsOn_read {value : call.Answer} (reads : call.adds = none)
    (answered : ledger.cluster.answer session call = (.ok value, after)) :
    callsOn (act place) session call ledger = (.ok value, ledger) := by
  have unmoved : after = ledger.cluster := by
    have same := unmoved_of_read ledger.cluster session reads
    rwa [answered] at same
  simp [callsOn, act, handler, answered, added, reads, unmoved]

theorem callsOn_written {value : call.Answer} {item : Item} (adds : call.adds = some item)
    (answered : ledger.cluster.answer session call = (.ok value, after)) :
    callsOn (act place) session call ledger = (.ok value,
      ⟨after, fun other => if item = other then some place else ledger.author other⟩) := by
  simp [callsOn, act, handler, answered, added, adds]

end Ledger

end Provision.Cluster
