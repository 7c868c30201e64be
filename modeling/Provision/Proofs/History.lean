import Provision.Proofs.Exchange
import Provision.Proofs.Growth
/-!
Histories: everything that can be done to a cluster, in any order.

Sessions act through the handler; whoever holds the cluster itself may also inject faults and put
documents in. No history takes back what is stored.
-/

namespace Provision.Cluster

inductive Action where
  /-- Opening a session, a call on any session, or closing one. -/
  | ask (op : StoreOp Session)
  | inject (point : FaultPoint) (fault : Fault)
  | clearFaults
  | insertRaw (database collection : String) (record : Record)

def act (cluster : Cluster) : Action → Cluster
  | .ask op => (handler op cluster).2
  | .inject point fault => cluster.inject point fault
  | .clearFaults => cluster.clearFaults
  | .insertRaw database collection record => cluster.append database collection record

def after (cluster : Cluster) (history : List Action) : Cluster :=
  history.foldl act cluster

def exchanged (cluster : Cluster) : List Action → List (Exchange (Store Session))
  | [] => []
  | .ask op :: rest => ⟨op, (handler op cluster).1⟩ :: exchanged (cluster.act (.ask op)) rest
  | action :: rest => exchanged (cluster.act action) rest

theorem after_append (cluster : Cluster) (first last : List Action) :
    cluster.after (first ++ last) = (cluster.after first).after last :=
  List.foldl_append

theorem act_grows (cluster : Cluster) (action : Action) : Grows cluster (cluster.act action) := by
  cases action with
  | ask op => exact handler_grows cluster op
  | inject point fault => exact .of_stored_eq rfl rfl
  | clearFaults => exact .of_stored_eq rfl rfl
  | insertRaw database collection record => exact append_grows cluster database collection record

/-- Whatever happens to a cluster, what it stores stays. -/
theorem after_grows (cluster : Cluster) (history : List Action) :
    Grows cluster (cluster.after history) := by
  induction history generalizing cluster with
  | nil => exact .refl cluster
  | cons action rest ih => exact (act_grows cluster action).trans (ih (cluster.act action))

end Provision.Cluster
