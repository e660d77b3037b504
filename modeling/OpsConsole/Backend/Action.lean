import OpsConsole.Access.Claim
import OpsConsole.Backend.Exchange
import OpsConsole.Json.Value

/-!
# Actions

An action is something that an operator can have the backend do. Each action needs one claim and
becomes one order: a method and a path below that of all endpoints, and sometimes a number to ask
for or a body to hand over.
-/

namespace OpsConsole

open Json

inductive Action
  | listProcesses
  | startProcess (process : String)
  | stopProcess (process : String)
  | restartProcess (process : String)
  | createProcess (body : Value)
  | deleteProcess (process : String)
  | processLogs (process : String) (lines : Nat)
  | clusterNodes
  | clusterStatus
  | promoteNode (node : String)
  | removeNode (node : String)
  | listDeployments
  | createDeployment (body : Value)
  | rollbackDeployment (deployment : String)
  | listTasks
  | createTask (body : Value)
  | updateTask (task : String) (body : Value)
  | deleteTask (task : String)
  | runTask (task : String)
  | metrics
  | listAlerts
  | acknowledgeAlert (alert : String)
  | listUsers
  | listRoles
  | auditLog (entries : Nat)
  | ssoConfig
  deriving Inhabited

namespace Action

/-- The action of a name, with those of the arguments that it uses. -/
def named? (name id : String) (n : Nat) (body : Value) : Option Action :=
  match name with
  | "list_processes" => some .listProcesses
  | "start_process" => some (.startProcess id)
  | "stop_process" => some (.stopProcess id)
  | "restart_process" => some (.restartProcess id)
  | "create_process" => some (.createProcess body)
  | "delete_process" => some (.deleteProcess id)
  | "process_logs" => some (.processLogs id n)
  | "cluster_nodes" => some .clusterNodes
  | "cluster_status" => some .clusterStatus
  | "promote_node" => some (.promoteNode id)
  | "remove_node" => some (.removeNode id)
  | "list_deployments" => some .listDeployments
  | "create_deployment" => some (.createDeployment body)
  | "rollback_deployment" => some (.rollbackDeployment id)
  | "list_tasks" => some .listTasks
  | "create_task" => some (.createTask body)
  | "update_task" => some (.updateTask id body)
  | "delete_task" => some (.deleteTask id)
  | "run_task" => some (.runTask id)
  | "metrics" => some .metrics
  | "list_alerts" => some .listAlerts
  | "acknowledge_alert" => some (.acknowledgeAlert id)
  | "list_users" => some .listUsers
  | "list_roles" => some .listRoles
  | "audit_log" => some (.auditLog n)
  | "sso_config" => some .ssoConfig
  | _ => none

end Action

structure Order where
  method : Method
  segments : List String
  query : Option (String × Nat) := none
  body : Option Value := none
  deriving Inhabited

namespace Order

def health : Order := ⟨.get, ["health"], none, none⟩

def queryText? (o : Order) : Option String := o.query.map fun (key, n) => key ++ "=" ++ n.repr

end Order

namespace Action

/-- What an action needs, always on every scope. -/
def claim : Action → Claim
  | listProcesses | processLogs .. => .plain "process" "read"
  | startProcess _ => .plain "process" "start"
  | stopProcess _ => .plain "process" "stop"
  | restartProcess _ => .plain "process" "restart"
  | createProcess _ => .plain "process" "create"
  | deleteProcess _ => .plain "process" "delete"
  | clusterNodes | clusterStatus => .plain "cluster" "read"
  | promoteNode _ => .plain "cluster" "promote"
  | removeNode _ => .plain "cluster" "remove"
  | listDeployments => .plain "deployment" "read"
  | createDeployment _ => .plain "deployment" "create"
  | rollbackDeployment _ => .plain "deployment" "rollback"
  | listTasks => .plain "scheduler" "read"
  | createTask _ => .plain "scheduler" "create"
  | updateTask .. => .plain "scheduler" "update"
  | deleteTask _ => .plain "scheduler" "delete"
  | runTask _ => .plain "scheduler" "run"
  | metrics => .plain "metrics" "read"
  | listAlerts => .plain "alert" "read"
  | acknowledgeAlert _ => .plain "alert" "acknowledge"
  | listUsers => .plain "user" "read"
  | listRoles => .plain "role" "read"
  | auditLog _ => .plain "audit" "read"
  | ssoConfig => .plain "sso" "read"

def order : Action → Order
  | listProcesses => ⟨.get, ["processes"], none, none⟩
  | startProcess process => ⟨.post, ["processes", process, "start"], none, none⟩
  | stopProcess process => ⟨.post, ["processes", process, "stop"], none, none⟩
  | restartProcess process => ⟨.post, ["processes", process, "restart"], none, none⟩
  | createProcess body => ⟨.post, ["processes"], none, body⟩
  | deleteProcess process => ⟨.delete, ["processes", process], none, none⟩
  | processLogs process lines => ⟨.get, ["processes", process, "logs"], some ("lines", lines), none⟩
  | clusterNodes => ⟨.get, ["cluster", "nodes"], none, none⟩
  | clusterStatus => ⟨.get, ["cluster", "status"], none, none⟩
  | promoteNode node => ⟨.post, ["cluster", "nodes", node, "promote"], none, none⟩
  | removeNode node => ⟨.delete, ["cluster", "nodes", node], none, none⟩
  | listDeployments => ⟨.get, ["deployments"], none, none⟩
  | createDeployment body => ⟨.post, ["deployments"], none, body⟩
  | rollbackDeployment deployment => ⟨.post, ["deployments", deployment, "rollback"], none, none⟩
  | listTasks => ⟨.get, ["scheduler", "tasks"], none, none⟩
  | createTask body => ⟨.post, ["scheduler", "tasks"], none, body⟩
  | updateTask task body => ⟨.put, ["scheduler", "tasks", task], none, body⟩
  | deleteTask task => ⟨.delete, ["scheduler", "tasks", task], none, none⟩
  | runTask task => ⟨.post, ["scheduler", "tasks", task, "run"], none, none⟩
  | metrics => ⟨.get, ["metrics"], none, none⟩
  | listAlerts => ⟨.get, ["alerts"], none, none⟩
  | acknowledgeAlert alert => ⟨.post, ["alerts", alert, "acknowledge"], none, none⟩
  | listUsers => ⟨.get, ["users"], none, none⟩
  | listRoles => ⟨.get, ["roles"], none, none⟩
  | auditLog entries => ⟨.get, ["audit"], some ("limit", entries), none⟩
  | ssoConfig => ⟨.get, ["sso", "config"], none, none⟩

end Action

end OpsConsole
