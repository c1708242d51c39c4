import Vantyr.Agent.Permissions

/-!
This module contains how the agent answers a request to disable a module (`remote_disable` in
`agent/src/permissions/store.rs`, `disable_and_wait` in `workers.rs`).
-/

namespace Vantyr

namespace Permissions

namespace DisableResult

def asStr : DisableResult → String
  | .disabled => "disabled"
  | .duplicate => "duplicate"
  | .stale => "stale"
  | .conflict => "conflict"

def applied : DisableResult → Bool
  | .disabled | .duplicate => true
  | .stale | .conflict => false

end DisableResult

def moduleDisableAck (v : Json) (r : DisableResult) (state : Json) : Json :=
  .object [
    ("command_id", v.field "command_id"),
    ("module", v.field "module"),
    ("ok", .bool r.applied),
    ("persisted", .bool r.applied),
    ("state", state),
    ("status", .string r.asStr),
    ("stop_status", .string "unconfirmed"),
    ("stopped", .bool false),
    ("type", .string "module_disable_ack")
  ]

def moduleDisableFailed (v : Json) (error : String) : Json :=
  .object [
    ("command_id", v.field "command_id"),
    ("error", .string error),
    ("module", v.field "module"),
    ("ok", .bool false),
    ("status", .string "error"),
    ("type", .string "module_disable_ack")
  ]

/--
`failure` is what goes wrong outside of the state, in the deserialiser or with the file of the grants.
-/
def remoteDisable (s : State) (available : Module → Bool) (failure : Option String) (v : Json)
    : Json × State :=
  match failure, Module.ofJson (v.field "module") with
  | some e, _ => (moduleDisableFailed v e, s)
  | none, none => (moduleDisableFailed v "unknown module", s)
  | none, some m =>
    match (v.field "expected_revision").asU64 with
    | none => (moduleDisableFailed v "expected_revision required", s)
    | some revision =>
      match (v.field "command_id").asStr with
      | none => (moduleDisableFailed v "command_id required", s)
      | some id =>
        match s.disable m revision id with
        | (.ok r, s) => (moduleDisableAck v r (s.wire available), s)
        | (.error e, s) => (moduleDisableFailed v e, s)

-- The workers of the grant that are left when the waiting is over.
def disableAndWait (s : State) (available : Module → Bool) (failure : Option String) (v : Json)
    (workers : Nat) : Json × State :=
  let (ack, s) := remoteDisable s available failure v
  if ack.field "status" ≠ .string "disabled" then
    (ack, s)
  else
    let ack := ack.setField "local_workers_pending" (.ofNat workers)
    let ack := ack.setField "local_registered_workers_stopped" (.bool (workers = 0))
    let stopStatus :=
      if workers = 0 then "registered_local_workers_drained_global_unconfirmed"
      else "local_barrier_timeout"
    (ack.setField "stop_status" (.string stopStatus), s)

end Permissions

end Vantyr
