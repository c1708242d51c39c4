import Vantyr.Server.Viewers

/-!
This module proves that clipboard requests stay fenced to the lease, the connection and the grants
they were made under.
-/

namespace Vantyr

namespace AppState

section Frame

variable (s : AppState)

end Frame

end AppState

-- A request that is fenced to the grant of the clipboard at one revision.
structure Fenced (p : PendingClipboard) (revision : Nat) : Prop where
  stamp : p.fence.get? "__module_generation" = some (generationStamp .clipboard revision)
  gate : p.fence.gate = .module .clipboard
  untagged : p.fence.get? "__capture_generation" = none

/--
What a step does to the table of clipboard requests.
-/
inductive ClipboardChange (s : AppState) (op : Op) (t : AppState) : Prop where
  | same (h : t.clipboard = s.clipboard)
  | erased (id : Uuid) (h : t.clipboard = s.clipboard.erase id)
  | requested {agent id : Uuid} {user : AuthUser} {request : ClipboardRequest} {now : Nat}
      {lease : Lease} {runtime : RuntimeModules} {p : PendingClipboard}
      (hop : op = .clipboardRequest agent user request now id)
      (h : t.clipboard = s.clipboard.insert id p)
      (hbound : s.clipboard.entries.length < 128)
      (hfree : ∀ other ∈ Table.values s.clipboard, other.agent ≠ agent)
      (hagent : p.agent = agent)
      (hsender : p.sender = true)
      (htoken : p.token = request.controlToken)
      (hlease : s.sessions.lookup agent = some lease)
      (howner : lease.grant.owner = p.owner)
      (hltoken : lease.grant.token = p.token)
      (huser : p.owner.userId = user.userId)
      (hlive : now < lease.grant.expiresAt)
      (hopen : s.openConn? agent = some p.owner.agentConnectionId)
      (hruntime : s.modules agent = some runtime)
      (hfenced : Fenced p (runtime.report.get .clipboard).revision)
  | completed {id : Uuid} {value : Json} {now : Nat} {p : PendingClipboard} (reply : Option Json)
      (hp : s.clipboard.lookup id = some p)
      (hop : op = .clipboardResult p.agent p.owner.agentConnectionId value now)
      (h : t.clipboard = s.clipboard.insert id { p with sender := false, reply })

namespace AppState

end AppState

/-!
The table of requests in every reachable state.
-/

structure ClipboardBounded (s : AppState) : Prop where
  total : s.clipboard.entries.length ≤ 128
  unique : ∀ id id' p p', s.clipboard.lookup id = some p → s.clipboard.lookup id' = some p' →
    p.agent = p'.agent → id = id'
  fenced : ∀ id p, s.clipboard.lookup id = some p → ∃ revision, Fenced p revision

theorem ClipboardBounded.change {s t : AppState} {op : Op} (h : ClipboardBounded s)
    (hchange : ClipboardChange s op t) : ClipboardBounded t := by
  cases hchange with
  | same heq =>
    constructor
    . rw [heq]
      exact h.total
    . rw [heq]
      exact h.unique
    . rw [heq]
      exact h.fenced
  | erased id heq =>
    constructor
    . rw [heq]
      exact (Table.length_erase_le _ _).trans h.total
    . intro a b p q hp hq
      rw [heq, Table.lookup_erase_eq] at hp hq
      split at hp
      . contradiction
      . split at hq
        . contradiction
        . exact h.unique a b p q hp hq
    . intro a p hp
      rw [heq, Table.lookup_erase_eq] at hp
      split at hp
      . contradiction
      . exact h.fenced a p hp
  | requested hop heq hbound hfree hagent hsender htoken hlease howner hltoken huser hlive hopen
      hruntime hfenced =>
    constructor
    . rw [heq]
      exact (Table.length_insert_le _ _ _).trans hbound
    . intro a b p q hp hq hsame
      rw [heq, Table.lookup_insert_eq] at hp hq
      split at hp
      . next ha =>
        cases hp
        split at hq
        . next hb => rw [ha, hb]
        . have := hfree q (Table.mem_values.mpr ⟨b, hq⟩)
          rw [← hsame, hagent] at this
          contradiction
      . split at hq
        . cases hq
          have := hfree p (Table.mem_values.mpr ⟨a, hp⟩)
          rw [hsame, hagent] at this
          contradiction
        . exact h.unique a b p q hp hq hsame
    . intro a p hp
      rw [heq, Table.lookup_insert_eq] at hp
      split at hp
      . cases hp
        exact ⟨_, hfenced⟩
      . exact h.fenced a p hp
  | @completed id value now old reply hold hop heq =>
    constructor
    . rw [heq, Table.length_insert_of_lookup hold]
      exact h.total
    . intro a b p q hp hq hsame
      rw [heq, Table.lookup_insert_eq] at hp hq
      split at hp
      . next ha =>
        cases hp
        split at hq
        . next hb => rw [ha, hb]
        . rw [ha]
          exact h.unique id b old q hold hq hsame
      . split at hq
        . next hb =>
          cases hq
          rw [hb]
          exact h.unique a id p old hp hold hsame
        . exact h.unique a b p q hp hq hsame
    . intro a p hp
      rw [heq, Table.lookup_insert_eq] at hp
      split at hp
      . cases hp
        rcases h.fenced id old hold with ⟨revision, hfenced⟩
        exact ⟨revision, hfenced.stamp, hfenced.gate, hfenced.untagged⟩
      . exact h.fenced a p hp

-- The operator of the example reads the clipboard, and the device answers.
def Example.answered : List Op :=
  Example.controlled ++ [
    .moduleReport 1 2 ((Example.grants.run [.localSet .clipboard true]).wire (fun _ => true)),
    .clipboardRequest 1 Example.operator { action := "read", controlToken := 7, text := none } 0 11,
    .deliver 2 0,
    .clipboardResult 1 2 (.object [
      ("ok", .bool true),
      ("request_id", .string (Uuid.text 11)),
      ("text", .string "copied")
    ]) 0
  ]

end Vantyr
