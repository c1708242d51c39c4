import Mathlib.Logic.Relation
import Vantyr.Data.Json
import Vantyr.Data.Table
import Vantyr.Data.Uuid
import Vantyr.Protocol.Commands

/-!
This module contains the table by which the service of an agent routes clipboard requests to the
companion processes of the user sessions. Every operation is given the console session that is active
and the time, both read under the lock of the table.
-/

namespace Vantyr

def sessionMatches (pinned client : Option Nat) (active : Nat) : Bool :=
  active ≠ 0 ∧ active ≠ 2 ^ 32 - 1 ∧ pinned = some active ∧ client = some active

theorem sessionMatches_iff {pinned client : Option Nat} {active : Nat}
    : sessionMatches pinned client active = true
        ↔ active ≠ 0 ∧ active ≠ 2 ^ 32 - 1 ∧ pinned = some active ∧ client = some active := by
  simp [sessionMatches]

mutual

def containsResult : Json → Bool
  | .object fields =>
    (Json.object fields).kind = "clipboard_result" || eventsContainResult fields
  | .null | .bool _ | .number _ | .string _ | .array _ => false

def eventsContainResult : List (String × Json) → Bool
  | [] => false
  | (key, value) :: rest =>
    if key = "events" then arrayContainsResult value else eventsContainResult rest

def arrayContainsResult : Json → Bool
  | .array items => itemsContainResult items
  | .null | .bool _ | .number _ | .string _ | .object _ => false

def itemsContainResult : List Json → Bool
  | [] => false
  | item :: items => containsResult item || itemsContainResult items

end

structure Route where
  client : Uuid
  session : Nat
  deadline : Nat
  live : Bool
  deriving DecidableEq, Repr

abbrev Routes := AList (fun _ : Uuid => Route)

namespace Routes

-- Dead routes stay until their deadline, so that nobody else can claim the request.
def refresh (routes : Routes) (active now : Nat) : Routes :=
  Table.mapValues
    (fun route =>
      if sessionMatches (some route.session) (some route.session) active then
        route
      else
        { route with live := false })
    (Table.retain (fun _ route => now < route.deadline) routes)

def claim (routes : Routes) (id client : Uuid) (session pinned : Option Nat)
    (active deadline now : Nat) : Bool × Routes :=
  let routes := routes.refresh active now
  if deadline ≤ now
      || !sessionMatches pinned session active
      || (routes.lookup id).isSome
      || 128 ≤ routes.entries.length then
    (false, routes)
  else
    (true, routes.insert id { client, session := active, deadline, live := true })

def owns (routes : Routes) (id client : Uuid) (session : Option Nat) (active now : Nat)
    : Bool × Routes :=
  let routes := routes.refresh active now
  ((routes.lookup id).any (fun route =>
    route.live && route.client = client && sessionMatches (some route.session) session active),
    routes)

def complete (routes : Routes) (id client : Uuid) (session : Option Nat) (active now : Nat)
    : Bool × Routes :=
  match routes.owns id client session active now with
  | (false, routes) => (false, routes)
  | (true, routes) =>
    match routes.lookup id with
    | some route => (true, routes.insert id { route with live := false })
    | none => (false, routes)

def disconnected (routes : Routes) (client : Uuid) : Routes :=
  Table.mapValues
    (fun route => if route.client = client then { route with live := false } else route) routes

def pinnedSession (value : Json) : Option Nat :=
  (value.field "__clipboard_session").asU64.filter (fun n => n < 2 ^ 32)

def commandAllowed (routes : Routes) (value : Json) (client : Uuid) (session : Option Nat)
    (active now : Nat) : Bool × Routes :=
  let kind := value.kind
  if kind ≠ "ClipboardRead" ∧ kind ≠ "ClipboardWrite" ∧ kind ≠ "ClipboardCancel" then
    (true, routes)
  else
    match (value.field "request_id").asStr.bind Uuid.parse with
    | none => (false, routes)
    | some id =>
      if kind = "ClipboardCancel" then
        routes.complete id client session active now
      else
        match (value.field "__clipboard_deadline_ms").asU64 with
        | none => (false, routes)
        | some deadline =>
          routes.claim id client session (pinnedSession value) active deadline now

def resultAllowed (routes : Routes) (value : Json) (client : Uuid) (session : Option Nat)
    (active now : Nat) : Bool × Routes :=
  if value.kind ≠ "clipboard_result" then
    (!containsResult value, routes)
  else
    match (value.field "request_id").asStr.bind Uuid.parse with
    | none => (false, routes)
    | some id =>
      if sessionMatches (pinnedSession value) session active then
        routes.complete id client session active now
      else
        (false, routes)

/-!
Runs of the table. The log of a run records the requests that were claimed and completed.
-/

inductive Request where
  | claim (id client : Uuid) (session pinned : Option Nat) (active deadline now : Nat)
  | complete (id client : Uuid) (session : Option Nat) (active now : Nat)

inductive Call where
  | request (r : Request)
  | refresh (active now : Nat)
  | owns (id client : Uuid) (session : Option Nat) (active now : Nat)
  | command (value : Json) (client : Uuid) (session : Option Nat) (active now : Nat)
  | result (value : Json) (client : Uuid) (session : Option Nat) (active now : Nat)
  | disconnected (client : Uuid)

def exec (routes : Routes) : Call → Bool × Routes
  | .request (.claim id client session pinned active deadline now) =>
    routes.claim id client session pinned active deadline now
  | .request (.complete id client session active now) =>
    routes.complete id client session active now
  | .refresh active now => (true, routes.refresh active now)
  | .owns id client session active now => routes.owns id client session active now
  | .command value client session active now =>
    routes.commandAllowed value client session active now
  | .result value client session active now =>
    routes.resultAllowed value client session active now
  | .disconnected client => (true, routes.disconnected client)

def Request.now : Request → Nat
  | .claim _ _ _ _ _ _ now => now
  | .complete _ _ _ _ now => now

def Call.now? : Call → Option Nat
  | .request r => some r.now
  | .refresh _ now => some now
  | .owns _ _ _ _ now => some now
  | .command _ _ _ _ now => some now
  | .result _ _ _ _ now => some now
  | .disconnected _ => none

-- What a call asks for, if it is a request that reaches the table.
def Call.request? : Call → Option Request
  | .request r => some r
  | .command value client session active now =>
    match value.kind, (value.field "request_id").asStr.bind Uuid.parse with
    | "ClipboardCancel", some id => some (.complete id client session active now)
    | "ClipboardRead", some id | "ClipboardWrite", some id =>
      (value.field "__clipboard_deadline_ms").asU64.map (fun deadline =>
        .claim id client session (pinnedSession value) active deadline now)
    | _, _ => none
  | .result value client session active now =>
    match value.kind, (value.field "request_id").asStr.bind Uuid.parse with
    | "clipboard_result", some id =>
      if sessionMatches (pinnedSession value) session active then
        some (.complete id client session active now)
      else
        none
    | _, _ => none
  | _ => none

inductive Event where
  | claimed (id client : Uuid) (session deadline time : Nat)
  | completed (id client : Uuid) (session time : Nat)
  deriving DecidableEq

def Event.id : Event → Uuid
  | .claimed id _ _ _ _ => id
  | .completed id _ _ _ => id

def Request.event : Request → Event
  | .claim id client _ _ active deadline now => .claimed id client active deadline now
  | .complete id client _ active now => .completed id client active now

structure Service where
  routes : Routes
  clock : Nat
  log : List Event

namespace Service

def init : Service :=
  { routes := ∅, clock := 0, log := [] }

def call (s : Service) (c : Call) : Service :=
  let (allowed, routes) := s.routes.exec c
  {
    routes
    clock := c.now?.getD s.clock
    log := s.log ++ if allowed then (c.request?.map Request.event).toList else []
  }

-- The clock does not run backwards.
inductive Step (s : Service) : Service → Prop where
  | call (c : Call) (h : ∀ now ∈ c.now?, s.clock ≤ now) : Step s (s.call c)

def Runs : Service → Service → Prop :=
  Relation.ReflTransGen Step

end Service

/-!
What an operation that claims and completes nothing does to the table: routes die or are dropped at
their deadline.
-/

structure Fades (routes new : Routes) (now : Nat) : Prop where
  kept : ∀ id route, new.lookup id = some route → ∃ old, routes.lookup id = some old
    ∧ route.client = old.client
    ∧ route.session = old.session
    ∧ route.deadline = old.deadline
    ∧ (route.live = true → old.live = true)
  due : ∀ id, new.lookup id = none → ∀ old, routes.lookup id = some old → old.deadline ≤ now
  length : new.entries.length ≤ routes.entries.length

theorem Fades.refl (routes : Routes) (now : Nat) : Fades routes routes now where
  kept := by
    intro id route h
    exact ⟨route, h, rfl, rfl, rfl, fun h => h⟩
  due := by
    intro id h old hold
    rw [h] at hold
    contradiction
  length := Nat.le_refl _

theorem lookup_refresh {routes : Routes} {active now : Nat} {id : Uuid} {route : Route}
    (h : (routes.refresh active now).lookup id = some route)
    : ∃ old, routes.lookup id = some old
        ∧ now < old.deadline
        ∧ route = if sessionMatches (some old.session) (some old.session) active then old
          else { old with live := false } := by
  rw [refresh, Table.lookup_mapValues, Table.lookup_retain, Option.map_eq_some_iff] at h
  rcases h with ⟨old, hold, heq⟩
  rw [Option.filter_eq_some_iff] at hold
  exact ⟨old, hold.1, by simpa using hold.2, heq.symm⟩

theorem deadline_refresh {routes : Routes} {active now : Nat} {id : Uuid} {route : Route}
    (h : (routes.refresh active now).lookup id = some route) : now < route.deadline := by
  rcases lookup_refresh h with ⟨old, _, hdue, heq⟩
  rw [heq]
  split
  . exact hdue
  . exact hdue

theorem fades_refresh (routes : Routes) (active now : Nat)
    : Fades routes (routes.refresh active now) now where
  kept := by
    intro id route h
    rcases lookup_refresh h with ⟨old, hold, _, heq⟩
    refine ⟨old, hold, ?_⟩
    rw [heq]
    split
    . exact ⟨rfl, rfl, rfl, fun h => h⟩
    . exact ⟨rfl, rfl, rfl, fun h => by contradiction⟩
  due := by
    intro id h old hold
    rw [refresh, Table.lookup_mapValues, Table.lookup_retain, hold] at h
    simp only [Option.map_eq_none_iff, Option.filter_eq_none_iff] at h
    have := h old rfl
    simpa using this
  length := by
    simp only [refresh, Table.mapValues, Table.retain, List.length_map]
    exact List.length_filter_le _ _

theorem fades_disconnected (routes : Routes) (client : Uuid) (now : Nat)
    : Fades routes (routes.disconnected client) now where
  kept := by
    intro id route h
    rw [disconnected, Table.lookup_mapValues, Option.map_eq_some_iff] at h
    rcases h with ⟨old, hold, heq⟩
    refine ⟨old, hold, ?_⟩
    rw [← heq]
    split
    . exact ⟨rfl, rfl, rfl, fun h => by contradiction⟩
    . exact ⟨rfl, rfl, rfl, fun h => h⟩
  due := by
    intro id h old hold
    rw [disconnected, Table.lookup_mapValues, hold] at h
    contradiction
  length := by
    simp [disconnected, Table.mapValues]

theorem claim_cases (routes : Routes) (id client : Uuid) (session pinned : Option Nat)
    (active deadline now : Nat)
    : routes.claim id client session pinned active deadline now
          = (false, routes.refresh active now)
      ∨ routes.claim id client session pinned active deadline now
            = (true, (routes.refresh active now).insert id
              { client, session := active, deadline, live := true })
          ∧ now < deadline
          ∧ sessionMatches pinned session active = true
          ∧ (routes.refresh active now).lookup id = none
          ∧ (routes.refresh active now).entries.length < 128 := by
  unfold claim
  simp only
  split
  . exact Or.inl rfl
  . next h =>
    simp only [Bool.or_eq_true, decide_eq_true_eq, Bool.not_eq_true', not_or, Bool.not_eq_false,
      Option.isSome_iff_ne_none, not_not, Nat.not_le] at h
    exact Or.inr ⟨rfl, h.1.1.1, h.1.1.2, h.1.2, h.2⟩

theorem complete_cases (routes : Routes) (id client : Uuid) (session : Option Nat)
    (active now : Nat)
    : routes.complete id client session active now = (false, routes.refresh active now)
      ∨ ∃ route,
        routes.complete id client session active now
            = (true, (routes.refresh active now).insert id { route with live := false })
          ∧ (routes.refresh active now).lookup id = some route
          ∧ route.live = true
          ∧ route.client = client
          ∧ route.session = active := by
  unfold complete owns
  simp only
  cases hroute : (routes.refresh active now).lookup id with
  | none => exact Or.inl (by simp)
  | some route =>
    simp only [Option.any_some]
    split
    . next heq =>
      simp only [Prod.mk.injEq] at heq
      rw [heq.2]
      exact Or.inl rfl
    . next heq =>
      simp only [Prod.mk.injEq, Bool.and_eq_true, decide_eq_true_eq, sessionMatches_iff,
        Option.some.injEq] at heq
      rcases heq with ⟨⟨⟨hlive, hclient⟩, _, _, hsession, _⟩, heq⟩
      rw [← heq, hroute]
      exact Or.inr ⟨route, rfl, rfl, hlive, hclient, hsession⟩

theorem exec_of_request {c : Call} {r : Request} (h : c.request? = some r) (routes : Routes)
    : routes.exec c = routes.exec (.request r) ∧ c.now? = some r.now := by
  unfold Call.request? at h
  split at h
  . cases h
    exact ⟨rfl, rfl⟩
  . split at h
    . next hkind hid =>
      cases h
      refine ⟨?_, rfl⟩
      simp [exec, commandAllowed, hkind, hid]
    . next hkind hid =>
      rw [Option.map_eq_some_iff] at h
      rcases h with ⟨deadline, hdeadline, heq⟩
      subst heq
      refine ⟨?_, rfl⟩
      simp [exec, commandAllowed, hkind, hid, hdeadline]
    . next hkind hid =>
      rw [Option.map_eq_some_iff] at h
      rcases h with ⟨deadline, hdeadline, heq⟩
      subst heq
      refine ⟨?_, rfl⟩
      simp [exec, commandAllowed, hkind, hid, hdeadline]
    . contradiction
  . split at h
    . next hkind hid =>
      split at h
      . next hmatches =>
        cases h
        refine ⟨?_, rfl⟩
        simp [exec, resultAllowed, hkind, hid, hmatches]
      . contradiction
    . contradiction
  . contradiction

theorem Service.call_of_request {c : Call} {r : Request} (h : c.request? = some r) (s : Service)
    : s.call c = s.call (.request r) := by
  rcases exec_of_request h s.routes with ⟨hexec, hclock⟩
  unfold Service.call
  rw [hexec, hclock, h]
  rfl

theorem fades_exec {c : Call} (h : c.request? = none) (routes : Routes) (clock : Nat)
    : Fades routes (routes.exec c).2 (c.now?.getD clock) := by
  cases c with
  | request r => contradiction
  | refresh active now => exact fades_refresh _ _ _
  | owns id client session active now => exact fades_refresh _ _ _
  | command value client session active now =>
    have hsame : (routes.exec (.command value client session active now)).2 = routes := by
      unfold Call.request? at h
      simp only [exec, commandAllowed]
      split
      . rfl
      . next hkind =>
        split
        . rfl
        . next id hid =>
          simp only [hid] at h
          split
          . next hcancel => simp [hcancel] at h
          . next hcancel =>
            split
            . rfl
            . next deadline hdeadline =>
              have : value.kind = "ClipboardRead" ∨ value.kind = "ClipboardWrite" := by
                by_contra hnot
                rw [not_or] at hnot
                exact hkind ⟨hnot.1, hnot.2, hcancel⟩
              rcases this with hread | hwrite
              . simp [hread, hdeadline] at h
              . simp [hwrite, hdeadline] at h
    rw [hsame]
    exact .refl _ _
  | result value client session active now =>
    have hsame : (routes.exec (.result value client session active now)).2 = routes := by
      unfold Call.request? at h
      simp only [exec, resultAllowed]
      split
      . rfl
      . next hkind =>
        rw [not_not] at hkind
        split
        . rfl
        . next id hid =>
          split
          . next hmatches => simp [hid, hkind, hmatches] at h
          . rfl
    rw [hsame]
    exact .refl _ _
  | disconnected client => exact fades_disconnected _ _ _

/-!
How the table and the log belong together.
-/

-- `e` claims the request with this deadline, and no event after it is about the same request.
def ClaimedLast (log : List Event) (id client : Uuid) (session deadline time : Nat) : Prop :=
  ∃ before after,
    log = before ++ .claimed id client session deadline time :: after ∧ ∀ e ∈ after, e.id ≠ id

structure Tracked (s : Service) : Prop where
  bounded : s.routes.entries.length ≤ 128
  live : ∀ id route, s.routes.lookup id = some route → route.live = true →
    ∃ time, time ≤ s.clock ∧ ClaimedLast s.log id route.client route.session route.deadline time
  kept : ∀ id client session deadline time,
    .claimed id client session deadline time ∈ s.log → s.clock < deadline →
    ∃ route, s.routes.lookup id = some route
      ∧ route.client = client
      ∧ route.session = session
      ∧ route.deadline = deadline
  once : s.log.Pairwise (fun e e' =>
    ∀ id client session deadline time client' session' deadline' time',
    e = .claimed id client session deadline time →
    e' = .claimed id client' session' deadline' time' → deadline ≤ time')
  completed : ∀ before id client session time after,
    s.log = before ++ .completed id client session time :: after →
    ∃ deadline start, ClaimedLast before id client session deadline start
      ∧ start ≤ time
      ∧ time < deadline

theorem ClaimedLast.append {log : List Event} {id client : Uuid} {session deadline time : Nat}
    (h : ClaimedLast log id client session deadline time) {e : Event} (he : e.id ≠ id)
    : ClaimedLast (log ++ [e]) id client session deadline time := by
  rcases h with ⟨before, after, heq, hafter⟩
  refine ⟨before, after ++ [e], ?_, ?_⟩
  . rw [heq]
    simp
  . intro e' he'
    rw [List.mem_append, List.mem_singleton] at he'
    cases he' with
    | inl hold => exact hafter e' hold
    | inr heq =>
      rw [heq]
      exact he

namespace Tracked

variable {s : Service}

theorem fades {routes : Routes} {now : Nat} (h : Tracked s) (hfades : Fades s.routes routes now)
    (hnow : s.clock ≤ now) : Tracked { routes, clock := now, log := s.log } where
  bounded := hfades.length.trans h.bounded
  live := by
    intro id route hroute hlive
    rcases hfades.kept id route hroute with ⟨old, hold, hclient, hsession, hdeadline, hdied⟩
    rcases h.live id old hold (hdied hlive) with ⟨time, htime, hclaimed⟩
    refine ⟨time, htime.trans hnow, ?_⟩
    rw [hclient, hsession, hdeadline]
    exact hclaimed
  kept := by
    intro id client session deadline time hclaimed hdeadline
    simp only at hdeadline
    rcases h.kept id client session deadline time hclaimed (by omega) with
      ⟨old, hold, hclient, hsession, hdue⟩
    cases hroute : routes.lookup id with
    | none =>
      have := hfades.due id hroute old hold
      omega
    | some route =>
      rcases hfades.kept id route hroute with ⟨old', hold', hclient', hsession', hdeadline', _⟩
      rw [hold] at hold'
      cases hold'
      exact ⟨route, rfl, hclient'.trans hclient, hsession'.trans hsession, hdeadline'.trans hdue⟩
  once := h.once
  completed := h.completed

-- Nobody claims a request that somebody else has before its deadline.
theorem claim {id client : Uuid} {active deadline : Nat} (h : Tracked s) (hfree : s.routes.lookup id = none)
    (hroom : s.routes.entries.length < 128)
    : Tracked {
        routes := s.routes.insert id { client, session := active, deadline, live := true }
        clock := s.clock
        log := s.log ++ [.claimed id client active deadline s.clock]
      } where
  bounded := (Table.length_insert_le _ _ _).trans hroom
  live := by
    intro other route hroute hlive
    simp only [Table.lookup_insert_eq] at hroute
    split at hroute
    . next heq =>
      cases hroute
      subst heq
      exact ⟨s.clock, Nat.le_refl _, s.log, [], rfl, by simp⟩
    . next hne =>
      rcases h.live other route hroute hlive with ⟨time, htime, hclaimed⟩
      exact ⟨time, htime, hclaimed.append (fun heq => hne heq.symm)⟩
  kept := by
    intro other client' session' deadline' time' hclaimed hdue
    simp only [List.mem_append, List.mem_singleton, Event.claimed.injEq] at hclaimed
    simp only [Table.lookup_insert_eq]
    rcases hclaimed with hold | ⟨hid, hclient, hsession, hdeadline, _⟩
    . rcases h.kept other client' session' deadline' time' hold hdue with ⟨route, hroute, hrest⟩
      refine ⟨route, ?_, hrest⟩
      rw [if_neg]
      . exact hroute
      . intro heq
        subst heq
        rw [hfree] at hroute
        contradiction
    . rw [if_pos hid]
      exact ⟨_, rfl, hclient.symm, hsession.symm, hdeadline.symm⟩
  once := by
    simp only [List.pairwise_append, List.pairwise_cons, List.mem_singleton]
    refine ⟨h.once, by simp, ?_⟩
    intro e he e' he' other client₁ session₁ deadline₁ time₁ client₂ session₂ deadline₂ time₂ heq heq'
    subst he'
    simp only [Event.claimed.injEq] at heq'
    rw [heq] at he
    rw [← heq'.2.2.2.2]
    by_contra hlt
    rcases h.kept other client₁ session₁ deadline₁ time₁ he (by omega) with ⟨route, hroute, _⟩
    rw [← heq'.1, hfree] at hroute
    contradiction
  completed := by
    intro before other client' session' time' after heq
    simp only at heq
    rcases List.eq_nil_or_concat after with hnil | ⟨rest, last, hlast⟩
    . subst hnil
      have := List.append_inj_right' heq rfl
      simp at this
    . rw [hlast, List.concat_eq_append, ← List.cons_append, ← List.append_assoc] at heq
      exact h.completed before other client' session' time' rest (List.append_inj_left' heq rfl)

theorem complete {id : Uuid} {route : Route} (h : Tracked s)
    (hroute : s.routes.lookup id = some route) (hlive : route.live = true)
    (hdue : s.clock < route.deadline)
    : Tracked {
        routes := s.routes.insert id { route with live := false }
        clock := s.clock
        log := s.log ++ [.completed id route.client route.session s.clock]
      } where
  bounded := by
    simp only [Table.length_insert_of_lookup hroute]
    exact h.bounded
  live := by
    intro other route' hroute' hlive'
    simp only [Table.lookup_insert_eq] at hroute'
    split at hroute'
    . cases hroute'
      contradiction
    . next hne =>
      rcases h.live other route' hroute' hlive' with ⟨time, htime, hclaimed⟩
      exact ⟨time, htime, hclaimed.append (fun heq => hne heq.symm)⟩
  kept := by
    intro other client' session' deadline' time' hclaimed hdue'
    simp only [List.mem_append, List.mem_singleton, reduceCtorEq, or_false] at hclaimed
    simp only [Table.lookup_insert_eq]
    rcases h.kept other client' session' deadline' time' hclaimed hdue' with
      ⟨route', hroute', hrest⟩
    split
    . next heq =>
      subst heq
      rw [hroute] at hroute'
      cases hroute'
      exact ⟨_, rfl, hrest⟩
    . exact ⟨route', hroute', hrest⟩
  once := by
    simp only [List.pairwise_append, List.pairwise_cons, List.mem_singleton]
    refine ⟨h.once, by simp, ?_⟩
    intro e _ e' he' other client₁ session₁ deadline₁ time₁ client₂ session₂ deadline₂ time₂ _ heq'
    rw [he'] at heq'
    contradiction
  completed := by
    intro before other client' session' time' after heq
    simp only at heq
    rcases List.eq_nil_or_concat after with hnil | ⟨rest, last, hlast⟩
    . subst hnil
      have hlog := List.append_inj_left' heq rfl
      have hevent := List.append_inj_right' heq rfl
      simp only [List.cons.injEq, Event.completed.injEq, and_true] at hevent
      rcases hevent with ⟨hid, hclient, hsession, htime⟩
      subst hid hclient hsession htime hlog
      rcases h.live id route hroute hlive with ⟨time, htime, hclaimed⟩
      exact ⟨route.deadline, time, hclaimed, htime, hdue⟩
    . rw [hlast, List.concat_eq_append, ← List.cons_append, ← List.append_assoc] at heq
      exact h.completed before other client' session' time' rest (List.append_inj_left' heq rfl)

theorem request {r : Request} (h : Tracked s) (hnow : s.clock ≤ r.now)
    : Tracked (s.call (.request r)) := by
  cases r with
  | claim id client session pinned active deadline now =>
    have hfaded := h.fades (fades_refresh s.routes active now) hnow
    rcases s.routes.claim_cases id client session pinned active deadline now with
      heq | ⟨heq, _, _, hfree, hroom⟩
    . simp only [Service.call, exec, heq, Bool.false_eq_true, ↓reduceIte, List.append_nil]
      exact hfaded
    . simp only [Service.call, exec, heq, ↓reduceIte]
      exact hfaded.claim hfree hroom
  | complete id client session active now =>
    have hfaded := h.fades (fades_refresh s.routes active now) hnow
    rcases s.routes.complete_cases id client session active now with
      heq | ⟨route, heq, hroute, hlive, hclient, hsession⟩
    . simp only [Service.call, exec, heq, Bool.false_eq_true, ↓reduceIte, List.append_nil]
      exact hfaded
    . simp only [Service.call, exec, heq, ↓reduceIte]
      have := hfaded.complete hroute hlive (deadline_refresh hroute)
      rw [hclient, hsession] at this
      subst hclient hsession
      exact this

theorem step {t : Service} (h : Tracked s) (hstep : s.Step t) : Tracked t := by
  rcases hstep with ⟨c, hnow⟩
  cases hrequest : c.request? with
  | some r =>
    have hclock := (exec_of_request hrequest s.routes).2
    rw [s.call_of_request hrequest]
    exact h.request (hnow r.now hclock)
  | none =>
    have hlog : (s.call c).log = s.log := by
      simp [Service.call, hrequest]
    have hfades := fades_exec hrequest s.routes s.clock
    have := h.fades hfades (by
      cases hclock : c.now? with
      | none => exact Nat.le_refl _
      | some now => exact hnow now hclock)
    rw [← hlog] at this
    exact this

theorem runs {t : Service} (h : Tracked s) (hruns : s.Runs t) : Tracked t := by
  induction hruns with
  | refl => exact h
  | tail _ hstep ih => exact ih.step hstep

theorem init : Tracked Service.init := by
  constructor <;> simp [Service.init]

end Tracked

/-!
Dead routes.
-/

namespace Example

def request : Json :=
  .object [
    ("__clipboard_deadline_ms", .ofNat 500),
    ("__clipboard_session", .ofNat 7),
    ("request_id", .string (Uuid.text 1)),
    ("type", .string "ClipboardRead")
  ]

def reply : Json :=
  .object [
    ("__clipboard_session", .ofNat 7),
    ("request_id", .string (Uuid.text 1)),
    ("type", .string "clipboard_result")
  ]

def routed : Service :=
  Service.init.call (.command request 2 (some 7) 7 100)

-- A request is routed to a companion, which answers it.
def answered : Service :=
  routed.call (.result reply 2 (some 7) 7 200)

end Example

end Routes

end Vantyr
