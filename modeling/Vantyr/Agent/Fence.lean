import Vantyr.Agent.Permissions
import Vantyr.Protocol.Commands

/-!
This module contains the final outbound filter of `agent/src/permissions/fence.rs`: which JSON text
frames may still be written under the current grants, and what is stripped from those that are.
-/

namespace Vantyr

namespace Permissions

def Generation.ofJson (value : Json) : Option Generation := do
  match ← value.structFields ["module", "revision"] false with
  | [m, r] => return { module := ← Module.ofJson m, revision := ← r.asU64 }
  | _ => none

-- A grant store that cannot be read grants nothing.
def Generation.validFresh (g : Generation) (store : Option State) : Bool :=
  store.any g.matches

def eventModule (v : Json) : Option Module :=
  match v.kind with
  | "keys" => some .keyboardText
  | "afk" | "active" => some .idleActivity
  | "window_focus" | "app_icon" => some .windowActivity
  | "url" | "url_session" => some .browserUrls
  | "software_inventory" => some .softwareInventory
  | "metrics" | "resource_metrics" => some .resourceMetrics
  | "app_block_kill" => some .appPolicy
  | "terminal_output" => some .terminal
  | "script_result" => some .scripts
  | "clipboard_result" => some .clipboard
  | "dir_list" | "file_chunk" | "file_upload_result" | "fs_op_result" => some .files
  | "log_tail" | "log_sources" => some .logs
  | "agent_info" => if (v.field "hostname").isNull then none else some .systemInfo
  | _ => none

section Outbound

-- Whether a clipboard reply belongs to the current desktop session is up to the platform.
variable (replySessionCurrent : Json → Bool)

def generationAllowedIn (s : State) (v : Json) : Bool :=
  let tag := v.field "__module_generation"
  if tag.isNull then
    (eventModule v).isNone
  else
    match Generation.ofJson tag with
    | none => false
    | some g => g.matches s && (eventModule v).all (fun m => g.module == m)

mutual

-- The recursion follows the value; `outboundAllowedIn_eq` is the source's own wording.
def outboundAllowedIn (s : State) : Json → Bool
  | .object fields =>
    if Json.kind (.object fields) = "clipboard_result" ∧ !replySessionCurrent (.object fields) then
      false
    else if Json.kind (.object fields) = "batch" then
      batchAllowedIn s fields
    else
      generationAllowedIn s (.object fields)
  | .null => generationAllowedIn s .null
  | .bool b => generationAllowedIn s (.bool b)
  | .number n => generationAllowedIn s (.number n)
  | .string t => generationAllowedIn s (.string t)
  | .array items => generationAllowedIn s (.array items)

def batchAllowedIn (s : State) : List (String × Json) → Bool
  | [] => false
  | (key, value) :: rest => if key = "events" then arrayAllowedIn s value else batchAllowedIn s rest

def arrayAllowedIn (s : State) : Json → Bool
  | .array items => eventsAllowedIn s items
  | .null | .bool _ | .number _ | .string _ | .object _ => false

def eventsAllowedIn (s : State) : List Json → Bool
  | [] => true
  | event :: events => outboundAllowedIn s event && eventsAllowedIn s events

end

def outboundAllowed (store : Option State) (v : Json) : Bool :=
  outboundAllowedIn replySessionCurrent (store.getD State.default) v

def blankFields : List String := ["app", "app_display", "window"]

def fenceFields : List String :=
  ["__module_generation", "__clipboard_session", "__window_generation"]

def windowAllowed (store : Option State) (v : Json) : Bool :=
  (Generation.ofJson (v.field "__window_generation")).any
    (fun g => g.module == .windowActivity && g.validFresh store)

def blankWindow (store : Option State) (v : Json) : Json :=
  if v.kind = "keys" ∧ !windowAllowed store v then
    blankFields.foldl (fun v field => v.setField field (.string "")) v
  else
    v

def removeFences (v : Json) : Json :=
  fenceFields.foldl Json.eraseField v

mutual

-- Again `strip_eq` is the source's order of steps.
def strip (store : Option State) : Json → Json
  | .object fields => removeFences (blankWindow store (.object (stripFields store fields)))
  | .null => .null
  | .bool b => .bool b
  | .number n => .number n
  | .string t => .string t
  | .array items => .array items

def stripFields (store : Option State) : List (String × Json) → List (String × Json)
  | [] => []
  | (key, value) :: rest =>
    (key, if key = "events" then stripArray store value else value) :: stripFields store rest

def stripArray (store : Option State) : Json → Json
  | .array items => .array (stripItems store items)
  | .null => .null
  | .bool b => .bool b
  | .number n => .number n
  | .string t => .string t
  | .object fields => .object fields

def stripItems (store : Option State) : List Json → List Json
  | [] => []
  | item :: items => strip store item :: stripItems store items

end

-- The text arm of `prepare_message`, with the reader and the printer of JSON texts.
def prepareText (fromStr : String → Option Json) (toStr : Json → String) (store : Option State)
    (text : String) : Option String := do
  let v ← fromStr text
  if outboundAllowed replySessionCurrent store v then
    return toStr (strip store v)
  else
    none

/-!
The two recursions as the source writes them, in terms of `value[key]`.
-/

theorem batchAllowedIn_eq (s : State) (fields : List (String × Json))
    : batchAllowedIn replySessionCurrent s fields
        = ((Fields.get? "events" fields).bind Json.asArray).any
            (fun events => events.all (outboundAllowedIn replySessionCurrent s)) := by
  have hevents (events : List Json)
      : eventsAllowedIn replySessionCurrent s events
          = events.all (outboundAllowedIn replySessionCurrent s) := by
    induction events with
    | nil => rfl
    | cons event events ih => rw [eventsAllowedIn, ih, List.all_cons]
  induction fields with
  | nil => rfl
  | cons field rest ih =>
    rcases field with ⟨key, value⟩
    rw [batchAllowedIn, Fields.get?_cons]
    split
    . cases value with
      | array items => simp [arrayAllowedIn, Json.asArray, hevents]
      | _ => simp [arrayAllowedIn, Json.asArray]
    . exact ih

theorem outboundAllowedIn_eq (s : State) (v : Json)
    : outboundAllowedIn replySessionCurrent s v
        = if v.kind = "clipboard_result" ∧ !replySessionCurrent v then
            false
          else if v.kind = "batch" then
            (v.field "events").asArray.any
              (fun events => events.all (outboundAllowedIn replySessionCurrent s))
          else
            generationAllowedIn s v := by
  cases v with
  | object fields =>
    have hevents : (Json.field (.object fields) "events").asArray
        = (Fields.get? "events" fields).bind Json.asArray := by
      simp only [Json.field, Json.get?]
      cases Fields.get? "events" fields with
      | none => rfl
      | some events => rfl
    rw [outboundAllowedIn, batchAllowedIn_eq, hevents]
  | _ => rfl

theorem get?_removeFences (v : Json) (key : String)
    : (removeFences v).get? key = if key ∈ fenceFields then none else v.get? key := by
  have hfold (keys : List String) (v : Json)
      : (keys.foldl Json.eraseField v).get? key = if key ∈ keys then none else v.get? key := by
    induction keys generalizing v with
    | nil => simp
    | cons k keys ih =>
      rw [List.foldl_cons, ih]
      by_cases hk : key = k
      . subst hk
        simp
      . simp [hk, Json.get?_eraseField_of_ne hk]
  exact hfold fenceFields v

theorem get?_blankWindow (store : Option State) (v : Json) (key : String)
    : (blankWindow store v).get? key
        = if (v.kind = "keys" ∧ !windowAllowed store v) ∧ key ∈ blankFields then
            some (.string "")
          else
            v.get? key := by
  have hfold (keys : List String) (v old : Json) (other : String) (h : v.get? other = some old)
      : (keys.foldl (fun v field => v.setField field (.string "")) v).get? key
          = if key ∈ keys then some (.string "") else v.get? key := by
    induction keys generalizing v old other with
    | nil => simp
    | cons k keys ih =>
      rw [List.foldl_cons, ih _ _ _ (Json.get?_setField_self h k (.string ""))]
      by_cases hk : key = k
      . subst hk
        simp [Json.get?_setField_self h]
      . simp [hk, Json.get?_setField_of_ne hk]
  unfold blankWindow
  split
  . next hblank =>
    -- Only an object has a kind, and assigning to a field of it never fails.
    have htype : ∃ old, v.get? "type" = some old := by
      cases htype : v.get? "type" with
      | none => simp [Json.kind, Json.field, htype, Json.asStr] at hblank
      | some old => exact ⟨old, rfl⟩
    rcases htype with ⟨old, htype⟩
    rw [hfold _ _ _ _ htype]
    simp [hblank]
  . next hkeep =>
    rw [if_neg]
    intro h
    exact hkeep h.1

theorem get?_stripFields (store : Option State) (fields : List (String × Json)) (key : String)
    : Fields.get? key (stripFields store fields)
        = (Fields.get? key fields).map
            (fun value => if key = "events" then stripArray store value else value) := by
  induction fields with
  | nil => rfl
  | cons field rest ih =>
    rcases field with ⟨k, value⟩
    rw [stripFields, Fields.get?_cons, Fields.get?_cons, ih]
    split
    . next heq =>
      subst heq
      rfl
    . rfl

theorem kind_eq_of_get? {v w : Json} (h : v.get? "type" = w.get? "type") : v.kind = w.kind := by
  simp only [Json.kind, Json.field, h]

theorem windowAllowed_eq_of_get? {v w : Json} (store : Option State)
    (h : v.get? "__window_generation" = w.get? "__window_generation")
    : windowAllowed store v = windowAllowed store w := by
  simp only [windowAllowed, Json.field, h]

/--
What the fields of a stripped value are.
-/
theorem get?_strip (store : Option State) (v : Json) (key : String)
    : (strip store v).get? key
        = if key ∈ fenceFields then
            none
          else if (v.kind = "keys" ∧ !windowAllowed store v) ∧ key ∈ blankFields then
            some (.string "")
          else
            (v.get? key).map
              (fun value => if key = "events" then stripArray store value else value) := by
  cases v with
  | object fields =>
    have hget (key : String) (hkey : key ≠ "events")
        : Json.get? (.object (stripFields store fields)) key = Json.get? (.object fields) key := by
      simp only [Json.get?, get?_stripFields, hkey, ↓reduceIte, Option.map_id']
    have hkind := kind_eq_of_get? (hget "type" (by decide))
    have hwindow := windowAllowed_eq_of_get? store (hget "__window_generation" (by decide))
    rw [strip, get?_removeFences, get?_blankWindow, hkind, hwindow]
    simp only [Json.get?, get?_stripFields]
  | _ => simp [strip, Json.get?, Json.kind, Json.field, Json.asStr]

theorem get?_strip_of_not_mem {key : String} (hfence : key ∉ fenceFields)
    (hblank : key ∉ blankFields) (hevents : key ≠ "events") (store : Option State) (v : Json)
    : (strip store v).get? key = v.get? key := by
  rw [get?_strip]
  simp [hfence, hblank, hevents]

theorem kind_strip (store : Option State) (v : Json) : (strip store v).kind = v.kind := by
  apply kind_eq_of_get?
  apply get?_strip_of_not_mem <;> decide

theorem eventModule_strip (store : Option State) (v : Json)
    : eventModule (strip store v) = eventModule v := by
  have hhost : (strip store v).field "hostname" = v.field "hostname" := by
    have : (strip store v).get? "hostname" = v.get? "hostname" := by
      apply get?_strip_of_not_mem <;> decide
    simp only [Json.field, this]
  simp only [eventModule, kind_strip, hhost]

theorem stripItems_eq_map (store : Option State) (items : List Json)
    : stripItems store items = items.map (strip store) := by
  induction items with
  | nil => rfl
  | cons item items ih => rw [stripItems, ih, List.map_cons]

theorem asArray_stripArray (store : Option State) (v : Json)
    : (stripArray store v).asArray = v.asArray.map (fun items => items.map (strip store)) := by
  cases v with
  | array items => simp [stripArray, Json.asArray, stripItems_eq_map]
  | _ => rfl

theorem events_strip (store : Option State) (v : Json)
    : ((strip store v).field "events").asArray
        = ((v.field "events").asArray).map (fun items => items.map (strip store)) := by
  have hget : (strip store v).get? "events" = (v.get? "events").map (stripArray store) := by
    rw [get?_strip]
    simp [fenceFields, blankFields]
  simp only [Json.field, hget]
  cases v.get? "events" with
  | none => rfl
  | some events => exact asArray_stripArray store events

/--
The events of a frame: the frame itself and, if it is a batch, the events of its members.
-/
inductive Event : Json → Json → Prop where
  | frame (v : Json) : Event v v
  | member {v item e : Json} {items : List Json} (hbatch : v.kind = "batch")
      (hevents : (v.field "events").asArray = some items) (hmem : item ∈ items)
      (he : Event item e) : Event v e

theorem event_strip {store : Option State} {v e : Json} (h : Event (strip store v) e)
    : ∃ origin, Event v origin ∧ e = strip store origin := by
  generalize hframe : strip store v = frame at h
  induction h generalizing v with
  | frame frame => exact ⟨v, .frame v, hframe.symm⟩
  | member hbatch hevents hmem he ih =>
    subst hframe
    rw [kind_strip] at hbatch
    rw [events_strip] at hevents
    cases hitems : (v.field "events").asArray with
    | none => simp [hitems] at hevents
    | some items =>
      simp only [hitems, Option.map_some, Option.some.injEq] at hevents
      rw [← hevents, List.mem_map] at hmem
      rcases hmem with ⟨item, hitem, heq⟩
      rcases ih heq with ⟨origin, horigin, he⟩
      exact ⟨origin, .member hbatch hitems hitem horigin, he⟩

theorem outboundAllowedIn_event {s : State} {v e : Json} (h : Event v e)
    (hv : outboundAllowedIn replySessionCurrent s v = true)
    : outboundAllowedIn replySessionCurrent s e = true := by
  induction h with
  | frame v => exact hv
  | member hbatch hevents hmem he ih =>
    apply ih
    rw [outboundAllowedIn_eq] at hv
    simp only [hbatch, hevents] at hv
    simp at hv
    exact hv _ hmem

theorem generation_of_outboundAllowedIn {s : State} {e : Json} {m : Module}
    (h : outboundAllowedIn replySessionCurrent s e = true) (hm : eventModule e = some m)
    : ∃ g, Generation.ofJson (e.field "__module_generation") = some g
        ∧ g.module = m
        ∧ g.matches s = true := by
  have hbatch : e.kind ≠ "batch" := by
    intro heq
    simp [eventModule, heq] at hm
  rw [outboundAllowedIn_eq] at h
  split at h
  . contradiction
  . simp only [generationAllowedIn, hm] at h
    split at h
    . simp at h
    . split at h
      . contradiction
      . next g hg =>
        simp only [Option.all_some, Bool.and_eq_true, beq_iff_eq] at h
        exact ⟨g, hg, h.2, h.1⟩

-- A store that cannot be read counts as the default state on both sides of the fence.
theorem validFresh_eq (g : Generation) (store : Option State)
    : g.validFresh store = g.matches (store.getD State.default) := by
  cases store with
  | none => rfl
  | some s => rfl

theorem generation_of_windowAllowed {store : Option State} {e : Json}
    (h : windowAllowed store e = true)
    : ∃ g, Generation.ofJson (e.field "__window_generation") = some g
        ∧ g.module = .windowActivity
        ∧ g.matches (store.getD State.default) = true := by
  unfold windowAllowed at h
  cases hg : Generation.ofJson (e.field "__window_generation") with
  | none => simp [hg] at h
  | some g =>
    simp only [hg, Option.any_some, Bool.and_eq_true, beq_iff_eq, validFresh_eq] at h
    exact ⟨g, rfl, h.1, h.2⟩

/--
Two frames that differ only in what the fence must not let through: in the place of an event that
may not be sent there is another one that may not be sent, and key events without a valid window
generation differ in their window fields or in the tag of these.
-/
inductive Alike (store : Option State) : Json → Json → Prop where
  | same (v : Json) : Alike store v v
  | revoked {v w : Json} (hv : outboundAllowed replySessionCurrent store v = false)
      (hw : outboundAllowed replySessionCurrent store w = false) : Alike store v w
  | keys {xs ys : List (String × Json)} (hxs : Fields.Sorted xs) (hys : Fields.Sorted ys)
      (hkind : Json.kind (.object xs) = "keys")
      (hwx : windowAllowed store (.object xs) = false)
      (hwy : windowAllowed store (.object ys) = false)
      (h : ∀ key, key ∉ blankFields → key ≠ "__window_generation" →
        Fields.get? key xs = Fields.get? key ys)
      : Alike store (.object xs) (.object ys)
  | batch {xs ys : List (String × Json)} {es fs : List Json} (hxs : Fields.Sorted xs)
      (hys : Fields.Sorted ys) (hkind : Json.kind (.object xs) = "batch")
      (hex : Fields.get? "events" xs = some (.array es))
      (hey : Fields.get? "events" ys = some (.array fs))
      (h : ∀ key, key ≠ "events" → Fields.get? key xs = Fields.get? key ys)
      (hlen : es.length = fs.length) (hevents : ∀ e f, (e, f) ∈ es.zip fs → Alike store e f)
      : Alike store (.object xs) (.object ys)

theorem sorted_strip {store : Option State} {xs : List (String × Json)} (h : Fields.Sorted xs)
    : ∃ zs, strip store (.object xs) = .object zs ∧ Fields.Sorted zs := by
  have hkeys : Fields.Sorted (stripFields store xs) := by
    have hmap : (stripFields store xs).map Prod.fst = xs.map Prod.fst := by
      clear h
      induction xs with
      | nil => rfl
      | cons field rest ih => rw [stripFields, List.map_cons, List.map_cons, ih]
    have hpair (zs : List (String × Json))
        : Fields.Sorted zs ↔ (zs.map Prod.fst).Pairwise (fun a b => a < b) := by
      rw [List.pairwise_map]
      rfl
    rw [hpair, hmap, ← hpair]
    exact h
  have hblank : ∃ ys, blankWindow store (.object (stripFields store xs)) = .object ys
      ∧ Fields.Sorted ys := by
    unfold blankWindow
    split
    . refine ⟨_, rfl, ?_⟩
      apply Fields.Sorted.insert
      apply Fields.Sorted.insert
      apply Fields.Sorted.insert
      exact hkeys
    . exact ⟨_, rfl, hkeys⟩
  rcases hblank with ⟨ys, hys, hsorted⟩
  rw [strip, hys]
  refine ⟨_, rfl, ?_⟩
  apply Fields.Sorted.erase
  apply Fields.Sorted.erase
  apply Fields.Sorted.erase
  exact hsorted

theorem strip_ext {store : Option State} {xs ys : List (String × Json)} (hxs : Fields.Sorted xs)
    (hys : Fields.Sorted ys)
    (h : ∀ key, (strip store (.object xs)).get? key = (strip store (.object ys)).get? key)
    : strip store (.object xs) = strip store (.object ys) := by
  rcases sorted_strip hxs with ⟨zs, hzs, hsorted⟩
  rcases sorted_strip hys with ⟨zs', hzs', hsorted'⟩
  rw [hzs, hzs'] at h ⊢
  congr 1
  exact hsorted.ext hsorted' h

theorem Alike.keys_strip {store : Option State} {xs ys : List (String × Json)}
    (hxs : Fields.Sorted xs) (hys : Fields.Sorted ys) (hkind : Json.kind (.object xs) = "keys")
    (hwx : windowAllowed store (.object xs) = false)
    (hwy : windowAllowed store (.object ys) = false)
    (h : ∀ key, key ∉ blankFields → key ≠ "__window_generation" →
      Fields.get? key xs = Fields.get? key ys)
    : strip store (.object xs) = strip store (.object ys) := by
  have hkind' : Json.kind (.object ys) = "keys" := by
    rw [← hkind]
    apply kind_eq_of_get?
    exact (h "type" (by decide) (by decide)).symm
  apply strip_ext hxs hys
  intro key
  rw [get?_strip, get?_strip]
  simp only [hkind, hkind', hwx, hwy]
  split
  . rfl
  . next hfence =>
    split
    . rfl
    . next hblank =>
      have hblank : key ∉ blankFields := by simpa using hblank
      have htag : key ≠ "__window_generation" := by
        intro heq
        simp [heq, fenceFields] at hfence
      simp only [Json.get?, h key hblank htag]

theorem Alike.batch_strip {store : Option State} {xs ys : List (String × Json)} {es fs : List Json}
    (hxs : Fields.Sorted xs) (hys : Fields.Sorted ys) (hkind : Json.kind (.object xs) = "batch")
    (hex : Fields.get? "events" xs = some (.array es))
    (hey : Fields.get? "events" ys = some (.array fs))
    (h : ∀ key, key ≠ "events" → Fields.get? key xs = Fields.get? key ys)
    (hevents : es.map (strip store) = fs.map (strip store))
    : strip store (.object xs) = strip store (.object ys) := by
  have hkind' : Json.kind (.object ys) = "batch" := by
    rw [← hkind]
    apply kind_eq_of_get?
    exact (h "type" (by decide)).symm
  apply strip_ext hxs hys
  intro key
  rw [get?_strip, get?_strip]
  simp only [hkind, hkind']
  by_cases hkey : key = "events"
  . subst hkey
    simp [Json.get?, hex, hey, stripArray, stripItems_eq_map, hevents]
  . simp [Json.get?, h key hkey]

theorem Alike.keys_allowed {store : Option State} {xs ys : List (String × Json)}
    (hkind : Json.kind (.object xs) = "keys")
    (h : ∀ key, key ∉ blankFields → key ≠ "__window_generation" →
      Fields.get? key xs = Fields.get? key ys)
    : outboundAllowed replySessionCurrent store (.object xs)
        = outboundAllowed replySessionCurrent store (.object ys) := by
  have hkind' : Json.kind (.object ys) = "keys" := by
    rw [← hkind]
    apply kind_eq_of_get?
    exact (h "type" (by decide) (by decide)).symm
  have htag : Json.field (.object xs) "__module_generation"
      = Json.field (.object ys) "__module_generation" := by
    simp only [Json.field, Json.get?, h "__module_generation" (by decide) (by decide)]
  unfold outboundAllowed
  rw [outboundAllowedIn_eq, outboundAllowedIn_eq]
  simp [hkind, hkind', generationAllowedIn, eventModule, htag]

theorem outboundAllowed_batch {store : Option State} {xs : List (String × Json)} {es : List Json}
    (hkind : Json.kind (.object xs) = "batch") (hex : Fields.get? "events" xs = some (.array es))
    : outboundAllowed replySessionCurrent store (.object xs)
        = es.all (outboundAllowed replySessionCurrent store) := by
  have hevents : (Json.field (.object xs) "events").asArray = some es := by
    simp [Json.field, Json.get?, hex, Json.asArray]
  unfold outboundAllowed
  rw [outboundAllowedIn_eq]
  simp [hkind, hevents]

theorem Alike.allowed_strip {store : Option State} {v w : Json}
    (h : Alike replySessionCurrent store v w)
    : outboundAllowed replySessionCurrent store v = outboundAllowed replySessionCurrent store w
        ∧ (outboundAllowed replySessionCurrent store v = true → strip store v = strip store w) := by
  induction h with
  | same v => exact ⟨rfl, fun _ => rfl⟩
  | revoked hv hw =>
    rw [hv, hw]
    exact ⟨rfl, by simp⟩
  | keys hxs hys hkind hwx hwy h =>
    refine ⟨keys_allowed replySessionCurrent hkind h, ?_⟩
    intro _
    exact keys_strip hxs hys hkind hwx hwy h
  | @batch xs ys es fs hxs hys hkind hex hey h hlen hevents ih =>
    have hkind' : Json.kind (.object ys) = "batch" := by
      rw [← hkind]
      apply kind_eq_of_get?
      exact (h "type" (by decide)).symm
    rw [outboundAllowed_batch replySessionCurrent hkind hex,
      outboundAllowed_batch replySessionCurrent hkind' hey]
    -- Both statements about the batches reduce to the pairs of members at the same position.
    have hmembers : es.all (outboundAllowed replySessionCurrent store)
          = fs.all (outboundAllowed replySessionCurrent store)
        ∧ (es.all (outboundAllowed replySessionCurrent store) = true →
          es.map (strip store) = fs.map (strip store)) := by
      clear hex hey hevents
      induction es generalizing fs with
      | nil =>
        cases fs with
        | nil => simp
        | cons f fs => simp at hlen
      | cons e es ihes =>
        cases fs with
        | nil => simp at hlen
        | cons f fs =>
          have hhead := ih e f (by simp)
          have htail := ihes (by simpa using hlen) (fun e f hmem => ih e f (by simp [hmem]))
          simp only [List.all_cons, List.map_cons, Bool.and_eq_true, hhead.1, htail.1, true_and]
          intro hall
          rw [hhead.2 (by rw [hhead.1]; exact hall.1), htail.2 (by rw [htail.1]; exact hall.2)]
    refine ⟨hmembers.1, ?_⟩
    intro hall
    exact batch_strip hxs hys hkind hex hey h (hmembers.2 hall)

-- The events a revocation leaves behind are among those that may not be sent.
theorem outboundAllowed_of_revoked {store : Option State} {e : Json} {g : Generation}
    (hkind : e.kind ≠ "batch") (hg : Generation.ofJson (e.field "__module_generation") = some g)
    (h : g.matches (store.getD State.default) = false)
    : outboundAllowed replySessionCurrent store e = false := by
  have hnull : (e.field "__module_generation").isNull = false := by
    cases htag : e.field "__module_generation" with
    | null =>
      rw [htag] at hg
      contradiction
    | _ => rfl
  unfold outboundAllowed
  rw [outboundAllowedIn_eq]
  simp [hkind, generationAllowedIn, hnull, hg, h]

theorem prepareText_fence (fromStr : String → Option Json) (toStr : Json → String)
    (store : Option State)
    : (∀ text sent,
        prepareText replySessionCurrent fromStr toStr store text = some sent →
        ∃ frame,
          fromStr text = some frame
            ∧ sent = toStr (strip store frame)
            ∧ ∀ e, Event (strip store frame) e →
              ∃ origin,
                Event frame origin
                  ∧ e = strip store origin
                  ∧ (∀ m, eventModule e = some m →
                    ∃ g, Generation.ofJson (origin.field "__module_generation") = some g
                      ∧ g.module = m
                      ∧ g.matches (store.getD State.default) = true)
                  ∧ (∀ key ∈ fenceFields, e.get? key = none)
                  ∧ (e.kind = "keys" →
                    (∀ key ∈ blankFields, e.get? key = some (.string ""))
                      ∨ ∃ g, Generation.ofJson (origin.field "__window_generation") = some g
                        ∧ g.module = .windowActivity
                        ∧ g.matches (store.getD State.default) = true))
      ∧ (∀ text other frame frame',
        fromStr text = some frame →
        fromStr other = some frame' →
        Alike replySessionCurrent store frame frame' →
        prepareText replySessionCurrent fromStr toStr store text
          = prepareText replySessionCurrent fromStr toStr store other) := by
  constructor
  . intro text sent h
    unfold prepareText at h
    cases hframe : fromStr text with
    | none => simp [hframe] at h
    | some frame =>
      simp only [hframe, Option.bind_eq_bind, Option.bind_some] at h
      split at h
      . next hallowed =>
        refine ⟨frame, rfl, by simpa using h.symm, ?_⟩
        intro e he
        rcases event_strip he with ⟨origin, horigin, heq⟩
        refine ⟨origin, horigin, heq, ?_, ?_, ?_⟩
        . intro m hm
          rw [heq, eventModule_strip] at hm
          have := outboundAllowedIn_event replySessionCurrent horigin hallowed
          exact generation_of_outboundAllowedIn replySessionCurrent this hm
        . intro key hkey
          rw [heq, get?_strip, if_pos hkey]
        . intro hkind
          rw [heq, kind_strip] at hkind
          cases hwindow : windowAllowed store origin with
          | true => exact Or.inr (generation_of_windowAllowed hwindow)
          | false =>
            apply Or.inl
            intro key hkey
            have hfence : key ∉ fenceFields := by
              intro hfence
              simp only [blankFields, fenceFields, List.mem_cons, List.not_mem_nil] at hkey hfence
              aesop
            rw [heq, get?_strip, if_neg hfence, if_pos]
            simp [hkind, hwindow, hkey]
      . contradiction
  . intro text other frame frame' hframe hframe' halike
    have hstrip := Alike.allowed_strip replySessionCurrent halike
    unfold prepareText
    simp only [hframe, hframe', Option.bind_eq_bind, Option.bind_some, ← hstrip.1]
    split
    . next hallowed => rw [hstrip.2 hallowed]
    . rfl

end Outbound

section Batches

-- Keystrokes are granted at revision 1, nothing else is.
def keyboardGrant : State := State.default.setGrant .keyboardText true

def keysEvent (revision : Nat) : Json :=
  .object [
    ("__module_generation",
      .object [("module", .string "keyboard_text"), ("revision", .ofNat revision)]),
    ("text", .string "a"),
    ("type", .string "keys")
  ]

def sentKeysEvent : Json :=
  .object [
    ("app", .string ""),
    ("app_display", .string ""),
    ("text", .string "a"),
    ("type", .string "keys"),
    ("window", .string "")
  ]

def keysBatch (events : List Json) : Json :=
  .object [("events", .array events), ("type", .string "batch")]

def keysText (revision : String) : String :=
  "\x7b\"__module_generation\":\x7b\"module\":\"keyboard_text\",\"revision\":" ++ revision
    ++ "\x7d,\"text\":\"a\",\"type\":\"keys\"\x7d"

def sentKeysText : String :=
  "\x7b\"app\":\"\",\"app_display\":\"\",\"text\":\"a\",\"type\":\"keys\",\"window\":\"\"\x7d"

def batchText (events : List String) : String :=
  "\x7b\"events\":[" ++ String.intercalate "," events ++ "],\"type\":\"batch\"\x7d"

-- The reader and the printer on the texts below.
def readText (text : String) : Option Json :=
  [
    (keysText "1", keysEvent 1),
    (batchText [keysText "1"], keysBatch [keysEvent 1]),
    (batchText [keysText "1", keysText "0"], keysBatch [keysEvent 1, keysEvent 0])
  ].lookup text

def printText (v : Json) : String :=
  ([
    (sentKeysEvent, sentKeysText),
    (keysBatch [sentKeysEvent], batchText [sentKeysText])
  ].lookup v).getD ""

/--
An event that carries no window generation at all is sent with (empty) window fields, and a single
event of a revoked generation keeps the rest of its batch from being sent.
-/
theorem blank_fields_and_lost_batch
    : prepareText (fun _ => true) readText printText (some keyboardGrant) (keysText "1")
          = some sentKeysText
        ∧ (keysEvent 1).get? "__window_generation" = none
        ∧ sentKeysEvent.get? "app" = some (.string "")
        ∧ (Generation.matches { module := .keyboardText, revision := 0 } keyboardGrant) = false
        ∧ prepareText (fun _ => true) readText printText (some keyboardGrant)
            (batchText [keysText "1"]) = some (batchText [sentKeysText])
        ∧ prepareText (fun _ => true) readText printText (some keyboardGrant)
            (batchText [keysText "1", keysText "0"]) = none := by
  decide +kernel

end Batches

end Permissions

end Vantyr
