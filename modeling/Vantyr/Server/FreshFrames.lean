import Vantyr.Server.Devices

/-!
This module proves which capture the frame belongs to that control is granted against. An old frame can be
on its way when a capture is started anew, and the server tells it by the captures it has seen.
-/

namespace Vantyr

namespace World

/-!
The ids of the captures and the frames on their way.
-/

structure Ids (w : World) : Prop where
  opened : ∀ conn, ∀ capture ∈ (w.devices conn).captures, capture.id ∈ w.opened
  unique : ∀ conn conn' (i j : Nat) capture capture', (w.devices conn).captures[i]? = some capture
    → (w.devices conn').captures[j]? = some capture' → capture.id = capture'.id
    → conn = conn' ∧ i = j
  tidy : ∀ conn, (w.devices conn).Tidy
  unused : ∀ conn, conn ∉ w.server.minted → w.devices conn = Device.init
  cached : ∀ agent id, w.server.cachedCapture agent = some id → id ∈ w.opened
  observed : ∀ agent, ∀ id ∈ w.observed agent, id ∈ w.opened
  retired : ∀ agent entry, w.server.retiredCaptures agent = some entry
    → entry.1 ∈ w.server.minted ∧ ∀ id ∈ entry.2, id ∈ w.opened

theorem Ids.retiredIds {w : World} (h : w.Ids) {agent conn id : Uuid}
    (hid : id ∈ w.server.retiredIds agent conn) : id ∈ w.opened := by
  unfold AppState.retiredIds at hid
  cases hentry : (w.server.retiredCaptures agent).filter (fun entry => entry.1 = conn) with
  | none =>
    rw [hentry] at hid
    cases hid
  | some entry =>
    rw [hentry] at hid
    rw [Option.filter_eq_some_iff] at hentry
    exact (h.retired agent entry hentry.1).2 id hid

/-!
What the server knows of the captures on a connection.
-/

section Linked

variable (w : World) (agent conn : Uuid)

-- The capture on record ignores what was observed before it was started.
structure OnRecord (active : ActiveCapture) : Prop where
  latest : active.generation ≠ Uuid.nil → w.latest agent = some active.generation
  opened : ∀ id, w.server.cachedCapture agent = some id
    → ∃ capture ∈ (w.devices conn).captures, capture.id = id
  cached : ∀ id, w.server.cachedCapture agent = some id → id ∈ w.observed agent
    → id ∈ active.retiredCaptureIds
  coming : ∀ i ∈ (w.devices conn).coming, ∀ capture, (w.devices conn).captures[i]? = some capture
    → capture.id ∈ w.observed agent → capture.id ∈ active.retiredCaptureIds

structure Linked : Prop where
  -- What comes is not older than what was seen.
  seen : ∀ id, id ∈ w.server.retiredIds agent conn ∨ w.server.cachedCapture agent = some id
    → ∀ i capture, (w.devices conn).captures[i]? = some capture → capture.id = id
    → ∀ j ∈ (w.devices conn).coming, i ≤ j
  -- Nothing retired comes after the frame of a capture that is not retired.
  passed : ∀ id, w.server.cachedCapture agent = some id → id ∉ w.server.retiredIds agent conn
    → ∀ i ∈ (w.devices conn).coming, ∀ capture, (w.devices conn).captures[i]? = some capture
    → capture.id ∉ w.server.retiredIds agent conn
  -- What was observed and is still to come has not been pushed out of the list.
  retained : ∀ i ∈ (w.devices conn).coming, ∀ capture, (w.devices conn).captures[i]? = some capture
    → capture.id ∈ w.observed agent → capture.id ∈ w.server.retiredIds agent conn
  record : ∀ active, w.server.activeCapture agent = some active → w.OnRecord agent conn active

/--
Every capture that may still reach the server was opened for the latest start, or the capture on record
ignores it; so with the cached frame, and with the captures that are about to be opened.
-/
structure Current (active : ActiveCapture) : Prop where
  coming : ∀ i ∈ (w.devices conn).coming, ∀ capture, (w.devices conn).captures[i]? = some capture
    → capture.id ∈ active.retiredCaptureIds ∨ w.Latest agent capture.generation
  cached : ∀ id, w.server.cachedCapture agent = some id
    → id ∈ active.retiredCaptureIds
      ∨ ∃ capture ∈ (w.devices conn).captures, capture.id = id ∧ w.Latest agent capture.generation
  pending : ∀ entry ∈ (w.server.sockets conn).written.drop (w.devices conn).executed,
    entry.2.kind = "start_capture" → w.Latest agent (entry.2.get? "__capture_generation")

end Linked

structure Inv (w : World) : Prop where
  reachable : Vantyr.Reachable w.server
  ids : w.Ids
  linked : ∀ agent conn, w.server.connId? agent = some conn → w.Linked agent conn

-- What holds in addition as long as the connections are settled whenever a capture is started anew.
def AllCurrent (w : World) : Prop :=
  ∀ agent conn active, w.server.connId? agent = some conn
    → w.server.activeCapture agent = some active → w.Current agent conn active

/-!
Operations of the server.
-/

section Serve

variable {w : World} {op : Op} {agent conn : Uuid}

theorem serve_latest {active : ActiveCapture}
    (hactive : (w.server.exec op).activeCapture agent = some active)
    (hnil : active.generation ≠ Uuid.nil)
    : (w.serve op).latest agent = some active.generation := by
  simp [serve, hactive, Option.filter, hnil]

-- The capture that was started last stays the same as long as the record is kept.
theorem serve_kept {active before : ActiveCapture}
    (hactive : (w.server.exec op).activeCapture agent = some active)
    (hgeneration : active.generation = before.generation ∨ active.generation = Uuid.nil)
    (hlatest : before.generation ≠ Uuid.nil → w.latest agent = some before.generation)
    : (w.serve op).latest agent = w.latest agent := by
  by_cases hnil : active.generation = Uuid.nil
  . simp [serve, hactive, Option.filter, hnil]
  . rw [serve_latest hactive hnil]
    rcases hgeneration with heq | heq
    . rw [heq] at hnil ⊢
      exact (hlatest hnil).symm
    . exact absurd heq hnil

theorem restarts_kept (hreach : Vantyr.Reachable w.server)
    (hactive : Kept (w.server.activeCapture agent) ((w.server.exec op).activeCapture agent))
    : w.restarts op agent = false := by
  rw [restarts, Option.any_eq_false]
  intro active hrecord
  rcases hactive active hrecord with ⟨before, hbefore, _, _, heq | hnil⟩
  . have hminted := hreach.generationsMinted agent before hbefore
    rw [← heq] at hminted
    simpa using hminted
  . simp [hnil]

theorem observed_kept (hreach : Vantyr.Reachable w.server)
    (hactive : Kept (w.server.activeCapture agent) ((w.server.exec op).activeCapture agent))
    : (w.serve op).observed agent = w.observed agent := by
  simp [serve, restarts_kept hreach hactive]

theorem mem_observed {id : Uuid} (h : id ∈ (w.serve op).observed agent)
    : w.server.cachedCapture agent = some id ∨ id ∈ w.observed agent := by
  simp only [serve] at h
  split at h
  . simpa using h
  . exact .inr h

theorem Latest.of_eq {v : World} {tag : Option Json} (h : w.Latest agent tag)
    (heq : v.latest agent = w.latest agent) : v.Latest agent tag := by
  unfold Latest
  rw [heq]
  exact h

-- Frames that were cached may have been dropped.
theorem cached_of_step (hstep : CaptureStep w.server (w.server.exec op) agent) {id : Uuid}
    (h : (w.serve op).server.cachedCapture agent = some id)
    : w.server.cachedCapture agent = some id := by
  change (w.server.exec op).cachedCapture agent = some id at h
  rcases hstep.cached with heq | hnone
  . rw [← heq]
    exact h
  . rw [hnone] at h
    cases h

theorem OnRecord.serve {active before : ActiveCapture} (h : w.OnRecord agent conn before)
    (hreach : Vantyr.Reachable w.server) (hstep : CaptureStep w.server (w.server.exec op) agent)
    (hkept : Kept (w.server.activeCapture agent) ((w.server.exec op).activeCapture agent))
    (hactive : (w.server.exec op).activeCapture agent = some active)
    (hids : active.retiredCaptureIds = before.retiredCaptureIds)
    : (w.serve op).OnRecord agent conn active := by
  constructor
  . exact fun hnil => serve_latest hactive hnil
  . intro id hid
    exact h.opened id (cached_of_step hstep hid)
  . intro id hid hobserved
    rw [observed_kept hreach hkept] at hobserved
    rw [hids]
    exact h.cached id (cached_of_step hstep hid) hobserved
  . intro i hi capture hcapture hobserved
    rw [observed_kept hreach hkept] at hobserved
    rw [hids]
    exact h.coming i hi capture hcapture hobserved

theorem Linked.kept (h : w.Linked agent conn) (hreach : Vantyr.Reachable w.server)
    (hstep : CaptureStep w.server (w.server.exec op) agent)
    (hretired : (w.server.exec op).retiredIds agent conn = w.server.retiredIds agent conn)
    (hactive : Kept (w.server.activeCapture agent) ((w.server.exec op).activeCapture agent))
    : (w.serve op).Linked agent conn := by
  have hretired' : (w.serve op).server.retiredIds agent conn = w.server.retiredIds agent conn :=
    hretired
  constructor
  . intro id hid
    rw [hretired'] at hid
    exact h.seen id (hid.imp_right (cached_of_step hstep))
  . intro id hid hnot
    rw [hretired'] at hnot ⊢
    exact h.passed id (cached_of_step hstep hid) hnot
  . rw [hretired', observed_kept hreach hactive]
    exact h.retained
  . intro active hrecord
    rcases hactive active hrecord with ⟨before, hbefore, _, hids, _⟩
    exact (h.record before hbefore).serve hreach hstep hactive hrecord hids

-- What was observed and is still to come is remembered when the capture is started anew.
theorem Linked.remembered (h : w.Linked agent conn) {i : Nat} (hi : i ∈ (w.devices conn).coming)
    {capture : DeviceCapture} (hcapture : (w.devices conn).captures[i]? = some capture)
    (hseen : w.server.cachedCapture agent = some capture.id
      ∨ capture.id ∈ w.server.retiredIds agent conn)
    : capture.id ∈ w.server.retireObserved agent conn := by
  apply AppState.mem_retireObserved hseen.symm
  intro cached hcached hnot
  exact h.passed cached hcached hnot i hi capture hcapture

theorem Linked.refused (h : w.Linked agent conn) (hreach : Vantyr.Reachable w.server)
    (hstep : CaptureStep w.server (w.server.exec op) agent)
    (hretired : (w.server.exec op).retiredIds agent conn = w.server.retireObserved agent conn)
    (hactive : (w.server.exec op).activeCapture agent = w.server.activeCapture agent)
    : (w.serve op).Linked agent conn := by
  have hretired' : (w.serve op).server.retiredIds agent conn
      = w.server.retireObserved agent conn :=
    hretired
  have hkept : Kept (w.server.activeCapture agent) ((w.server.exec op).activeCapture agent) := by
    rw [hactive]
    exact Kept.refl _
  constructor
  . intro id hid
    rw [hretired'] at hid
    rcases hid with hid | hid
    . exact h.seen id (AppState.retireObserved_subset hid)
    . exact h.seen id (.inr (cached_of_step hstep hid))
  . -- The cached frame has just been retired.
    intro id hid hnot
    rw [hretired'] at hnot
    exact absurd (AppState.cachedCapture_retired (cached_of_step hstep hid)) hnot
  . rw [hretired', observed_kept hreach hkept]
    intro i hi capture hcapture hobserved
    exact h.remembered hi hcapture (.inr (h.retained i hi capture hcapture hobserved))
  . intro active hrecord
    have hbefore : w.server.activeCapture agent = some active := by
      rw [← hactive]
      exact hrecord
    exact (h.record active hbefore).serve hreach hstep hkept hrecord rfl

theorem Linked.restarted (h : w.Linked agent conn) {active : ActiveCapture}
    (hretired : (w.server.exec op).retiredIds agent conn = w.server.retireObserved agent conn)
    (hcached : (w.server.exec op).cachedCapture agent = none)
    (hactive : (w.server.exec op).activeCapture agent = some active)
    (hids : active.retiredCaptureIds = w.server.retireObserved agent conn)
    : (w.serve op).Linked agent conn := by
  have hretired' : (w.serve op).server.retiredIds agent conn
      = w.server.retireObserved agent conn :=
    hretired
  have hcached' : (w.serve op).server.cachedCapture agent = none := hcached
  have hremembered : ∀ i ∈ (w.devices conn).coming, ∀ capture,
      (w.devices conn).captures[i]? = some capture → capture.id ∈ (w.serve op).observed agent
        → capture.id ∈ w.server.retireObserved agent conn := by
    intro i hi capture hcapture hobserved
    rcases mem_observed hobserved with hid | hid
    . exact h.remembered hi hcapture (.inl hid)
    . exact h.remembered hi hcapture (.inr (h.retained i hi capture hcapture hid))
  constructor
  . intro id hid
    rw [hretired', hcached'] at hid
    rcases hid with hid | hid
    . exact h.seen id (AppState.retireObserved_subset hid)
    . cases hid
  . intro id hid
    rw [hcached'] at hid
    cases hid
  . rw [hretired']
    exact hremembered
  . intro other hother
    change (w.server.exec op).activeCapture agent = some other at hother
    rw [hactive, Option.some.injEq] at hother
    subst hother
    constructor
    . exact fun hnil => serve_latest hactive hnil
    . intro id hid
      rw [hcached'] at hid
      cases hid
    . intro id hid
      rw [hcached'] at hid
      cases hid
    . rw [hids]
      exact hremembered

theorem Linked.of_init (hdevice : w.devices conn = Device.init)
    (hactive : w.server.activeCapture agent = none) : w.Linked agent conn := by
  constructor
  . intro id _ i capture _ _ j hj
    rw [hdevice] at hj
    cases hj
  . intro id _ _ i hi
    rw [hdevice] at hi
    cases hi
  . intro i hi
    rw [hdevice] at hi
    cases hi
  . intro active hrecord
    rw [hactive] at hrecord
    cases hrecord

theorem Inv.linked_serve (h : w.Inv) (hfresh : w.server.Fresh op) (hframe : op.isFrame = false)
    (hconn : (w.server.exec op).connId? agent = some conn) : (w.serve op).Linked agent conn := by
  have hstep := exec_captureStep h.reachable.sound hfresh hframe agent
  cases hstep.move with
  | kept hsame hretired hactive =>
    rw [hsame] at hconn
    exact (h.linked agent conn hconn).kept h.reachable hstep (hretired conn hconn) hactive
  | refused hold hsame hretired hcached hactive =>
    rw [hsame, hold, Option.some.injEq] at hconn
    subst hconn
    exact (h.linked agent _ hold).refused h.reachable hstep hretired hactive
  | restarted hold hsame hretired hcached hactive hids hnil hnew =>
    rw [hsame, hold, Option.some.injEq] at hconn
    subst hconn
    exact (h.linked agent _ hold).restarted hretired hcached hactive hids
  | moved hgone hactive =>
    exact .of_init (h.ids.unused conn (hgone conn hconn)) hactive

theorem Ids.serve (h : w.Ids) (hs : Sound w.server) (hfresh : w.server.Fresh op)
    (hframe : op.isFrame = false) : (w.serve op).Ids where
  opened := h.opened
  unique := h.unique
  tidy := h.tidy
  unused := by
    intro conn hconn
    exact h.unused conn (fun hmem => hconn (exec_minted hs hfresh hmem))
  cached := by
    intro agent id hid
    change (w.server.exec op).cachedCapture agent = some id at hid
    rcases (exec_captureStep hs hfresh hframe agent).cached with heq | hnone
    . rw [heq] at hid
      exact h.cached agent id hid
    . rw [hnone] at hid
      cases hid
  observed := by
    intro agent id hid
    rcases mem_observed hid with hcached | hold
    . exact h.cached agent id hcached
    . exact h.observed agent id hold
  retired := by
    intro agent entry hentry
    rcases (exec_captureStep hs hfresh hframe agent).retired entry hentry with
      hold | ⟨conn, hconn, rfl⟩
    . have := h.retired agent entry hold
      exact ⟨exec_minted hs hfresh this.1, this.2⟩
    . refine ⟨exec_minted hs hfresh (hs.1.minted agent conn hconn), ?_⟩
      intro id hid
      rcases AppState.retireObserved_subset hid with hid | hid
      . exact h.retiredIds hid
      . exact h.cached agent id hid

theorem Current.kept {active before : ActiveCapture} (h : w.Current agent conn before)
    (hrecord : w.OnRecord agent conn before) (hreach : Vantyr.Reachable w.server)
    (hfresh : w.server.Fresh op) (hstep : CaptureStep w.server (w.server.exec op) agent)
    (hconn : w.server.connId? agent = some conn)
    (hbefore : w.server.activeCapture agent = some before)
    (hactive : (w.server.exec op).activeCapture agent = some active)
    (hids : active.retiredCaptureIds = before.retiredCaptureIds)
    (hgeneration : active.generation = before.generation ∨ active.generation = Uuid.nil)
    : (w.serve op).Current agent conn active := by
  have hlatest := serve_kept hactive hgeneration hrecord.latest
  constructor
  . intro i hi capture hcapture
    rw [hids]
    exact (h.coming i hi capture hcapture).imp_right (fun hlast => hlast.of_eq hlatest)
  . intro id hid
    rw [hids]
    rcases h.cached id (cached_of_step hstep hid) with hmem | ⟨capture, hmem, heq, hlast⟩
    . exact .inl hmem
    . exact .inr ⟨capture, hmem, heq, hlast.of_eq hlatest⟩
  . intro entry hentry hkind
    change entry ∈ ((w.server.exec op).sockets conn).written.drop (w.devices conn).executed at hentry
    rcases exec_started hreach hfresh conn with hsame | ⟨new, hnew, _, hstarted⟩
    . rw [hsame] at hentry
      exact (h.pending entry hentry hkind).of_eq hlatest
    . rw [hnew, List.drop_append, List.mem_append] at hentry
      rcases hentry with hentry | hentry
      . exact (h.pending entry hentry hkind).of_eq hlatest
      . have hmem := List.mem_of_mem_drop hentry
        rw [List.mem_singleton] at hmem
        subst hmem
        rcases hstarted hkind agent hconn with ⟨started, hstart, hnil, htag⟩
        rw [hbefore, Option.some.injEq] at hstart
        subst hstart
        exact ⟨before.generation, hlatest.trans (hrecord.latest hnil), htag⟩

theorem Current.restarted {active : ActiveCapture} (h : w.Linked agent conn)
    (hsettled : w.Settled agent conn) (hcached : (w.server.exec op).cachedCapture agent = none)
    (hids : active.retiredCaptureIds = w.server.retireObserved agent conn)
    (hwritten : ((w.server.exec op).sockets conn).written = (w.server.sockets conn).written)
    : (w.serve op).Current agent conn active := by
  constructor
  . intro i hi capture hcapture
    left
    rw [hids]
    exact h.remembered hi hcapture (hsettled.seen i hi capture hcapture).symm
  . intro id hid
    change (w.server.exec op).cachedCapture agent = some id at hid
    rw [hcached] at hid
    cases hid
  . intro entry hentry hkind
    change entry ∈ ((w.server.exec op).sockets conn).written.drop (w.devices conn).executed at hentry
    rw [hwritten] at hentry
    exact absurd hkind (hsettled.executed entry hentry)

theorem AllCurrent.serve (h : w.AllCurrent) (hinv : w.Inv) (hfresh : w.server.Fresh op)
    (hframe : op.isFrame = false)
    (hsettling : ∀ agent conn, w.server.connId? agent = some conn → w.restarts op agent = true
      → w.Settled agent conn)
    : (w.serve op).AllCurrent := by
  intro agent conn active hconn hactive
  have hstep := exec_captureStep hinv.reachable.sound hfresh hframe agent
  have hkept : ∀ {before : ActiveCapture}, w.server.connId? agent = some conn
      → w.server.activeCapture agent = some before
      → active.retiredCaptureIds = before.retiredCaptureIds
      → active.generation = before.generation ∨ active.generation = Uuid.nil
      → (w.serve op).Current agent conn active := by
    intro before hold hbefore hids hgeneration
    exact (h agent conn before hold hbefore).kept ((hinv.linked agent conn hold).record before hbefore)
      hinv.reachable hfresh hstep hold hbefore hactive hids hgeneration
  cases hstep.move with
  | kept hsame hretired hrecord =>
    rcases hrecord active hactive with ⟨before, hbefore, _, hids, hgeneration⟩
    exact hkept (hsame.symm.trans hconn) hbefore hids hgeneration
  | refused hold hsame hretired hcached hrecord =>
    exact hkept (hsame.symm.trans hconn) (hrecord.symm.trans hactive) rfl (.inl rfl)
  | @restarted _ started hold hsame hretired hcached hrecord hids hnil hnew =>
    have hold' : w.server.connId? agent = some conn := hsame.symm.trans hconn
    rw [hold, Option.some.injEq] at hold'
    subst hold'
    have hstarted : active = started := Option.some.inj (hactive.symm.trans hrecord)
    subst hstarted
    rcases exec_started hinv.reachable hfresh _ with hwritten | ⟨_, _, hview, _⟩
    . refine Current.restarted (hinv.linked agent _ hold) (hsettling agent _ hold ?_) hcached hids
        hwritten
      simp [restarts, hrecord, hnil, hnew]
    . -- Nothing is started by what is written.
      simp only [AppState.captureView, Prod.mk.injEq] at hview
      exact hkept hold (by rw [← hview.2]; exact hrecord) rfl (.inl rfl)
  | moved hgone hrecord =>
    have : none = some active := hrecord.symm.trans hactive
    cases this

end Serve

/-!
The devices.
-/

section Devices

variable {w : World} {conn : Uuid} {device : Device}

theorem setDevice_devices (w : World) (conn other : Uuid) (device : Device)
    : (w.setDevice conn device).devices other = if other = conn then device else w.devices other :=
  Function.update_apply ..

theorem setDevice_quieter (h : (w.devices conn).Quieter device) (other : Uuid)
    : (w.devices other).Quieter ((w.setDevice conn device).devices other) := by
  rw [setDevice_devices]
  split
  . next heq =>
    rw [heq]
    exact h
  . exact .refl _

theorem Linked.quieter {agent other : Uuid} (h : w.Linked agent other)
    (hquieter : (w.devices conn).Quieter device) : (w.setDevice conn device).Linked agent other := by
  have hdevice := setDevice_quieter hquieter other
  constructor
  . intro id hid i capture hcapture heq j hj
    rw [hdevice.captures] at hcapture
    exact h.seen id hid i capture hcapture heq j (hdevice.coming j hj)
  . intro id hid hnot i hi capture hcapture
    rw [hdevice.captures] at hcapture
    exact h.passed id hid hnot i (hdevice.coming i hi) capture hcapture
  . intro i hi capture hcapture
    rw [hdevice.captures] at hcapture
    exact h.retained i (hdevice.coming i hi) capture hcapture
  . intro active hactive
    have hrecord := h.record active hactive
    refine ⟨hrecord.latest, ?_, hrecord.cached, ?_⟩
    . rw [hdevice.captures]
      exact hrecord.opened
    . intro i hi capture hcapture
      rw [hdevice.captures] at hcapture
      exact hrecord.coming i (hdevice.coming i hi) capture hcapture

theorem Current.quieter {agent other : Uuid} {active : ActiveCapture}
    (h : w.Current agent other active) (hquieter : (w.devices conn).Quieter device)
    : (w.setDevice conn device).Current agent other active := by
  have hdevice := setDevice_quieter hquieter other
  constructor
  . intro i hi capture hcapture
    rw [hdevice.captures] at hcapture
    exact h.coming i (hdevice.coming i hi) capture hcapture
  . rw [hdevice.captures]
    exact h.cached
  . intro entry hentry
    exact h.pending entry (List.drop_subset_drop_left _ hdevice.executed hentry)

theorem Ids.quieter (h : w.Ids) (hquieter : (w.devices conn).Quieter device) (htidy : device.Tidy)
    (hunused : conn ∉ w.server.minted → device = Device.init) : (w.setDevice conn device).Ids := by
  have hcaptures : ∀ other,
      ((w.setDevice conn device).devices other).captures = (w.devices other).captures := by
    intro other
    rw [setDevice_devices]
    split
    . next heq => rw [heq, hquieter.captures]
    . rfl
  constructor
  . intro other
    rw [hcaptures]
    exact h.opened other
  . intro a b i j capture capture'
    rw [hcaptures, hcaptures]
    exact h.unique a b i j capture capture'
  . intro other
    rw [setDevice_devices]
    split
    . exact htidy
    . exact h.tidy other
  . intro other hother
    rw [setDevice_devices]
    split
    . next heq =>
      rw [heq] at hother
      exact hunused hother
    . exact h.unused other hother
  . exact h.cached
  . exact h.observed
  . exact h.retired

-- A socket to which something was written belongs to a connection.
theorem minted_of_written (hs : Sound w.server) {position : Nat} {entry : Nat × Json}
    (h : (w.server.sockets conn).written[position]? = some entry) : conn ∈ w.server.minted := by
  by_contra hconn
  have hlt := (hs.2.written conn entry (List.mem_of_getElem? h)).1
  have hle := hs.2.taken conn
  rw [(hs.2.unused conn hconn).1, List.length_nil] at hle
  omega

theorem getElem?_concat_cases {captures : List DeviceCapture} {new capture : DeviceCapture} {i : Nat}
    (h : (captures ++ [new])[i]? = some capture)
    : captures[i]? = some capture ∨ i = captures.length ∧ capture = new := by
  rw [List.getElem?_append] at h
  split at h
  . exact .inl h
  . rw [List.getElem?_singleton] at h
    split at h
    . rw [Option.some.injEq] at h
      exact .inr ⟨by omega, h.symm⟩
    . cases h

-- The device opens a capture for a command.
def openCapture (w : World) (conn id : Uuid) (cmd : Json) : World :=
  { w.setDevice conn ((w.devices conn).start id cmd) with opened := id :: w.opened }

section Open

variable {id : Uuid} {cmd : Json}

theorem openCapture_devices (other : Uuid)
    : (w.openCapture conn id cmd).devices other
        = if other = conn then (w.devices conn).start id cmd else w.devices other :=
  Function.update_apply ..

theorem openCapture_captures {other : Uuid} {i : Nat} {capture : DeviceCapture}
    (h : ((w.openCapture conn id cmd).devices other).captures[i]? = some capture)
    : (w.devices other).captures[i]? = some capture
      ∨ other = conn ∧ i = (w.devices conn).captures.length
        ∧ capture = { id, generation := cmd.get? "__capture_generation" } := by
  rw [openCapture_devices] at h
  split at h
  . next heq =>
    rw [heq]
    exact (getElem?_concat_cases h).imp_right (fun hnew => ⟨rfl, hnew⟩)
  . exact .inl h

theorem openCapture_mem {other : Uuid} {capture : DeviceCapture}
    (h : capture ∈ (w.devices other).captures)
    : capture ∈ ((w.openCapture conn id cmd).devices other).captures := by
  rw [openCapture_devices]
  split
  . next hother =>
    rw [hother] at h
    exact List.mem_append_left _ h
  . exact h

theorem openCapture_coming {other : Uuid} {i : Nat}
    (h : i ∈ ((w.openCapture conn id cmd).devices other).coming)
    : i ∈ (w.devices other).coming ∨ other = conn ∧ i = (w.devices conn).captures.length := by
  rw [openCapture_devices] at h
  split at h
  . next heq =>
    rw [heq]
    simp only [Device.coming, Device.start, Option.toList_some, List.mem_append,
      List.mem_singleton] at h
    rcases h with h | h
    . exact .inl (List.mem_append_left _ h)
    . exact .inr ⟨rfl, h⟩
  . exact .inl h

-- A capture that was opened before is not at the position of the new one.
theorem openCapture_old {other : Uuid} {i : Nat} {capture : DeviceCapture}
    (hi : i ∈ ((w.openCapture conn id cmd).devices other).coming)
    (hcapture : (w.devices other).captures[i]? = some capture) : i ∈ (w.devices other).coming := by
  rcases openCapture_coming hi with hi | ⟨hother, rfl⟩
  . exact hi
  . rw [hother] at hcapture
    exact absurd (List.getElem?_eq_some_iff.mp hcapture).1 (Nat.lt_irrefl _)

theorem Ids.openCapture (h : w.Ids) (hid : id ∉ w.opened) (hconn : conn ∈ w.server.minted)
    : (w.openCapture conn id cmd).Ids where
  opened := by
    intro other capture hcapture
    rcases List.getElem?_of_mem hcapture with ⟨i, hi⟩
    rcases openCapture_captures hi with hold | ⟨_, _, rfl⟩
    . exact List.mem_cons_of_mem _ (h.opened other capture (List.mem_of_getElem? hold))
    . exact List.mem_cons_self
  unique := by
    have hnew : ∀ other (i : Nat) capture, (w.devices other).captures[i]? = some capture
        → capture.id ≠ id := by
      intro other i capture hcapture heq
      apply hid
      rw [← heq]
      exact h.opened other capture (List.mem_of_getElem? hcapture)
    intro a b i j capture capture' hcapture hcapture' heq
    rcases openCapture_captures hcapture with hold | ⟨ha, hi, rfl⟩
    . rcases openCapture_captures hcapture' with hold' | ⟨_, _, rfl⟩
      . exact h.unique a b i j capture capture' hold hold' heq
      . exact absurd heq (hnew a i capture hold)
    . rcases openCapture_captures hcapture' with hold' | ⟨hb, hj, _⟩
      . exact absurd heq.symm (hnew b j capture' hold')
      . exact ⟨ha.trans hb.symm, hi.trans hj.symm⟩
  tidy := by
    intro other
    rw [openCapture_devices]
    split
    . exact (h.tidy conn).start _ _
    . exact h.tidy other
  unused := by
    intro other hother
    rw [openCapture_devices]
    split
    . next heq =>
      rw [heq] at hother
      exact absurd hconn hother
    . exact h.unused other hother
  cached := by
    intro agent cached hcached
    exact List.mem_cons_of_mem _ (h.cached agent cached hcached)
  observed := by
    intro agent id hid
    exact List.mem_cons_of_mem _ (h.observed agent id hid)
  retired := by
    intro agent entry hentry
    have := h.retired agent entry hentry
    exact ⟨this.1, fun id hid => List.mem_cons_of_mem _ (this.2 id hid)⟩

theorem Linked.openCapture {agent other : Uuid} (h : w.Linked agent other) (hids : w.Ids)
    (hid : id ∉ w.opened) : (w.openCapture conn id cmd).Linked agent other := by
  have hknown : ∀ seen, seen ∈ w.server.retiredIds agent other
      ∨ w.server.cachedCapture agent = some seen → seen ≠ id := by
    intro seen hseen heq
    apply hid
    rw [← heq]
    rcases hseen with hretired | hcached
    . exact hids.retiredIds hretired
    . exact hids.cached agent seen hcached
  constructor
  . intro seen hseen i capture hcapture heq j hj
    rcases openCapture_captures hcapture with hcapture | ⟨_, _, rfl⟩
    . rcases openCapture_coming hj with hj | ⟨hother, rfl⟩
      . exact h.seen seen hseen i capture hcapture heq j hj
      . rw [hother] at hcapture
        exact Nat.le_of_lt (List.getElem?_eq_some_iff.mp hcapture).1
    . exact absurd heq.symm (hknown seen hseen)
  . intro cached hcached hnot i hi capture hcapture hretired
    rcases openCapture_captures hcapture with hcapture | ⟨_, _, rfl⟩
    . exact h.passed cached hcached hnot i (openCapture_old hi hcapture) capture hcapture hretired
    . exact hknown _ (.inl hretired) rfl
  . intro i hi capture hcapture hobserved
    rcases openCapture_captures hcapture with hcapture | ⟨_, _, rfl⟩
    . exact h.retained i (openCapture_old hi hcapture) capture hcapture hobserved
    . exact absurd (hids.observed agent id hobserved) hid
  . intro active hactive
    have hrecord := h.record active hactive
    refine ⟨hrecord.latest, ?_, hrecord.cached, ?_⟩
    . intro cached hcached
      rcases hrecord.opened cached hcached with ⟨capture, hmem, heq⟩
      exact ⟨capture, openCapture_mem hmem, heq⟩
    . intro i hi capture hcapture hobserved
      rcases openCapture_captures hcapture with hcapture | ⟨_, _, rfl⟩
      . exact hrecord.coming i (openCapture_old hi hcapture) capture hcapture hobserved
      . exact absurd (hids.observed agent id hobserved) hid

theorem Current.openCapture {agent other : Uuid} {active : ActiveCapture}
    (h : w.Current agent other active) {position : Nat}
    (hwritten : (w.server.sockets conn).written[(w.devices conn).executed]? = some (position, cmd))
    (hkind : cmd.kind = "start_capture") : (w.openCapture conn id cmd).Current agent other active := by
  constructor
  . intro i hi capture hcapture
    rcases openCapture_captures hcapture with hcapture | ⟨hother, _, rfl⟩
    . exact h.coming i (openCapture_old hi hcapture) capture hcapture
    . -- The command waited to be executed.
      right
      subst hother
      refine h.pending (position, cmd) ?_ hkind
      rw [List.mem_iff_getElem?]
      refine ⟨0, ?_⟩
      rw [List.getElem?_drop]
      exact hwritten
  . intro cached hcached
    rcases h.cached cached hcached with hmem | ⟨capture, hmem, heq, hlatest⟩
    . exact .inl hmem
    . exact .inr ⟨capture, openCapture_mem hmem, heq, hlatest⟩
  . intro entry hentry
    apply h.pending entry
    rw [openCapture_devices] at hentry
    split at hentry
    . next hother =>
      rw [hother] at hentry ⊢
      exact List.drop_subset_drop_left _ (Nat.le_succ _) hentry
    . exact hentry

end Open

end Devices

/-!
Frames that arrive.
-/

section Arrive

variable {s : AppState} {agent conn : Uuid} {geometry : Option Geometry} {now : Nat}

structure Stored (s t : AppState) (agent : Uuid) (geometry : Option Geometry) : Prop where
  connections : t.connections = s.connections
  retiredCaptures : t.retiredCaptures = s.retiredCaptures
  activeCapture : t.activeCapture = s.activeCapture
  sockets : t.sockets = s.sockets
  minted : t.minted = s.minted
  cached : t.cachedCapture agent = geometry.map Geometry.captureId
  others : ∀ other, other ≠ agent
    → t.cachedCapture other = s.cachedCapture other ∨ t.cachedCapture other = none

theorem ingestFrame_cases (s : AppState) (agent conn : Uuid) (geometry : Option Geometry) (now : Nat)
    : s.ingestFrame agent conn geometry now = s
      ∨ s.connId? agent = some conn
        ∧ Stored s (s.ingestFrame agent conn geometry now) agent geometry := by
  unfold AppState.ingestFrame
  split
  . next h =>
    refine .inr ⟨h.1, rfl, rfl, rfl, rfl, rfl, ?_, ?_⟩
    . simp [AppState.storeFrame, AppState.cachedCapture]
    . intro other hother
      have hevicted : ∀ key, (s.frames.erase key).lookup other = s.frames.lookup other
          ∨ (s.frames.erase key).lookup other = none := by
        intro key
        by_cases hkey : other = key
        . subst hkey
          exact .inr (AList.lookup_erase other s.frames)
        . exact .inl (AList.lookup_erase_ne hkey)
      unfold AppState.storeFrame AppState.cachedCapture
      simp only [AList.lookup_insert_ne hother]
      split
      . next oldest _ =>
        split
        . rcases hevicted oldest.1 with heq | hnone
          . rw [heq]
            exact .inl rfl
          . rw [hnone]
            exact .inr rfl
        . exact .inl rfl
      . exact .inl rfl
  . exact .inl rfl

end Arrive

section Store

variable {w : World} {conn : Uuid} {i : Nat} {geometry : Option Geometry}
  {frames : List (Nat × Option Geometry)} {t : AppState}

-- The capture that the first frame shows, and what is to come of it.
theorem Ids.first (h : w.Ids) (hframes : (w.devices conn).frames = (i, geometry) :: frames)
    {id : Uuid} (hid : geometry.map Geometry.captureId = some id)
    : (∃ capture, (w.devices conn).captures[i]? = some capture ∧ capture.id = id)
      ∧ i ∈ (w.devices conn).coming ∧ ∀ j ∈ (w.devices conn).coming, i ≤ j := by
  have hcoming : (w.devices conn).coming
      = i :: (frames.map Prod.fst ++ (w.devices conn).running.toList) := by
    simp [Device.coming, hframes]
  have hordered := (h.tidy conn).ordered
  rw [hcoming, List.pairwise_cons] at hordered
  rw [Option.map_eq_some_iff] at hid
  rcases hid with ⟨g, hgeometry, hid⟩
  refine ⟨?_, ?_, ?_⟩
  . rw [← hid]
    apply (h.tidy conn).shown i g
    rw [hframes, hgeometry]
    exact List.mem_cons_self
  . rw [hcoming]
    exact List.mem_cons_self
  . intro j hj
    rw [hcoming, List.mem_cons] at hj
    rcases hj with rfl | hj
    . exact Nat.le_refl _
    . exact hordered.1 j hj

theorem Ids.store (h : w.Ids) {agent : Uuid} (hstored : Stored w.server t agent geometry)
    (hframes : (w.devices conn).frames = (i, geometry) :: frames)
    : Ids { w with server := t } where
  opened := h.opened
  unique := h.unique
  tidy := h.tidy
  unused := by
    intro other hother
    rw [hstored.minted] at hother
    exact h.unused other hother
  cached := by
    intro other id hid
    by_cases hagent : other = agent
    . rw [hagent, hstored.cached] at hid
      rcases (h.first hframes hid).1 with ⟨capture, hcapture, heq⟩
      rw [← heq]
      exact h.opened conn capture (List.mem_of_getElem? hcapture)
    . rcases hstored.others other hagent with heq | hnone
      . rw [heq] at hid
        exact h.cached other id hid
      . rw [hnone] at hid
        cases hid
  observed := h.observed
  retired := by
    rw [hstored.minted, hstored.retiredCaptures]
    exact h.retired

-- Frames of other agents may be evicted.
theorem cached_of_stored {agent other : Uuid} (hstored : Stored w.server t agent geometry)
    (hother : other ≠ agent) {id : Uuid} (h : t.cachedCapture other = some id)
    : w.server.cachedCapture other = some id := by
  rcases hstored.others other hother with heq | hnone
  . rw [← heq]
    exact h
  . rw [hnone] at h
    cases h

theorem Linked.store_other {agent other socket : Uuid} (h : w.Linked other socket)
    (hstored : Stored w.server t agent geometry) (hother : other ≠ agent)
    : Linked { w with server := t } other socket := by
  have hretired : t.retiredIds other socket = w.server.retiredIds other socket := by
    simp only [AppState.retiredIds, hstored.retiredCaptures]
  constructor
  . intro id hid
    rw [hretired] at hid
    exact h.seen id (hid.imp_right (cached_of_stored hstored hother))
  . intro id hid hnot
    rw [hretired] at hnot ⊢
    exact h.passed id (cached_of_stored hstored hother hid) hnot
  . rw [hretired]
    exact h.retained
  . intro active hactive
    rw [hstored.activeCapture] at hactive
    have hrecord := h.record active hactive
    exact ⟨hrecord.latest, fun id hid => hrecord.opened id (cached_of_stored hstored hother hid),
      fun id hid => hrecord.cached id (cached_of_stored hstored hother hid), hrecord.coming⟩

theorem Linked.store {agent : Uuid} (h : w.Linked agent conn) (hids : w.Ids)
    (hstored : Stored w.server t agent geometry)
    (hframes : (w.devices conn).frames = (i, geometry) :: frames)
    : Linked { w with server := t } agent conn := by
  have hretired : t.retiredIds agent conn = w.server.retiredIds agent conn := by
    simp only [AppState.retiredIds, hstored.retiredCaptures]
  have hfirst : ∀ {id : Uuid}, t.cachedCapture agent = some id
      → (∃ capture, (w.devices conn).captures[i]? = some capture ∧ capture.id = id)
        ∧ i ∈ (w.devices conn).coming ∧ ∀ j ∈ (w.devices conn).coming, i ≤ j := by
    intro id hid
    rw [hstored.cached] at hid
    exact hids.first hframes hid
  constructor
  . intro id hid
    rw [hretired] at hid
    rcases hid with hid | hid
    . exact h.seen id (.inl hid)
    . intro j capture hcapture heq
      rcases hfirst hid with ⟨⟨shown, hshown, hsame⟩, _, hle⟩
      have := (hids.unique conn conn j i capture shown hcapture hshown (heq.trans hsame.symm)).2
      rw [this]
      exact hle
  . -- What was seen before the first frame does not come again after it.
    intro id hid hnot j hj capture hcapture hmem
    rw [hretired] at hnot hmem
    rcases hfirst hid with ⟨⟨shown, hshown, hsame⟩, hi, hle⟩
    have hge := h.seen capture.id (.inl hmem) j capture hcapture rfl i hi
    have heq : j = i := Nat.le_antisymm hge (hle j hj)
    rw [heq, hshown, Option.some.injEq] at hcapture
    rw [← hcapture, hsame] at hmem
    exact hnot hmem
  . rw [hretired]
    exact h.retained
  . intro active hactive
    rw [hstored.activeCapture] at hactive
    have hrecord := h.record active hactive
    refine ⟨hrecord.latest, ?_, ?_, hrecord.coming⟩
    . intro id hid
      rcases hfirst hid with ⟨⟨shown, hshown, hsame⟩, _, _⟩
      exact ⟨shown, List.mem_of_getElem? hshown, hsame⟩
    . intro id hid hobserved
      rcases hfirst hid with ⟨⟨shown, hshown, hsame⟩, hi, _⟩
      rw [← hsame] at hobserved ⊢
      exact hrecord.coming i hi shown hshown hobserved

theorem AllCurrent.store (h : w.AllCurrent) (hinv : w.Inv) {agent : Uuid}
    (hconn : w.server.connId? agent = some conn) (hstored : Stored w.server t agent geometry)
    (hframes : (w.devices conn).frames = (i, geometry) :: frames)
    : AllCurrent { w with server := t } := by
  intro other socket active hsocket hactive
  have hold : w.server.connId? other = some socket := by
    rw [← hsocket]
    simp only [AppState.connId?, hstored.connections]
  rw [hstored.activeCapture] at hactive
  have hcurrent := h other socket active hold hactive
  refine ⟨hcurrent.coming, ?_, ?_⟩
  . intro id hid
    by_cases hother : other = agent
    . subst hother
      rw [hconn, Option.some.injEq] at hold
      subst hold
      change t.cachedCapture other = some id at hid
      rw [hstored.cached] at hid
      rcases hinv.ids.first hframes hid with ⟨⟨shown, hshown, hsame⟩, hi, _⟩
      rcases hcurrent.coming i hi shown hshown with hmem | hlatest
      . rw [hsame] at hmem
        exact .inl hmem
      . exact .inr ⟨shown, List.mem_of_getElem? hshown, hsame, hlatest⟩
    . exact hcurrent.cached id (cached_of_stored hstored hother hid)
  . rw [hstored.sockets]
    exact hcurrent.pending

end Store

/-!
Runs.
-/

namespace Inv

variable {w : World}

theorem init : World.init.Inv where
  reachable := reachable_init
  ids := by
    constructor
    . intro conn capture hcapture
      cases hcapture
    . intro _ _ i _ capture _ hcapture
      simp [World.init, Device.init] at hcapture
    . intro conn
      exact .init
    . intro conn _
      rfl
    . intro agent id hid
      cases hid
    . intro agent id hid
      cases hid
    . intro agent entry hentry
      cases hentry
  linked := by
    intro agent conn hconn
    cases hconn

theorem quieter (h : w.Inv) {conn : Uuid} {device : Device}
    (hquieter : (w.devices conn).Quieter device) (htidy : device.Tidy)
    (hunused : conn ∉ w.server.minted → device = Device.init) : (w.setDevice conn device).Inv where
  reachable := h.reachable
  ids := h.ids.quieter hquieter htidy hunused
  linked := by
    intro agent other hother
    exact (h.linked agent other hother).quieter hquieter

theorem more (h : w.Inv) (ids : List Uuid) : Inv { w with opened := ids ++ w.opened } where
  reachable := h.reachable
  ids := {
    opened := fun conn capture hcapture =>
      List.mem_append_right _ (h.ids.opened conn capture hcapture)
    unique := h.ids.unique
    tidy := h.ids.tidy
    unused := h.ids.unused
    cached := fun agent id hid => List.mem_append_right _ (h.ids.cached agent id hid)
    observed := fun agent id hid => List.mem_append_right _ (h.ids.observed agent id hid)
    retired := fun agent entry hentry =>
      ⟨(h.ids.retired agent entry hentry).1,
        fun id hid => List.mem_append_right _ ((h.ids.retired agent entry hentry).2 id hid)⟩
  }
  linked := by
    intro agent conn hconn
    have hlinked := h.linked agent conn hconn
    refine ⟨hlinked.seen, hlinked.passed, hlinked.retained, ?_⟩
    intro active hactive
    have hrecord := hlinked.record active hactive
    exact ⟨hrecord.latest, hrecord.opened, hrecord.cached, hrecord.coming⟩

theorem store (h : w.Inv) {agent conn : Uuid} {i now : Nat} {geometry : Option Geometry}
    {frames : List (Nat × Option Geometry)} (hconn : w.server.connId? agent = some conn)
    (hframes : (w.devices conn).frames = (i, geometry) :: frames)
    (hstored : Stored w.server (w.server.ingestFrame agent conn geometry now) agent geometry)
    : Inv { w with server := w.server.ingestFrame agent conn geometry now } where
  reachable := by
    refine h.reachable.tail ⟨.frame agent conn geometry now, ?_, rfl⟩
    intro id hid
    cases hid
  ids := h.ids.store hstored hframes
  linked := by
    intro other socket hsocket
    have hold : w.server.connId? other = some socket := by
      rw [← hsocket]
      simp only [AppState.connId?, hstored.connections]
    by_cases hother : other = agent
    . subst hother
      rw [hconn, Option.some.injEq] at hold
      subst hold
      exact (h.linked other conn hconn).store h.ids hstored hframes
    . exact (h.linked other socket hold).store_other hstored hother

end Inv

theorem AllCurrent.quieter {w : World} (h : w.AllCurrent) {conn : Uuid} {device : Device}
    (hquieter : (w.devices conn).Quieter device) : (w.setDevice conn device).AllCurrent := by
  intro agent other active hconn hactive
  exact (h agent other active hconn hactive).quieter hquieter

theorem AllCurrent.more {w : World} (h : w.AllCurrent) (ids : List Uuid)
    : AllCurrent { w with opened := ids ++ w.opened } := by
  intro agent conn active hconn hactive
  have hcurrent := h agent conn active hconn hactive
  exact ⟨hcurrent.coming, hcurrent.cached, hcurrent.pending⟩

-- One event keeps what always holds, and what holds of the settled runs.
theorem step_inv {w : World} (h : w.Inv) {event : Event} (hallowed : w.Allowed event)
    : (w.step event).Inv ∧ (w.AllCurrent → w.Settling event → (w.step event).AllCurrent) := by
  cases event with
  | server op =>
    refine ⟨?_, ?_⟩
    . exact {
        reachable := h.reachable.tail ⟨op, hallowed.1, rfl⟩
        ids := h.ids.serve h.reachable.sound hallowed.1 hallowed.2
        linked := fun agent conn hconn => h.linked_serve hallowed.1 hallowed.2 hconn
      }
    . intro hcurrent hsettling
      exact hcurrent.serve h hallowed.1 hallowed.2
        (fun agent conn hconn hrestarts => hsettling op agent conn rfl hconn hrestarts)
  | execute conn fresh =>
    simp only [step]
    split
    . next position cmd hwritten =>
      have hconn := minted_of_written h.reachable.sound hwritten
      rcases (w.devices conn).execute_cases cmd fresh with heq | ⟨id, rfl, hkind, heq⟩
      . rw [heq]
        constructor
        . refine (h.quieter (.execute _) (h.ids.tidy conn).executed ?_).more fresh.toList
          intro hnot
          exact absurd hconn hnot
        . intro hcurrent _
          exact (hcurrent.quieter (.execute _)).more fresh.toList
      . rw [heq]
        have hid := hallowed id rfl
        constructor
        . exact {
            reachable := h.reachable
            ids := h.ids.openCapture hid hconn
            linked := fun agent other hother =>
              (h.linked agent other hother).openCapture h.ids hid
          }
        . intro hcurrent _ agent other active hother hactive
          exact (hcurrent agent other active hother hactive).openCapture hwritten hkind
    . exact ⟨h, fun hcurrent _ => hcurrent⟩
  | ended conn =>
    constructor
    . refine h.quieter (.ended _) (h.ids.tidy conn).ended ?_
      intro hconn
      rw [h.ids.unused conn hconn]
      rfl
    . exact fun hcurrent _ => hcurrent.quieter (.ended _)
  | produce conn geometry =>
    constructor
    . refine h.quieter (.produce _ geometry) ((h.ids.tidy conn).produce hallowed) ?_
      intro hconn
      rw [h.ids.unused conn hconn]
      rfl
    . exact fun hcurrent _ => hcurrent.quieter (.produce _ geometry)
  | arrive conn now =>
    simp only [step]
    split
    . next i geometry frames hframes =>
      have hunused : conn ∉ w.server.minted → { w.devices conn with frames } = Device.init := by
        intro hconn
        rw [h.ids.unused conn hconn] at hframes
        cases hframes
      rcases ingestFrame_cases w.server (w.server.sockets conn).agent conn geometry now with
        heq | ⟨hconn, hstored⟩
      . simp only [AppState.exec, heq]
        exact ⟨h.quieter (.take hframes) ((h.ids.tidy conn).take hframes) hunused,
          fun hcurrent _ => hcurrent.quieter (.take hframes)⟩
      . constructor
        . refine (h.store hconn hframes hstored).quieter (.take hframes)
            ((h.ids.tidy conn).take hframes) ?_
          intro hnot
          apply hunused
          rw [← hstored.minted]
          exact hnot
        . exact fun hcurrent _ =>
            (hcurrent.store h hconn hstored hframes).quieter (.take hframes)
    . exact ⟨h, fun hcurrent _ => hcurrent⟩

theorem Reachable.inv {w : World} (h : w.Reachable) : w.Inv := by
  induction h with
  | refl => exact .init
  | tail _ hstep ih =>
    rcases hstep with ⟨event, hallowed, _, rfl⟩
    exact (step_inv ih hallowed).1

theorem RunsIf.allCurrent {w : World} (h : RunsIf Settling World.init w)
    : w.Inv ∧ w.AllCurrent := by
  induction h with
  | refl =>
    refine ⟨.init, ?_⟩
    intro agent conn active hconn
    cases hconn
  | tail _ hstep ih =>
    rcases hstep with ⟨event, hallowed, hsettling, rfl⟩
    have hnext := step_inv ih.1 hallowed
    exact ⟨hnext.1, hnext.2 ih.2 hsettling⟩

end World

/-!
Leases.
-/

-- What a lease is granted against.
structure Validated (s : AppState) (agent : Uuid) (active : ActiveCapture) (id : Uuid) : Prop where
  recorded : s.activeCapture agent = some active
  shown : s.cachedCapture agent = some id
  accepted : id ∉ active.retiredCaptureIds

theorem validated_frame {s : AppState} {agent : Uuid} {owner : LeaseOwner} {value : Json} {now : Nat}
    {frozen : FrozenCapture} (h : s.validateControlCapture agent owner value now = .ok frozen)
    : ∃ active id, Validated s agent active id := by
  unfold AppState.validateControlCapture at h
  split at h
  . contradiction
  . split at h
    . contradiction
    . split at h
      . contradiction
      . split at h
        . contradiction
        . next active hactive =>
          rw [Option.filter_eq_some_iff] at hactive
          split at h
          . contradiction
          . next frame hframe =>
            rw [Option.filter_eq_some_iff] at hframe
            split at h
            . contradiction
            . next geometry hgeometry =>
              split at h
              . contradiction
              . split at h
                . contradiction
                . next haccepted =>
                  rw [List.contains_iff_mem] at haccepted
                  refine ⟨active, geometry.captureId, hactive.1, ?_, haccepted⟩
                  simp [AppState.cachedCapture, hframe.1, hgeometry]

theorem acquired_frame {s : AppState} {agent fresh : Uuid} {owner : LeaseOwner} {value : Json}
    {now : Nat} {grant : LeaseGrant}
    (h : (s.acquireControl agent owner value now fresh).1 = .ok (some grant))
    : ∃ active id, Validated s agent active id := by
  rcases s.settle_frame (s.sessions.expireAgent agent now) with ⟨_, _, _, _, hframe⟩
  unfold AppState.acquireControl at h
  split at h
  . cases h
  . next t heq =>
    rw [heq] at hframe
    simp only at hframe
    split at h
    . cases h
    . next frozen hvalidate =>
      rcases validated_frame hvalidate with ⟨active, id, hvalidated⟩
      rw [hframe] at hvalidated
      exact ⟨active, id, hvalidated.recorded, hvalidated.shown, hvalidated.accepted⟩

theorem granted_frame {s : AppState} {agent viewer : Uuid} {user : AuthUser} {value : Json}
    {now : Nat} {fresh : Uuid} {grant : LeaseGrant} (hkind : value.kind = "control_acquire")
    (hgranted : (s.controlLeaseResult agent viewer user value now fresh).1 = .ok (some grant))
    : ∃ active id, Validated s agent active id := by
  unfold AppState.controlLeaseResult at hgranted
  simp only at hgranted
  split at hgranted
  . cases hgranted
  . split at hgranted
    . cases hgranted
    . rw [if_pos hkind] at hgranted
      exact acquired_frame hgranted

theorem World.Inv.cachedFrame {w : World} (h : w.Inv) {agent id : Uuid} {active : ActiveCapture}
    (hvalidated : Validated w.server agent active id)
    : ∃ capture, w.CachedFrame agent active.connId active capture ∧ capture.id = id
        ∧ id ∉ w.observed agent := by
  have hconn := h.reachable.coherent.active agent active hvalidated.recorded
  have hrecord := (h.linked agent active.connId hconn).record active hvalidated.recorded
  rcases hrecord.opened id hvalidated.shown with ⟨capture, hmem, rfl⟩
  refine ⟨capture, ?_, rfl, ?_⟩
  . refine ⟨hconn, hvalidated.recorded, hrecord.latest, hvalidated.shown, hmem, ?_⟩
    intro socket other hother heq
    rcases List.getElem?_of_mem hmem with ⟨i, hi⟩
    rcases List.getElem?_of_mem hother with ⟨j, hj⟩
    rcases h.ids.unique socket active.connId j i other capture hj hi heq with ⟨rfl, rfl⟩
    rw [hi, Option.some.injEq] at hj
    exact ⟨rfl, hj.symm⟩
  . intro hobserved
    exact hvalidated.accepted (hrecord.cached capture.id hvalidated.shown hobserved)

namespace World

-- The condition for the agents that are connected.
def settles (w : World) : Event → Bool
  | .server op => w.server.minted.all (fun conn =>
      let agent := (w.server.sockets conn).agent
      !w.restarts op agent
        || (((w.server.sockets conn).written.drop (w.devices conn).executed).all
            (fun entry => entry.2.kind ≠ "start_capture")
          && (w.devices conn).coming.all (fun i => ((w.devices conn).captures[i]?).all
            (fun capture => (w.server.retiredIds agent conn).contains capture.id
              || w.server.cachedCapture agent = some capture.id))))
  | _ => true

theorem settling_settles (w : World) (event : Event) (hw : Vantyr.Reachable w.server)
    (h : w.settles event = true) : w.Settling event := by
  intro op agent conn hevent hconn hrestarts
  subst hevent
  simp only [settles, List.all_eq_true] at h
  have hcheck := h conn (hw.coherent.minted agent conn hconn)
  rw [hw.coherent.agent agent conn hconn] at hcheck
  simp only [hrestarts, Bool.not_true, Bool.false_or, Bool.and_eq_true, List.all_eq_true,
    Option.all_eq_true, Bool.or_eq_true, List.contains_iff_mem, decide_eq_true_eq] at hcheck
  exact ⟨hcheck.1, hcheck.2⟩

end World

namespace Example

-- What a frame of the second capture shows.
def regeometry : Geometry where
  value := geometry.value.setField "capture_id" (.string (Uuid.text 12))
  checked := by decide

-- The first frame of a live view is on its way.
def opening : List Event :=
  viewed.map Event.server
    ++ [.server (.deliver 2 0), .execute 2 (some 8), .produce 2 (some geometry)]

-- Another viewer asks for a better quality.
def restart : Event :=
  .server (.beginSession 1 10 4 { jpegQuality := 90, intervalMs := 100, monitor := none } none 0 11)

def overtaken : List Event :=
  opening ++ [restart, .arrive 2 0]

def granted : LeaseGrant where
  token := 7
  owner := { viewerConnectionId := 6, userId := 4, agentConnectionId := 2 }
  expiresAt := 15 * 10 ^ 9

-- The frame is cached before the capture is started anew, another one of it comes after that.
def caught : List Event :=
  opening ++ [
    .produce 2 (some geometry),
    .arrive 2 0,
    restart,
    .server (.deliver 2 0),
    .execute 2 (some 12),
    .produce 2 (some regeometry),
    .arrive 2 0,
    .arrive 2 0
  ]

end Example

/--
Control is granted only against a frame that the device produced for a capture it opened on the current
connection, and never against one of a capture of which a frame was cached when another capture was
started. If all captures that may still send a frame are known in this way whenever a capture is started,
and no start is on its way then, the frame belongs to the latest start of the capture on record.
-/
theorem fresh_frame {w : World} (h : w.Reachable) {agent viewer : Uuid} {user : AuthUser}
    {value : Json} {now : Nat} {fresh : Uuid} {grant : LeaseGrant}
    (hkind : value.kind = "control_acquire")
    (hgranted : (w.server.controlLeaseResult agent viewer user value now fresh).1
      = .ok (some grant))
    : (∃ conn active capture, w.CachedFrame agent conn active capture
        ∧ capture.id ∉ w.observed agent)
      ∧ (World.RunsIf World.Settling World.init w → w.FreshFrame agent) := by
  rcases granted_frame hkind hgranted with ⟨active, id, hvalidated⟩
  rcases h.inv.cachedFrame hvalidated with ⟨capture, hcached, rfl, hnot⟩
  refine ⟨⟨active.connId, active, capture, hcached, hnot⟩, ?_⟩
  intro hruns
  have hcurrent := hruns.allCurrent.2 agent active.connId active hcached.connected hcached.recorded
  rcases hcurrent.cached capture.id hvalidated.shown with hmem | ⟨other, hother, heq, hlatest⟩
  . exact absurd hmem hvalidated.accepted
  . rw [(hcached.only active.connId other hother heq).2] at hlatest
    exact ⟨active.connId, active, capture, hcached, hlatest⟩

theorem fresh_frame_caught : (World.init.run Example.caught).FreshFrame 1 := by
  -- The facts about the run are one, so that it is evaluated once.
  have hrun : World.init.checkedRun World.settles Example.caught = true
      ∧ World.init.checkedRun (fun _ _ => true) Example.caught = true
      ∧ ((World.init.run Example.caught).server.controlLeaseResult 1 6 Example.operator
        Example.acquire 0 7).1 = .ok (some Example.granted) := by
    decide +kernel
  rcases hrun with ⟨hchecked, hfresh, hgranted⟩
  have hruns : World.RunsIf World.Settling World.init (World.init.run Example.caught) :=
    World.runsIf_run World.settling_settles World.reachable_init hchecked
  have hreachable : World.Reachable (World.init.run Example.caught) := World.reachable_run hfresh
  exact (fresh_frame hreachable (by decide) hgranted).2 hruns

/--
A frame that is still in flight when the capture is started anew is accepted, since no frame of its
capture was cached and its id is not retired.
-/
theorem overtaken_frame_granted
    : ¬ ∀ w, World.Reachable w → ∀ agent viewer user value now fresh grant,
      value.kind = "control_acquire"
        → (w.server.controlLeaseResult agent viewer user value now fresh).1 = .ok (some grant)
        → w.FreshFrame agent := by
  intro h
  have hrun : World.init.checkedRun (fun _ _ => true) Example.overtaken = true
      ∧ ((World.init.run Example.overtaken).server.controlLeaseResult 1 6 Example.operator
        Example.acquire 0 7).1 = .ok (some Example.granted)
      ∧ (World.init.run Example.overtaken).server.connId? 1 = some 2
      ∧ ((World.init.run Example.overtaken).devices 2).captures.map DeviceCapture.generation
        = [some (.string (Uuid.text 5))]
      ∧ (World.init.run Example.overtaken).latest 1 = some 11 := by
    decide +kernel
  rcases hrun with ⟨hfresh, hgranted, hsocket, hcaptures, hstarted⟩
  have hreachable : World.Reachable (World.init.run Example.overtaken) := World.reachable_run hfresh
  rcases h _ hreachable 1 6 Example.operator Example.acquire 0 7 Example.granted (by decide) hgranted
    with ⟨conn, active, capture, hcached, generation, hlatest, htag⟩
  have hconn := hcached.connected
  rw [hsocket, Option.some.injEq] at hconn
  rw [hstarted, Option.some.injEq] at hlatest
  have hgeneration := List.mem_map_of_mem (f := DeviceCapture.generation) hcached.opened
  rw [← hconn, hcaptures, List.mem_singleton, htag, Option.some.injEq, Json.string.injEq] at hgeneration
  have := Uuid.text_injective hgeneration
  rw [← hlatest] at this
  exact absurd this (by decide)

end Vantyr
