import Mathlib.Data.List.Count
import Mathlib.Data.List.Sublists
import Vantyr.Data.Bytes

/-!
This module contains the outbound side of the agent's WebSocket client, `run_ws_client` in
`agent/src/connection/ws_client/mod.rs` and `serve` in `connection.rs`: the frames of the channel, the
buffer for those that wait while there is no connection, and the socket.
-/

namespace Vantyr

namespace WsClient

inductive OutboundFrame where
  | text (s : String)
  | binary (b : List UInt8)
  deriving DecidableEq, Repr

-- A frame with its position among those handed in, which the client never looks at.
structure Entry where
  seq : Nat
  frame : OutboundFrame
  deriving DecidableEq, Repr

-- Between two connections, in front of the loop of `serve` and inside it.
inductive Phase where
  | idle
  | flushing
  | live
  deriving DecidableEq, Repr

/--
The queues of the client and whether a write to its socket has failed. The last five fields are the
history: what was handed in, written, dropped by the permission fence, evicted together with the number
of frames that were waiting, and taken out of the buffer without being written.
-/
structure Client where
  phase : Phase
  broken : Bool
  channel : List Entry
  buffered : List Entry
  handed : List Entry
  written : List Entry
  fenced : List Entry
  evicted : List (Entry × Nat)
  lost : List Entry
  deriving DecidableEq, Repr

-- The fence and the outcome of a write are up to the environment.
inductive Op where
  | handIn (frame : OutboundFrame)
  | drain
  | recvIdle
  | connect
  | otherWrite (ok : Bool)
  | flush (admitted ok : Bool)
  | recv (admitted ok : Bool)
  | disconnect
  deriving DecidableEq, Repr

namespace Client

def init : Client where
  phase := .idle
  broken := false
  channel := []
  buffered := []
  handed := []
  written := []
  fenced := []
  evicted := []
  lost := []

-- The loop that drops the oldest frames.
def evict (maxBufferedFrames : Nat) (buffered : List Entry) (evicted : List (Entry × Nat))
    : List Entry × List (Entry × Nat) :=
  match buffered with
  | [] => ([], evicted)
  | e :: rest =>
    if maxBufferedFrames < rest.length + 1 then
      evict maxBufferedFrames rest (evicted ++ [(e, rest.length + 1)])
    else
      (e :: rest, evicted)

def pushBack (maxBufferedFrames : Nat) (c : Client) (e : Entry) : Client :=
  let (buffered, evicted) := evict maxBufferedFrames (c.buffered ++ [e]) c.evicted
  { c with buffered, evicted }

def recvIdle (maxBufferedFrames : Nat) (c : Client) : Client :=
  match c.channel with
  | [] => c
  | e :: channel => { c with channel }.pushBack maxBufferedFrames e

def drain (maxBufferedFrames : Nat) (c : Client) : Client :=
  c.channel.foldl (fun c _ => c.recvIdle maxBufferedFrames) c

-- A write succeeds only on a socket no write to which has failed.
def flush (c : Client) (admitted ok : Bool) : Client :=
  match c.buffered with
  | [] => { c with phase := .live }
  | e :: buffered =>
    if !admitted then
      { c with buffered, fenced := c.fenced ++ [e] }
    else if ok ∧ !c.broken then
      { c with buffered, written := c.written ++ [e] }
    else
      { c with phase := .live, broken := true, buffered, lost := c.lost ++ [e] }

def recv (c : Client) (admitted ok : Bool) : Client :=
  match c.channel with
  | [] => c
  | e :: channel =>
    if !admitted then
      { c with channel, fenced := c.fenced ++ [e] }
    else if ok ∧ !c.broken then
      { c with channel, written := c.written ++ [e] }
    else
      { c with phase := .idle, broken := true, channel, buffered := c.buffered ++ [e] }

def exec (maxBufferedFrames : Nat) (c : Client) (op : Op) : Client :=
  match op, c.phase with
  | .handIn frame, _ =>
    let e := { seq := c.handed.length, frame }
    { c with channel := c.channel ++ [e], handed := c.handed ++ [e] }
  | .drain, .idle => c.drain maxBufferedFrames
  | .recvIdle, .idle => c.recvIdle maxBufferedFrames
  | .connect, .idle => { c with phase := .flushing, broken := false }
  | .otherWrite ok, .flushing => { c with broken := c.broken || !ok }
  | .otherWrite ok, .live => { c with broken := c.broken || !ok }
  | .flush admitted ok, .flushing => c.flush admitted ok
  | .recv admitted ok, .live => c.recv admitted ok
  | .disconnect, .live => { c with phase := .idle }
  | _, _ => c

def run (maxBufferedFrames : Nat) (c : Client) (ops : List Op) : Client :=
  ops.foldl (exec maxBufferedFrames) c

-- Where a frame is taken out of the buffer to be written, the write succeeds.
def flushed (c : Client) : Op → Bool
  | .flush admitted ok =>
    c.phase ≠ .flushing || c.buffered.isEmpty || !admitted || (ok && !c.broken)
  | _ => true

def flushedRun (maxBufferedFrames : Nat) (c : Client) : List Op → Bool
  | [] => true
  | op :: ops => c.flushed op && (c.exec maxBufferedFrames op).flushedRun maxBufferedFrames ops

/-!
What a step keeps.
-/

-- The frames in the order they were handed in, as far as they are still in sight.
def line (c : Client) : List Entry :=
  c.written ++ c.buffered ++ c.channel

-- Where a frame can be.
def copies (c : Client) (e : Entry) : Nat :=
  c.written.count e + c.fenced.count e + (c.evicted.map Prod.fst).count e + c.buffered.count e
    + c.channel.count e + c.lost.count e

structure Sound (maxBufferedFrames : Nat) (c : Client) : Prop where
  numbered : ∀ e ∈ c.handed, e.seq < c.handed.length
  nodup : c.handed.Nodup
  order : c.line.Sublist c.handed
  broken : c.phase = .live → c.buffered = [] ∨ c.broken = true
  copies : ∀ e, c.handed.count e = c.copies e
  evicted : ∀ entry ∈ c.evicted, maxBufferedFrames < entry.2

variable {maxBufferedFrames : Nat} {c : Client}

theorem evict_spec (buffered : List Entry) (evicted : List (Entry × Nat))
    : (evict maxBufferedFrames buffered evicted).1.Sublist buffered
      ∧ (∀ e, (evict maxBufferedFrames buffered evicted).1.count e
          + ((evict maxBufferedFrames buffered evicted).2.map Prod.fst).count e
        = buffered.count e + (evicted.map Prod.fst).count e)
      ∧ ((∀ entry ∈ evicted, maxBufferedFrames < entry.2) →
        ∀ entry ∈ (evict maxBufferedFrames buffered evicted).2, maxBufferedFrames < entry.2) := by
  induction buffered generalizing evicted with
  | nil => exact ⟨List.Sublist.refl _, fun _ => rfl, fun h => h⟩
  | cons e rest ih =>
    unfold evict
    split
    . next hmax =>
      rcases ih (evicted ++ [(e, rest.length + 1)]) with ⟨hsub, hcount, hevicted⟩
      refine ⟨hsub.cons e, ?_, ?_⟩
      . intro other
        rw [hcount other, List.map_append, List.count_append, List.map_singleton]
        simp only [List.count_cons, List.count_nil]
        omega
      . intro h
        apply hevicted
        intro entry hmem
        rcases List.mem_append.mp hmem with hmem | hmem
        . exact h entry hmem
        . rw [List.mem_singleton] at hmem
          rw [hmem]
          exact hmax
    . exact ⟨List.Sublist.refl _, fun _ => rfl, fun h => h⟩

theorem Sound.recvIdle (h : Sound maxBufferedFrames c) (hphase : c.phase = .idle)
    : Sound maxBufferedFrames (c.recvIdle maxBufferedFrames)
      ∧ (c.recvIdle maxBufferedFrames).phase = .idle
      ∧ (c.recvIdle maxBufferedFrames).lost = c.lost := by
  unfold Client.recvIdle
  split
  . exact ⟨h, hphase, rfl⟩
  . next e channel hchannel =>
    rcases @evict_spec maxBufferedFrames (c.buffered ++ [e]) c.evicted with ⟨hsub, hcount, hevicted⟩
    refine ⟨?_, hphase, rfl⟩
    simp only [pushBack]
    constructor
    . exact h.numbered
    . exact h.nodup
    . have hline : (c.written ++ (c.buffered ++ [e]) ++ channel).Sublist c.handed := by
        have horder := h.order
        unfold line at horder
        rw [hchannel] at horder
        simpa using horder
      exact (((List.Sublist.refl _).append hsub).append (List.Sublist.refl _)).trans hline
    . intro hlive
      rw [hphase] at hlive
      cases hlive
    . intro other
      have hcopies := h.copies other
      have := hcount other
      simp only [Client.copies, hchannel, List.count_append, List.count_cons, List.count_nil]
        at hcopies this ⊢
      omega
    . exact hevicted h.evicted

theorem Sound.drain (h : Sound maxBufferedFrames c) (hphase : c.phase = .idle)
    : Sound maxBufferedFrames (c.drain maxBufferedFrames)
      ∧ (c.drain maxBufferedFrames).lost = c.lost := by
  unfold Client.drain
  generalize c.channel = channel
  induction channel generalizing c with
  | nil => exact ⟨h, rfl⟩
  | cons _ channel ih =>
    rcases h.recvIdle hphase with ⟨hsound, hphase', hlost⟩
    rcases ih hsound hphase' with ⟨hsound', hlost'⟩
    exact ⟨hsound', hlost'.trans hlost⟩

theorem Sound.flush (h : Sound maxBufferedFrames c) (admitted ok : Bool)
    : Sound maxBufferedFrames (c.flush admitted ok) := by
  have horder := h.order
  unfold line at horder
  unfold Client.flush
  split
  . next hbuffered => exact { h with broken := fun _ => .inl hbuffered }
  . next e buffered hbuffered =>
    rw [hbuffered] at horder
    have hremoved : (c.written ++ buffered ++ c.channel).Sublist c.handed :=
      (((List.Sublist.refl _).append (List.sublist_cons_self e buffered)).append
        (List.Sublist.refl _)).trans horder
    split
    . refine ⟨h.numbered, h.nodup, hremoved, ?_, ?_, h.evicted⟩
      . intro hlive
        rcases h.broken hlive with hnil | hbroken
        . rw [hbuffered] at hnil
          cases hnil
        . exact .inr hbroken
      . intro other
        have hcopies := h.copies other
        simp only [Client.copies, hbuffered, List.count_append, List.count_cons, List.count_nil]
          at hcopies ⊢
        omega
    . split
      . next hok =>
        refine ⟨h.numbered, h.nodup, ?_, ?_, ?_, h.evicted⟩
        . simpa [line] using horder
        . intro hlive
          rcases h.broken hlive with hnil | hbroken
          . rw [hbuffered] at hnil
            cases hnil
          . exact .inr hbroken
        . intro other
          have hcopies := h.copies other
          simp only [Client.copies, hbuffered, List.count_append, List.count_cons, List.count_nil]
            at hcopies ⊢
          omega
      . refine ⟨h.numbered, h.nodup, hremoved, fun _ => .inr rfl, ?_, h.evicted⟩
        intro other
        have hcopies := h.copies other
        simp only [Client.copies, hbuffered, List.count_append, List.count_cons, List.count_nil]
          at hcopies ⊢
        omega

theorem Sound.recv (h : Sound maxBufferedFrames c) (hphase : c.phase = .live) (admitted ok : Bool)
    : Sound maxBufferedFrames (c.recv admitted ok) := by
  have horder := h.order
  unfold line at horder
  unfold Client.recv
  split
  . exact h
  . next e channel hchannel =>
    rw [hchannel] at horder
    split
    . refine ⟨h.numbered, h.nodup, ?_, h.broken, ?_, h.evicted⟩
      . exact ((List.Sublist.refl _).append (List.sublist_cons_self e channel)).trans horder
      . intro other
        have hcopies := h.copies other
        simp only [Client.copies, hchannel, List.count_append, List.count_cons, List.count_nil]
          at hcopies ⊢
        omega
    . split
      . next hok =>
        -- The socket works, so nothing is left in the buffer that would have to go first.
        have hbuffered : c.buffered = [] := by
          rcases h.broken hphase with hnil | hbroken
          . exact hnil
          . simp [hbroken] at hok
        refine ⟨h.numbered, h.nodup, ?_, h.broken, ?_, h.evicted⟩
        . rw [hbuffered] at horder
          simpa [line, hbuffered] using horder
        . intro other
          have hcopies := h.copies other
          simp only [Client.copies, hchannel, List.count_append, List.count_cons, List.count_nil]
            at hcopies ⊢
          omega
      . refine ⟨h.numbered, h.nodup, ?_, ?_, ?_, h.evicted⟩
        . simpa [line] using horder
        . intro hlive
          cases hlive
        . intro other
          have hcopies := h.copies other
          simp only [Client.copies, hchannel, List.count_append, List.count_cons, List.count_nil]
            at hcopies ⊢
          omega

theorem Sound.handIn (h : Sound maxBufferedFrames c) (frame : OutboundFrame)
    : Sound maxBufferedFrames (c.exec maxBufferedFrames (.handIn frame)) := by
  have hnew : { seq := c.handed.length, frame } ∉ c.handed := by
    intro hmem
    exact absurd (h.numbered _ hmem) (Nat.lt_irrefl _)
  constructor
  . intro e hmem
    simp only [exec, List.length_append, List.length_singleton]
    rcases List.mem_append.mp hmem with hmem | hmem
    . have := h.numbered e hmem
      omega
    . rw [List.mem_singleton] at hmem
      rw [hmem]
      exact Nat.lt_succ_self _
  . simp only [exec]
    rw [List.nodup_append]
    refine ⟨h.nodup, List.nodup_singleton _, ?_⟩
    intro a ha b hb heq
    rw [List.mem_singleton] at hb
    rw [heq, hb] at ha
    exact hnew ha
  . have := h.order.append (List.Sublist.refl [{ seq := c.handed.length, frame : Entry }])
    simpa [line, exec] using this
  . exact h.broken
  . intro other
    have hcopies := h.copies other
    simp only [exec, Client.copies, List.count_append, List.count_cons, List.count_nil] at hcopies ⊢
    omega
  . exact h.evicted

theorem Sound.exec (h : Sound maxBufferedFrames c) (op : Op)
    : Sound maxBufferedFrames (c.exec maxBufferedFrames op) := by
  have hother : ∀ ok, Sound maxBufferedFrames { c with broken := c.broken || !ok } := by
    intro ok
    refine { h with broken := fun hlive => ?_ }
    rcases h.broken hlive with hnil | hbroken
    . exact .inl hnil
    . exact .inr (by simp [hbroken])
  cases op with
  | handIn frame => exact h.handIn frame
  | drain =>
    cases hphase : c.phase with
    | idle => simpa [Client.exec, hphase] using (h.drain hphase).1
    | flushing => simpa [Client.exec, hphase] using h
    | live => simpa [Client.exec, hphase] using h
  | recvIdle =>
    cases hphase : c.phase with
    | idle => simpa [Client.exec, hphase] using (h.recvIdle hphase).1
    | flushing => simpa [Client.exec, hphase] using h
    | live => simpa [Client.exec, hphase] using h
  | connect =>
    cases hphase : c.phase with
    | idle =>
      simp only [Client.exec, hphase]
      refine ⟨h.numbered, h.nodup, h.order, ?_, h.copies, h.evicted⟩
      intro hlive
      cases hlive
    | flushing => simpa [Client.exec, hphase] using h
    | live => simpa [Client.exec, hphase] using h
  | otherWrite ok =>
    cases hphase : c.phase with
    | idle => simpa [Client.exec, hphase] using h
    | flushing => simpa [Client.exec, hphase] using hother ok
    | live => simpa [Client.exec, hphase] using hother ok
  | flush admitted ok =>
    cases hphase : c.phase with
    | idle => simpa [Client.exec, hphase] using h
    | flushing => simpa [Client.exec, hphase] using h.flush admitted ok
    | live => simpa [Client.exec, hphase] using h
  | recv admitted ok =>
    cases hphase : c.phase with
    | idle => simpa [Client.exec, hphase] using h
    | flushing => simpa [Client.exec, hphase] using h
    | live => simpa [Client.exec, hphase] using h.recv hphase admitted ok
  | disconnect =>
    cases hphase : c.phase with
    | idle => simpa [Client.exec, hphase] using h
    | flushing => simpa [Client.exec, hphase] using h
    | live =>
      simp only [Client.exec, hphase]
      refine ⟨h.numbered, h.nodup, h.order, ?_, h.copies, h.evicted⟩
      intro hlive
      cases hlive

theorem Sound.init (maxBufferedFrames : Nat) : Sound maxBufferedFrames Client.init := by
  constructor
  . intro e hmem
    cases hmem
  . exact List.nodup_nil
  . exact List.Sublist.refl _
  . intro hlive
    cases hlive
  . intro e
    rfl
  . intro entry hmem
    cases hmem

theorem Sound.run {ops : List Op} (h : Sound maxBufferedFrames c)
    : Sound maxBufferedFrames (c.run maxBufferedFrames ops) := by
  induction ops generalizing c with
  | nil => exact h
  | cons op ops ih => exact ih (h.exec op)

/-!
The frames that were lost.
-/

theorem lost_recvIdle (c : Client) : (c.recvIdle maxBufferedFrames).lost = c.lost := by
  unfold recvIdle
  split <;> rfl

theorem lost_drain (c : Client) : (c.drain maxBufferedFrames).lost = c.lost := by
  unfold drain
  generalize c.channel = channel
  induction channel generalizing c with
  | nil => rfl
  | cons _ channel ih => exact (ih _).trans (lost_recvIdle c)

theorem lost_recv (c : Client) (admitted ok : Bool) : (c.recv admitted ok).lost = c.lost := by
  unfold recv
  split
  . rfl
  . split
    . rfl
    . split <;> rfl

theorem lost_flush (c : Client) (admitted ok : Bool)
    : (c.flush admitted ok).lost
        = if c.buffered.isEmpty || !admitted || (ok && !c.broken) then c.lost
          else c.lost ++ c.buffered.take 1 := by
  unfold flush
  cases c.buffered with
  | nil => rfl
  | cons e buffered => cases admitted <;> cases ok <;> cases c.broken <;> simp

theorem lost_exec (c : Client) (op : Op)
    : (c.exec maxBufferedFrames op).lost
        = if c.flushed op then c.lost else c.lost ++ c.buffered.take 1 := by
  cases op with
  | flush admitted ok => cases hphase : c.phase <;> simp [exec, flushed, hphase, lost_flush]
  | drain => cases hphase : c.phase <;> simp [exec, flushed, hphase, lost_drain]
  | recvIdle => cases hphase : c.phase <;> simp [exec, flushed, hphase, lost_recvIdle]
  | recv admitted ok => cases hphase : c.phase <;> simp [exec, flushed, hphase, lost_recv]
  | handIn frame => cases hphase : c.phase <;> simp [exec, flushed]
  | connect => cases hphase : c.phase <;> simp [exec, flushed, hphase]
  | otherWrite ok => cases hphase : c.phase <;> simp [exec, flushed, hphase]
  | disconnect => cases hphase : c.phase <;> simp [exec, flushed, hphase]

theorem buffered_of_not_flushed {op : Op} (h : c.flushed op = false) : c.buffered ≠ [] := by
  intro hnil
  cases op with
  | flush admitted ok => simp [flushed, hnil] at h
  | _ => simp [flushed] at h

theorem lost_run (c : Client) (ops : List Op)
    : c.lost.length ≤ (c.run maxBufferedFrames ops).lost.length
      ∧ ((c.run maxBufferedFrames ops).lost.length = c.lost.length ↔
        c.flushedRun maxBufferedFrames ops = true) := by
  induction ops generalizing c with
  | nil => exact ⟨Nat.le_refl _, by simp [run, flushedRun]⟩
  | cons op ops ih =>
    rcases ih (c.exec maxBufferedFrames op) with ⟨hle, hiff⟩
    have hrun : c.run maxBufferedFrames (op :: ops)
        = (c.exec maxBufferedFrames op).run maxBufferedFrames ops := rfl
    rw [hrun, flushedRun, Bool.and_eq_true, ← hiff]
    have hlost := @lost_exec maxBufferedFrames c op
    cases hflushed : c.flushed op with
    | true =>
      rw [hflushed, if_pos rfl] at hlost
      rw [hlost] at hle ⊢
      exact ⟨hle, by simp⟩
    | false =>
      have hpos := List.length_pos_iff.mpr (buffered_of_not_flushed hflushed)
      rw [hflushed, if_neg Bool.false_ne_true] at hlost
      have hlength : (c.exec maxBufferedFrames op).lost.length = c.lost.length + 1 := by
        rw [hlost, List.length_append, List.length_take]
        omega
      rw [hlength] at hle ⊢
      refine ⟨by omega, ?_⟩
      constructor
      . intro heq
        omega
      . intro h
        cases h.1

/--
The written frames are handed in frames in their order, none of them twice, and once nothing waits any
more each frame that is missing was dropped by the fence or evicted.
-/
def Survived (maxBufferedFrames : Nat) (c : Client) : Prop :=
  c.written.Sublist c.handed
    ∧ c.written.Nodup
    ∧ (c.channel = [] → c.buffered = [] → ∀ e ∈ c.handed, e ∉ c.written →
      e ∈ c.fenced ∨ ∃ waiting, maxBufferedFrames < waiting ∧ (e, waiting) ∈ c.evicted)

theorem Sound.survived (h : Sound maxBufferedFrames c)
    : Survived maxBufferedFrames c ↔ (c.channel = [] → c.buffered = [] → c.lost = []) := by
  have hwritten : c.written.Sublist c.line := by
    unfold line
    rw [List.append_assoc]
    exact List.sublist_append_left _ _
  have hsub := hwritten.trans h.order
  have hone : ∀ e ∈ c.handed, c.handed.count e = 1 := by
    intro e hmem
    exact List.count_eq_one_of_mem h.nodup hmem
  constructor
  . rintro ⟨_, _, hmissing⟩ hchannel hbuffered
    rw [List.eq_nil_iff_forall_not_mem]
    intro e hlost
    have hlost' := List.count_pos_iff.mpr hlost
    have hcopies := h.copies e
    have hmem : e ∈ c.handed := by
      rw [← List.count_pos_iff, hcopies]
      unfold Client.copies
      omega
    rw [hone e hmem] at hcopies
    unfold Client.copies at hcopies
    have hgone : e ∉ c.written := by
      rw [← List.count_eq_zero]
      omega
    rcases hmissing hchannel hbuffered e hmem hgone with hfenced | ⟨waiting, _, hevicted⟩
    . have := List.count_pos_iff.mpr hfenced
      omega
    . have := List.count_pos_iff.mpr (@List.mem_map_of_mem _ _ _ _ Prod.fst hevicted)
      dsimp only at this
      omega
  . intro hlost
    refine ⟨hsub, h.nodup.sublist hsub, ?_⟩
    intro hchannel hbuffered e hmem hgone
    have hcopies := h.copies e
    rw [hone e hmem] at hcopies
    unfold Client.copies at hcopies
    rw [hlost hchannel hbuffered, hchannel, hbuffered, List.count_eq_zero.mpr hgone] at hcopies
    simp only [List.count_nil] at hcopies
    by_cases hfenced : e ∈ c.fenced
    . exact .inl hfenced
    . rw [List.count_eq_zero.mpr hfenced] at hcopies
      have hevicted : e ∈ c.evicted.map Prod.fst := by
        rw [← List.count_pos_iff]
        omega
      rw [List.mem_map] at hevicted
      rcases hevicted with ⟨⟨e', waiting⟩, hevicted, rfl⟩
      exact .inr ⟨waiting, h.evicted _ hevicted, hevicted⟩

end Client

/--
In a run that ends with empty queues the frames survive the reconnects if and only if no write failed
while the buffer was flushed. The order of the written frames is right in every run.
-/
theorem survived_iff (maxBufferedFrames : Nat) (ops : List Op)
    : (Client.init.run maxBufferedFrames ops).written.Sublist
        (Client.init.run maxBufferedFrames ops).handed
      ∧ (Client.Survived maxBufferedFrames (Client.init.run maxBufferedFrames ops) ↔
        ((Client.init.run maxBufferedFrames ops).channel = [] →
          (Client.init.run maxBufferedFrames ops).buffered = [] →
          Client.init.flushedRun maxBufferedFrames ops = true)) := by
  have hsound := @Client.Sound.run _ _ ops (Client.Sound.init maxBufferedFrames)
  have hlost : (Client.init.run maxBufferedFrames ops).lost = []
      ↔ Client.init.flushedRun maxBufferedFrames ops = true := by
    rw [← (Client.lost_run Client.init ops).2, ← List.length_eq_zero_iff]
    rfl
  constructor
  . have hwritten : (Client.init.run maxBufferedFrames ops).written.Sublist
        (Client.init.run maxBufferedFrames ops).line := by
      unfold Client.line
      rw [List.append_assoc]
      exact List.sublist_append_left _ _
    exact hwritten.trans hsound.order
  . rw [hsound.survived, hlost]

/-!
A frame that was buffered is taken out before it is written, and is gone when the write fails.
-/

namespace Example

def dropped : List Op := [
  .handIn (.text "keys"),
  .drain,
  .connect,
  .flush true false,
  .disconnect,
  .drain,
  .connect,
  .flush true true
]

end Example

theorem dropped_not_survived : ¬ ∀ maxBufferedFrames ops,
    Client.Survived maxBufferedFrames (Client.init.run maxBufferedFrames ops) := by
  intro h
  have hmissing := (h 5000 Example.dropped).2.2 (by decide) (by decide)
    { seq := 0, frame := .text "keys" } (by decide) (by decide)
  have hfenced : (Client.init.run 5000 Example.dropped).fenced = [] := by decide
  have hevicted : (Client.init.run 5000 Example.dropped).evicted = [] := by decide
  rw [hfenced, hevicted] at hmissing
  simp at hmissing

end WsClient

end Vantyr
