import Vantyr.Agent.Spool
import Vantyr.Server.Recall.Ingest

/-!
This module contains the upload of keyframes as a whole: the spool of an agent and its sessions, the
rows of the server, and what is under way between the two. A keyframe is sent until it is answered, so
both a keyframe and an answer can arrive more than once, late, in another session, or never.
-/

namespace Vantyr

namespace Upload

open Permissions Spool Recall

/--
The libraries and settings of both sides.
-/
structure Setup where
  writer : Writer
  maxBytes : Nat
  parseFromRfc3339 : String → Option Int
  agentId : Uuid

/--
`spooled` are the ids that were ever given out, with the time of the keyframe. `sent` and `acks` are
all that was ever sent, since anything that was sent may still arrive.
-/
structure System where
  agent : Session
  spooled : List (Uuid × Int)
  sent : List Sent
  acks : List Json
  rows : List ScreenFrame

def System.init : System where
  agent := { dir := ∅, store := none, inFlight := ∅, sweep := none }
  spooled := []
  sent := []
  acks := []
  rows := []

/--
`damage` stands for anything else that writes to a file of the spool, `setGrants` for what changes the
grants of the device.
-/
inductive Action where
  | push (disk : Disk) (uid : Uuid) (frame : HistoryFrame)
  | damage (path : String) (len : Nat)
  | setGrants (store : Option State)
  | beginPump (disk : Disk) (now : Nat) (allowed : Bool)
  | pumpNext (disk : Disk) (now : Nat)
  | receiveAck (disk : Disk) (val : Json)
  | restart
  | ingest (i : Ingestion) (header : Json) (jpeg : List UInt8)

-- The last writer of the agent checks the context of a header again, and leaves the rest alone.
def sameFrame (a b : Json) : Bool :=
  a.eraseField "context" = b.eraseField "context"

def step (setup : Setup) (s : System) : Action → Option System
  | .push disk uid frame =>
    if uid ∈ s.spooled.map Prod.fst then
      none
    else
      match Spool.push setup.writer disk setup.maxBytes s.agent.dir uid frame s.agent.store with
      | .error _ => some s
      | .ok dir =>
        some {
          s with
          agent := { s.agent with dir }
          spooled := (uid, frame.capturedAt) :: s.spooled
        }
  | .damage path len =>
    if (s.agent.dir.lookup path).isNone then
      none
    else
      some { s with agent := { s.agent with dir := s.agent.dir.insert path { len, frame := none } } }
  | .setGrants store => some { s with agent := { s.agent with store } }
  | .beginPump disk now allowed =>
    if s.agent.sweep.isSome then
      none
    else
      some { s with agent := s.agent.beginPump disk now allowed }
  | .pumpNext disk now =>
    match s.agent.sweep with
    | none => none
    | some sweep =>
      let (agent, sent) := s.agent.pumpNext disk now sweep
      some { s with agent, sent := s.sent ++ sent.toList }
  | .receiveAck disk val =>
    if s.agent.sweep.isSome ∨ val ∉ s.acks then
      none
    else
      some { s with agent := (s.agent.handleHistoryAck disk val).1 }
  | .restart => some { s with agent := s.agent.restart }
  | .ingest i header jpeg =>
    if s.sent.any (fun x => sameFrame x.header header ∧ x.jpeg = jpeg) then
      let (rows, ack) :=
        ingestHistoryFrame setup.parseFromRfc3339 setup.agentId i s.rows header jpeg
      some { s with rows, acks := s.acks ++ ack.toList }
    else
      none

def System.run (setup : Setup) (s : System) (actions : List Action) : Option System :=
  actions.foldlM (step setup) s

inductive Reachable (setup : Setup) : System → Prop where
  | init : Reachable setup .init
  | step {s t : System} {a : Action} : Reachable setup s → step setup s a = some t
      → Reachable setup t

theorem Reachable.run {setup : Setup} {s t : System} (h : Reachable setup s) {actions : List Action}
    (hrun : s.run setup actions = some t) : Reachable setup t := by
  induction actions generalizing s with
  | nil =>
    rw [System.run, List.foldlM_nil, Option.pure_def, Option.some.injEq] at hrun
    rw [← hrun]
    exact h
  | cons a actions ih =>
    rw [System.run, List.foldlM_cons, Option.bind_eq_bind, Option.bind_eq_some_iff] at hrun
    rcases hrun with ⟨u, hstep, hrest⟩
    exact ih (h.step hstep) hrest

/-!
What the files of the spool are called.
-/

theorem fileName_injective (ms ms' : Int) {u u' : Uuid}
    (h : fileName ms u.text = fileName ms' u'.text) : u = u' := by
  unfold fileName at h
  rw [String.ofList_inj] at h
  have htail := (List.append_inj' h (by simp [Uuid.length_text])).2
  rw [List.cons_inj_right] at htail
  have huid := (List.append_inj' htail rfl).1
  exact Uuid.text_injective (String.toList_inj.mp huid)

-- A directory with no files but those of another.
def Within (d d' : Dir) : Prop :=
  ∀ path file, d.lookup path = some file → d'.lookup path = some file

theorem Within.refl (d : Dir) : Within d d :=
  fun _ _ h => h

theorem Within.trans {d d' d'' : Dir} (h : Within d d') (h' : Within d' d'') : Within d d'' :=
  fun path file hfile => h' path file (h path file hfile)

theorem remove_within (disk : Disk) (dir : Dir) (path : String) : Within (remove disk dir path) dir := by
  intro other file h
  unfold remove at h
  split at h
  . rw [Table.lookup_erase_eq] at h
    split at h
    . cases h
    . exact h
  . exact h

theorem lookup_remove_of_ne (disk : Disk) (dir : Dir) {path other : String} (h : other ≠ path)
    : (remove disk dir path).lookup other = dir.lookup other := by
  unfold remove
  split
  . rw [Table.lookup_erase_eq, if_neg h]
  . rfl

theorem evict_within (disk : Disk) (maxBytes : Nat) (dir : Dir) (n : Nat) (files : List (String × Nat))
    : Within (evict disk maxBytes dir n files) dir := by
  induction files generalizing dir n with
  | nil => exact Within.refl dir
  | cons file files ih =>
    unfold evict
    split
    . exact Within.refl dir
    . exact (ih _ _).trans (remove_within disk dir file.1)

theorem enforceBudget_within (disk : Disk) (maxBytes : Nat) (dir : Dir)
    : Within (enforceBudget disk maxBytes dir) dir :=
  evict_within disk maxBytes dir _ _

-- Within its budget the spool keeps every file.
theorem enforceBudget_eq_self {disk : Disk} {maxBytes : Nat} {dir : Dir}
    (h : total (entries disk dir) ≤ maxBytes) : enforceBudget disk maxBytes dir = dir := by
  unfold enforceBudget
  revert h
  cases entries disk dir with
  | nil =>
    intro _
    rfl
  | cons file files =>
    intro h
    rw [evict, if_pos h]

theorem push_ok {writer : Writer} {disk : Disk} {maxBytes : Nat} {dir dir' : Dir} {uid : Uuid}
    {frame : HistoryFrame} {store : Option State}
    (h : push writer disk maxBytes dir uid frame store = .ok dir')
    : ∃ s, dir' = enforceBudget disk maxBytes
        (writeFrame writer dir (pushedHeader writer uid frame s) frame.jpeg) := by
  unfold push pushIn at h
  split at h
  . split at h
    . cases h
    . rw [Except.ok.injEq] at h
      exact ⟨_, h.symm⟩
  . split at h
    . cases h
    . rw [Except.ok.injEq] at h
      exact ⟨_, h.symm⟩

/-!
The invariant of an upload.
-/

-- The times that have four digits for their year.
def onClock (time : Int) : Prop :=
  -62167219200 * 10 ^ 9 ≤ time ∧ time < 253402300800 * 10 ^ 9

def pathOf (id : Uuid × Int) : String :=
  fileName (id.2 / 10 ^ 6) id.1.text

/--
Every file is called after a keyframe that was spooled, and what can be read of it is that keyframe.
-/
def Filed (setup : Setup) (spooled : List (Uuid × Int)) (dir : Dir) : Prop :=
  ∀ path file, dir.lookup path = some file → ∃ id ∈ spooled, path = pathOf id ∧
    ∀ frame ∈ file.frame, frame.header.uid = id.1.text
      ∧ frame.header.capturedAt = setup.writer.toRfc3339 id.2

-- What is in flight under an id is the file of that id.
def Tracked (spooled : List (Uuid × Int)) (inFlight : InFlight) : Prop :=
  ∀ uid f, inFlight.lookup uid = some f → ∃ id ∈ spooled, uid = id.1.text ∧ f.path = pathOf id

def Identified (setup : Setup) (spooled : List (Uuid × Int)) (header : Json) : Prop :=
  ∃ id ∈ spooled, header.field "uid" = .string id.1.text
    ∧ header.field "captured_at" = .string (setup.writer.toRfc3339 id.2)

def rejections : List String :=
  ["empty jpeg", "jpeg too large", "invalid frame identity", "blob write failed",
    "blob write panicked"]

/--
An answer that names `uid`: that its row exists, or that it will never be stored.
-/
def Acknowledges (rows : List ScreenFrame) (uid : String) (val : Json) : Prop :=
  val = HistoryFrameAck.accepted uid ∧ (∃ row ∈ rows, row.clientUid = Uuid.parse uid)
    ∨ ∃ reason ∈ rejections, val = HistoryFrameAck.rejected uid reason

structure Invariant (setup : Setup) (s : System) : Prop where
  distinct : (s.spooled.map Prod.fst).Nodup
  clock : ∀ id ∈ s.spooled, onClock id.2
  files : Filed setup s.spooled s.agent.dir
  flight : Tracked s.spooled s.agent.inFlight
  bounded : s.agent.inFlight.entries.length ≤ historyMaxInFlight
  sent : ∀ x ∈ s.sent, Identified setup s.spooled x.header
  rows : ∀ row ∈ s.rows, ∃ id ∈ s.spooled, row.agentId = setup.agentId
    ∧ row.capturedAt = pgTimestamp id.2 ∧ row.clientUid = some id.1
  unique : (s.rows.map ScreenFrame.clientUid).Nodup
  acks : ∀ val ∈ s.acks, ∃ uid : Uuid, Acknowledges s.rows uid.text val

theorem Filed.within {setup : Setup} {spooled : List (Uuid × Int)} {d d' : Dir}
    (h : Filed setup spooled d') (hsub : Within d d') : Filed setup spooled d :=
  fun path file hfile => h path file (hsub path file hfile)

theorem Filed.cons {setup : Setup} {spooled : List (Uuid × Int)} {dir : Dir}
    (h : Filed setup spooled dir) (id : Uuid × Int) : Filed setup (id :: spooled) dir := by
  intro path file hfile
  rcases h path file hfile with ⟨known, hmem, hknown⟩
  exact ⟨known, List.mem_cons_of_mem _ hmem, hknown⟩

theorem Filed.write {setup : Setup} {spooled : List (Uuid × Int)} {dir : Dir}
    (h : Filed setup spooled dir) (uid : Uuid) (frame : HistoryFrame) (s : State)
    : Filed setup ((uid, frame.capturedAt) :: spooled)
        (writeFrame setup.writer dir (pushedHeader setup.writer uid frame s) frame.jpeg) := by
  intro path file hfile
  unfold writeFrame at hfile
  rw [Table.lookup_insert_eq] at hfile
  split at hfile
  . next hpath =>
    rw [Option.some.injEq] at hfile
    refine ⟨(uid, frame.capturedAt), List.mem_cons_self, hpath, ?_⟩
    intro spooledFrame hframe
    rw [← hfile, Option.mem_def, Option.some.injEq] at hframe
    rw [← hframe]
    exact ⟨rfl, rfl⟩
  . exact h.cons _ path file hfile

theorem Filed.damage {setup : Setup} {spooled : List (Uuid × Int)} {dir : Dir} {path : String}
    (h : Filed setup spooled dir) (hpath : ¬(dir.lookup path).isNone = true) (len : Nat)
    : Filed setup spooled (dir.insert path { len, frame := none }) := by
  intro other file hfile
  rw [Table.lookup_insert_eq] at hfile
  split at hfile
  . next heq =>
    subst heq
    rw [Option.isNone_iff_eq_none] at hpath
    rcases Option.ne_none_iff_exists'.mp hpath with ⟨old, hold⟩
    rcases h other old hold with ⟨id, hmem, hother, _⟩
    rw [Option.some.injEq] at hfile
    refine ⟨id, hmem, hother, ?_⟩
    intro frame hframe
    rw [← hfile] at hframe
    cases hframe
  . exact h other file hfile

theorem Tracked.cons {spooled : List (Uuid × Int)} {inFlight : InFlight} (h : Tracked spooled inFlight)
    (id : Uuid × Int) : Tracked (id :: spooled) inFlight := by
  intro uid f hf
  rcases h uid f hf with ⟨known, hmem, hknown⟩
  exact ⟨known, List.mem_cons_of_mem _ hmem, hknown⟩

theorem Identified.cons {setup : Setup} {spooled : List (Uuid × Int)} {header : Json}
    (h : Identified setup spooled header) (id : Uuid × Int)
    : Identified setup (id :: spooled) header := by
  rcases h with ⟨known, hmem, hknown⟩
  exact ⟨known, List.mem_cons_of_mem _ hmem, hknown⟩

/-!
The steps of a session.
-/

section Sessions

variable {setup : Setup} {spooled : List (Uuid × Int)} {a : Session}

theorem beginPump_dir (a : Session) (disk : Disk) (now : Nat) (allowed : Bool)
    : (a.beginPump disk now allowed).dir = a.dir := by
  unfold Session.beginPump
  split
  . rfl
  . dsimp only
    split
    . rfl
    . rfl

theorem lookup_beginPump {disk : Disk} {now : Nat} {allowed : Bool} {uid : String} {f : InFlightFrame}
    (h : (a.beginPump disk now allowed).inFlight.lookup uid = some f)
    : a.inFlight.lookup uid = some f := by
  have hretain : ∀ keep : String → InFlightFrame → Bool,
      (Table.retain keep a.inFlight).lookup uid = some f → a.inFlight.lookup uid = some f := by
    intro keep hkeep
    rw [Table.lookup_retain, Option.filter_eq_some_iff] at hkeep
    exact hkeep.1
  unfold Session.beginPump at h
  split at h
  . exact h
  . dsimp only at h
    split at h
    . exact hretain _ h
    . exact hretain _ h

theorem length_beginPump (a : Session) (disk : Disk) (now : Nat) (allowed : Bool)
    : (a.beginPump disk now allowed).inFlight.entries.length ≤ a.inFlight.entries.length := by
  unfold Session.beginPump
  split
  . exact Nat.le_refl _
  . dsimp only
    split
    . exact List.length_filter_le ..
    . exact List.length_filter_le ..

/--
All that one round of the loop over the spool can do: nothing to the spool, the removal of a file that
cannot be read or whose grant is gone, or the sending of a file.
-/
theorem pumpNext_cases (a : Session) (disk : Disk) (now : Nat) (sweep : Sweep)
    : (∃ next, a.pumpNext disk now sweep = ({ a with sweep := next }, none))
      ∨ (∃ path rest, (∀ frame, load disk a.dir path = some frame → frame.header.valid a.store = false)
        ∧ a.pumpNext disk now sweep
          = ({ a with sweep := some { sweep with rest }, dir := remove disk a.dir path }, none))
      ∨ ∃ path rest frame, a.inFlight.entries.length < historyMaxInFlight
        ∧ load disk a.dir path = some frame
        ∧ a.pumpNext disk now sweep
          = ({ a with
                sweep := some { sweep with rest }
                inFlight := a.inFlight.insert frame.header.uid { path, sentAt := now } },
              some (frame.toSend a.store)) := by
  unfold Session.pumpNext
  split
  . exact .inl ⟨none, rfl⟩
  . next path rest hrest =>
    split
    . exact .inl ⟨none, rfl⟩
    . next hlen =>
      dsimp only
      split
      . exact .inl ⟨_, rfl⟩
      . split
        . next hload =>
          refine .inr (.inl ⟨path, rest, ?_, rfl⟩)
          intro frame hframe
          rw [hload] at hframe
          cases hframe
        . next frame hload =>
          split
          . next hvalid =>
            refine .inr (.inl ⟨path, rest, ?_, rfl⟩)
            intro other hother
            rw [hload, Option.some.injEq] at hother
            rw [← hother]
            simpa using hvalid
          . exact .inr (.inr ⟨path, rest, frame, by omega, hload, rfl⟩)

theorem load_eq_some {disk : Disk} {dir : Dir} {path : String} {frame : SpooledFrame}
    (h : load disk dir path = some frame)
    : ∃ file, dir.lookup path = some file ∧ file.frame = some frame := by
  unfold load at h
  split at h
  . exact Option.bind_eq_some_iff.mp h
  . cases h

/--
An answer does nothing unless it names what is in flight.
-/
theorem handleHistoryAck_cases (a : Session) (disk : Disk) (val : Json)
    : (a.handleHistoryAck disk val).1 = a
      ∨ ∃ uid f, val.field "uid" = .string uid ∧ a.inFlight.lookup uid = some f
        ∧ (a.handleHistoryAck disk val).1
          = { a with inFlight := a.inFlight.erase uid, dir := remove disk a.dir f.path } := by
  unfold Session.handleHistoryAck
  split
  . exact .inl rfl
  . split
    . exact .inl rfl
    . next uid huid =>
      split
      . exact .inl rfl
      . next f hf =>
        refine .inr ⟨uid, f, ?_, hf, rfl⟩
        revert huid
        cases val.field "uid" with
        | string text =>
          intro huid
          rw [Json.asStr, Option.some.injEq] at huid
          rw [huid]
        | _ =>
          intro huid
          cases huid

theorem field_uid_toSend (frame : SpooledFrame) (store : Option State)
    : (frame.toSend store).header.field "uid" = .string frame.header.uid := by
  rfl

theorem field_capturedAt_toSend (frame : SpooledFrame) (store : Option State)
    : (frame.toSend store).header.field "captured_at" = .string frame.header.capturedAt := by
  rfl

end Sessions

/-!
The steps of the server.
-/

theorem parse_trim_text (id : Uuid) : Uuid.parse (Text.trim id.text) = some id := by
  rw [Text.trim_eq_self, Uuid.parse_text]
  exact Uuid.forall_text (by decide) (by decide) id

theorem text_isEmpty (id : Uuid) : id.text.isEmpty = false := by
  have hlen := Uuid.length_text id
  rw [Bool.eq_false_iff]
  intro h
  rw [String.isEmpty_iff] at h
  simp [h] at hlen

section Ingestions

variable {parseFromRfc3339 : String → Option Int} {agentId uid : Uuid} {time : String} {t : Int}
  {header : Json}

theorem ackHistoryFrame_eq (huid : header.field "uid" = .string uid.text) (reason : Option String)
    : ackHistoryFrame header reason
        = some (reason.elim (HistoryFrameAck.accepted uid.text)
            (HistoryFrameAck.rejected uid.text)) := by
  simp [ackHistoryFrame, huid, Json.asStr, text_isEmpty]

/--
A keyframe with an id and a time that can be read leaves the rows alone and is refused for good or not
answered, or it is inserted and accepted.
-/
theorem ingest_cases (huid : header.field "uid" = .string uid.text)
    (htime : header.field "captured_at" = .string time) (hparse : parseFromRfc3339 time = some t)
    (i : Ingestion) (rows : List ScreenFrame) (jpeg : List UInt8)
    : (∃ ack, ingestHistoryFrame parseFromRfc3339 agentId i rows header jpeg = (rows, ack)
        ∧ ∀ val ∈ ack, ∃ reason ∈ rejections, val = HistoryFrameAck.rejected uid.text reason)
      ∨ ingestHistoryFrame parseFromRfc3339 agentId i rows header jpeg
          = (insertScreenFrame rows
              { agentId, capturedAt := pgTimestamp t, clientUid := some uid, jpeg },
            some (HistoryFrameAck.accepted uid.text)) := by
  have hrefused : ∀ reason ∈ rejections, ∀ val ∈ ackHistoryFrame header (some reason),
      ∃ reason ∈ rejections, val = HistoryFrameAck.rejected uid.text reason := by
    intro reason hreason val hval
    rw [ackHistoryFrame_eq huid, Option.mem_def, Option.some.injEq] at hval
    exact ⟨reason, hreason, hval.symm⟩
  unfold ingestHistoryFrame
  split
  . exact .inl ⟨_, rfl, hrefused _ (by decide)⟩
  . split
    . exact .inl ⟨_, rfl, hrefused _ (by decide)⟩
    . unfold storeHistoryFrame
      simp only [huid, htime, Json.asStr, Option.bind_some, parse_trim_text, hparse]
      rw [if_neg (by simp)]
      split
      . exact .inl ⟨_, rfl, hrefused _ (by decide)⟩
      . exact .inl ⟨_, rfl, hrefused _ (by decide)⟩
      . split
        . refine .inl ⟨none, rfl, ?_⟩
          intro val hval
          cases hval
        . right
          rw [ackHistoryFrame_eq huid]
          rfl

end Ingestions

theorem mem_insertScreenFrame {rows : List ScreenFrame} {row other : ScreenFrame}
    (h : other ∈ insertScreenFrame rows row) : other ∈ rows ∨ other = row := by
  unfold insertScreenFrame at h
  split at h
  . exact .inl h
  . simpa using h

theorem mem_insertScreenFrame_of_mem {rows : List ScreenFrame} {other : ScreenFrame}
    (h : other ∈ rows) (row : ScreenFrame) : other ∈ insertScreenFrame rows row := by
  unfold insertScreenFrame
  split
  . exact h
  . exact List.mem_append_left _ h

-- Whether it was new or not, there is a row with the id afterwards.
theorem exists_clientUid_insert (rows : List ScreenFrame) (row : ScreenFrame)
    : ∃ other ∈ insertScreenFrame rows row, other.clientUid = row.clientUid := by
  unfold insertScreenFrame
  split
  . next h =>
    rcases List.any_eq_true.mp h with ⟨other, hmem, hconflict⟩
    refine ⟨other, hmem, ?_⟩
    simp only [ScreenFrame.conflicts, decide_eq_true_eq] at hconflict
    exact hconflict.2.2.1
  . exact ⟨row, List.mem_append_right _ List.mem_cons_self, rfl⟩

theorem Acknowledges.mono {rows rows' : List ScreenFrame} {uid : String} {val : Json}
    (h : Acknowledges rows uid val) (hrows : ∀ row ∈ rows, row ∈ rows')
    : Acknowledges rows' uid val := by
  rcases h with ⟨hval, row, hrow, hid⟩ | h
  . exact .inl ⟨hval, row, hrows row hrow, hid⟩
  . exact .inr h

/-!
Every step keeps the invariant.
-/

section Steps

variable {setup : Setup} {s t : System}

theorem invariant_init (setup : Setup) : Invariant setup .init where
  distinct := List.nodup_nil
  clock := by simp [System.init]
  files := by
    intro path file h
    simp [System.init] at h
  flight := by
    intro uid f h
    simp [System.init] at h
  bounded := Nat.zero_le _
  sent := by simp [System.init]
  rows := by simp [System.init]
  unique := List.nodup_nil
  acks := by simp [System.init]

theorem Invariant.push (h : Invariant setup s) {uid : Uuid} {frame : HistoryFrame}
    (hfresh : uid ∉ s.spooled.map Prod.fst) {dir : Dir}
    (hdir : Filed setup ((uid, frame.capturedAt) :: s.spooled) dir)
    : Invariant setup { s with
        agent := { s.agent with dir }
        spooled := (uid, frame.capturedAt) :: s.spooled } where
  distinct := List.nodup_cons.mpr ⟨hfresh, h.distinct⟩
  clock := by
    intro id hid
    rcases List.mem_cons.mp hid with rfl | hid
    . exact ⟨frame.capturedAt_le, frame.capturedAt_lt⟩
    . exact h.clock id hid
  files := hdir
  flight := h.flight.cons _
  bounded := h.bounded
  sent := fun x hx => (h.sent x hx).cons _
  rows := by
    intro row hrow
    rcases h.rows row hrow with ⟨id, hid, hkey⟩
    exact ⟨id, List.mem_cons_of_mem _ hid, hkey⟩
  unique := h.unique
  acks := h.acks

-- The agent moves on: what it sends and what it keeps is about keyframes that were spooled.
theorem Invariant.agent (h : Invariant setup s) {agent : Session} {sent : List Sent}
    (hfiles : Filed setup s.spooled agent.dir) (hflight : Tracked s.spooled agent.inFlight)
    (hbounded : agent.inFlight.entries.length ≤ historyMaxInFlight)
    (hsent : ∀ x ∈ sent, Identified setup s.spooled x.header)
    : Invariant setup { s with agent, sent := s.sent ++ sent } where
  distinct := h.distinct
  clock := h.clock
  files := hfiles
  flight := hflight
  bounded := hbounded
  sent := by
    intro x hx
    rcases List.mem_append.mp hx with hx | hx
    . exact h.sent x hx
    . exact hsent x hx
  rows := h.rows
  unique := h.unique
  acks := h.acks

theorem Invariant.quiet (h : Invariant setup s) {agent : Session}
    (hfiles : Filed setup s.spooled agent.dir) (hflight : Tracked s.spooled agent.inFlight)
    (hbounded : agent.inFlight.entries.length ≤ historyMaxInFlight)
    : Invariant setup { s with agent } := by
  have : Invariant setup { s with agent, sent := s.sent ++ [] } :=
    h.agent hfiles hflight hbounded (by simp)
  simpa using this

theorem Invariant.pumpNext (h : Invariant setup s) (disk : Disk) (now : Nat) (sweep : Sweep)
    : Invariant setup { s with
        agent := (s.agent.pumpNext disk now sweep).1
        sent := s.sent ++ (s.agent.pumpNext disk now sweep).2.toList } := by
  rcases pumpNext_cases s.agent disk now sweep with ⟨next, heq⟩ | ⟨path, rest, _, heq⟩
    | ⟨path, rest, frame, hlen, hload, heq⟩
  . rw [heq]
    exact h.agent h.files h.flight h.bounded (by simp)
  . rw [heq]
    exact h.agent (h.files.within (remove_within disk _ path)) h.flight h.bounded (by simp)
  . rcases load_eq_some hload with ⟨file, hfile, hframe⟩
    rcases h.files path file hfile with ⟨id, hid, hpath, hheader⟩
    rcases hheader frame hframe with ⟨huid, htime⟩
    rw [heq]
    apply h.agent
    . exact h.files
    . intro uid f hf
      dsimp only at hf
      rw [Table.lookup_insert_eq] at hf
      split at hf
      . next heq =>
        rw [Option.some.injEq] at hf
        refine ⟨id, hid, ?_, ?_⟩
        . rw [heq, huid]
        . rw [← hf, hpath]
      . exact h.flight uid f hf
    . have := Table.length_insert_le s.agent.inFlight frame.header.uid { path, sentAt := now }
      dsimp only
      omega
    . intro x hx
      rw [Option.toList_some, List.mem_singleton] at hx
      refine ⟨id, hid, ?_, ?_⟩
      . rw [hx, field_uid_toSend, huid]
      . rw [hx, field_capturedAt_toSend, htime]

theorem Invariant.receiveAck (h : Invariant setup s) (disk : Disk) (val : Json)
    : Invariant setup { s with agent := (s.agent.handleHistoryAck disk val).1 } := by
  rcases handleHistoryAck_cases s.agent disk val with heq | ⟨uid, f, _, hf, heq⟩
  . rw [heq]
    exact h
  . rw [heq]
    apply h.quiet
    . exact h.files.within (remove_within disk _ f.path)
    . intro other g hg
      dsimp only at hg
      rw [Table.lookup_erase_eq] at hg
      split at hg
      . cases hg
      . exact h.flight other g hg
    . exact Nat.le_trans (Table.length_erase_le s.agent.inFlight uid) h.bounded

def rowOf (setup : Setup) (id : Uuid × Int) (jpeg : List UInt8) : ScreenFrame where
  agentId := setup.agentId
  capturedAt := pgTimestamp id.2
  clientUid := some id.1
  jpeg

-- The same id comes with the same time, so its second row would conflict with the first.
theorem Invariant.unique_insert (h : Invariant setup s) {id : Uuid × Int} (hid : id ∈ s.spooled)
    (jpeg : List UInt8)
    : ((insertScreenFrame s.rows (rowOf setup id jpeg)).map ScreenFrame.clientUid).Nodup := by
  unfold insertScreenFrame
  split
  . exact h.unique
  . next hnew =>
    rw [List.map_append, List.nodup_append]
    refine ⟨h.unique, List.nodup_singleton _, ?_⟩
    intro old hold new hnewId
    rcases List.mem_map.mp hold with ⟨row, hrow, rfl⟩
    rw [List.map_cons, List.map_nil, List.mem_singleton] at hnewId
    intro heq
    apply hnew
    rw [List.any_eq_true]
    refine ⟨row, hrow, ?_⟩
    rcases h.rows row hrow with ⟨known, hknown, hagent, htime, hrowId⟩
    have hsame : known = id := by
      apply List.inj_on_of_nodup_map h.distinct hknown hid
      rw [hnewId, hrowId] at heq
      exact Option.some.inj heq
    simp [ScreenFrame.conflicts, rowOf, hagent, htime, hrowId, hsame]

theorem Invariant.ingest (h : Invariant setup s) {id : Uuid × Int} (hid : id ∈ s.spooled)
    {rows : List ScreenFrame} {ack : Option Json} (jpeg : List UInt8)
    (hcases : rows = s.rows
        ∧ (∀ val ∈ ack, ∃ reason ∈ rejections, val = HistoryFrameAck.rejected id.1.text reason)
      ∨ rows = insertScreenFrame s.rows (rowOf setup id jpeg)
        ∧ ack = some (HistoryFrameAck.accepted id.1.text))
    : Invariant setup { s with rows, acks := s.acks ++ ack.toList } := by
  rcases hcases with ⟨rfl, hack⟩ | ⟨rfl, rfl⟩
  . exact {
      h with
      acks := by
        intro val hval
        rcases List.mem_append.mp hval with hval | hval
        . exact h.acks val hval
        . exact ⟨id.1, .inr (hack val (Option.mem_toList.mp hval))⟩
    }
  . exact {
      h with
      rows := by
        intro row hrow
        rcases mem_insertScreenFrame hrow with hrow | rfl
        . exact h.rows row hrow
        . exact ⟨id, hid, rfl, rfl, rfl⟩
      unique := h.unique_insert hid jpeg
      acks := by
        intro val hval
        rcases List.mem_append.mp hval with hval | hval
        . rcases h.acks val hval with ⟨uid, huid⟩
          exact ⟨uid, huid.mono (fun row hrow => mem_insertScreenFrame_of_mem hrow _)⟩
        . rw [Option.toList_some, List.mem_singleton] at hval
          rcases exists_clientUid_insert s.rows (rowOf setup id jpeg) with ⟨row, hrow, heq⟩
          refine ⟨id.1, .inl ⟨hval, row, hrow, ?_⟩⟩
          rw [heq, Uuid.parse_text]
          rfl
    }

theorem field_of_sameFrame {a b : Json} (h : sameFrame a b = true) {key : String}
    (hkey : key ≠ "context") : a.field key = b.field key := by
  rw [sameFrame, decide_eq_true_eq] at h
  rw [← Json.field_eraseField_of_ne hkey a, h, Json.field_eraseField_of_ne hkey b]

theorem Invariant.step (hclock : ∀ time, onClock time
      → setup.parseFromRfc3339 (setup.writer.toRfc3339 time) = some time)
    (h : Invariant setup s) {a : Action} (hstep : step setup s a = some t) : Invariant setup t := by
  cases a with
  | push disk uid frame =>
    simp only [Upload.step] at hstep
    split at hstep
    . cases hstep
    . next hfresh =>
      split at hstep
      . rw [Option.some.injEq] at hstep
        rw [← hstep]
        exact h
      . next dir hpush =>
        rcases push_ok hpush with ⟨grants, hdir⟩
        rw [Option.some.injEq] at hstep
        rw [← hstep, hdir]
        exact h.push hfresh ((h.files.write uid frame grants).within (enforceBudget_within _ _ _))
  | damage path len =>
    simp only [Upload.step] at hstep
    split at hstep
    . cases hstep
    . next hpath =>
      rw [Option.some.injEq] at hstep
      rw [← hstep]
      exact h.quiet (h.files.damage hpath len) h.flight h.bounded
  | setGrants store =>
    simp only [Upload.step, Option.some.injEq] at hstep
    rw [← hstep]
    exact h.quiet h.files h.flight h.bounded
  | beginPump disk now allowed =>
    simp only [Upload.step] at hstep
    split at hstep
    . cases hstep
    . rw [Option.some.injEq] at hstep
      rw [← hstep]
      apply h.quiet
      . rw [beginPump_dir]
        exact h.files
      . exact fun uid f hf => h.flight uid f (lookup_beginPump hf)
      . exact Nat.le_trans (length_beginPump ..) h.bounded
  | pumpNext disk now =>
    simp only [Upload.step] at hstep
    split at hstep
    . cases hstep
    . next sweep _ =>
      rw [Option.some.injEq] at hstep
      rw [← hstep]
      exact h.pumpNext disk now sweep
  | receiveAck disk val =>
    simp only [Upload.step] at hstep
    split at hstep
    . cases hstep
    . rw [Option.some.injEq] at hstep
      rw [← hstep]
      exact h.receiveAck disk val
  | restart =>
    simp only [Upload.step, Option.some.injEq] at hstep
    rw [← hstep]
    apply h.quiet
    . exact h.files
    . intro uid f hf
      simp [Session.restart] at hf
    . exact Nat.zero_le _
  | ingest i header jpeg =>
    simp only [Upload.step] at hstep
    split at hstep
    . next hsent =>
      rcases List.any_eq_true.mp hsent with ⟨x, hx, hsame⟩
      rw [decide_eq_true_eq] at hsame
      rcases h.sent x hx with ⟨id, hid, huid, htime⟩
      rw [field_of_sameFrame hsame.1 (by decide)] at huid htime
      rw [Option.some.injEq] at hstep
      rw [← hstep]
      apply h.ingest hid jpeg
      rcases ingest_cases huid htime (hclock id.2 (h.clock id hid)) i s.rows jpeg
        with ⟨ack, heq, hack⟩ | heq
      . rw [heq]
        exact .inl ⟨rfl, hack⟩
      . rw [heq]
        exact .inr ⟨rfl, rfl⟩
    . cases hstep

theorem invariant_reachable (hclock : ∀ time, onClock time
      → setup.parseFromRfc3339 (setup.writer.toRfc3339 time) = some time)
    (h : Reachable setup s) : Invariant setup s := by
  induction h with
  | init => exact invariant_init setup
  | step _ hstep ih => exact ih.step hclock hstep

end Steps

/-!
How a file leaves the spool.
-/

def Action.reads : Action → String → Bool
  | .pumpNext disk _, path => disk.readable path
  | _, _ => true

theorem acknowledges_of_field {rows : List ScreenFrame} {uid other : String} {val : Json}
    (h : Acknowledges rows other val) (huid : val.field "uid" = .string uid) : other = uid := by
  rcases h with ⟨rfl, _⟩ | ⟨reason, _, rfl⟩
  . exact Json.string.inj huid
  . exact Json.string.inj huid

section Leaving

variable {setup : Setup} {s t : System} {path : String} {file : File}

theorem push_leaves {disk : Disk} {uid : Uuid} {frame : HistoryFrame}
    (hstep : step setup s (.push disk uid frame) = some t)
    (hfile : s.agent.dir.lookup path = some file) (hgone : t.agent.dir.lookup path = none)
    : ∃ grants, setup.maxBytes < total (entries disk
        (writeFrame setup.writer s.agent.dir (pushedHeader setup.writer uid frame grants)
          frame.jpeg)) := by
  simp only [step] at hstep
  split at hstep
  . cases hstep
  . next hfresh =>
    split at hstep
    . rw [Option.some.injEq] at hstep
      rw [← hstep, hfile] at hgone
      cases hgone
    . next dir hpush =>
      rcases push_ok hpush with ⟨grants, hdir⟩
      rw [Option.some.injEq] at hstep
      refine ⟨grants, ?_⟩
      by_contra hbudget
      rw [enforceBudget_eq_self (Nat.le_of_not_lt hbudget)] at hdir
      rw [← hstep, hdir] at hgone
      dsimp only at hgone
      rw [writeFrame, Table.lookup_insert_eq] at hgone
      split at hgone
      . cases hgone
      . rw [hfile] at hgone
        cases hgone

theorem pumpNext_leaves {disk : Disk} {now : Nat} (hstep : step setup s (.pumpNext disk now) = some t)
    (hfile : s.agent.dir.lookup path = some file) (hgone : t.agent.dir.lookup path = none)
    {frame : SpooledFrame} (hframe : file.frame = some frame) (hread : disk.readable path = true)
    : frame.header.valid s.agent.store = false := by
  simp only [step] at hstep
  split at hstep
  . cases hstep
  . next sweep _ =>
    rw [Option.some.injEq] at hstep
    rw [← hstep] at hgone
    dsimp only at hgone
    rcases pumpNext_cases s.agent disk now sweep with ⟨next, heq⟩ | ⟨other, rest, hinvalid, heq⟩
      | ⟨other, rest, sent, _, _, heq⟩
    . rw [heq, hfile] at hgone
      cases hgone
    . rw [heq] at hgone
      by_cases hpath : path = other
      . subst hpath
        apply hinvalid frame
        rw [load, if_pos hread, hfile]
        exact hframe
      . dsimp only at hgone
        rw [lookup_remove_of_ne disk _ hpath, hfile] at hgone
        cases hgone
    . rw [heq, hfile] at hgone
      cases hgone

-- Whatever an answer changes is the file of the id that it names.
theorem receiveAck_changes (h : Invariant setup s) {disk : Disk} {val : Json}
    (hstep : step setup s (.receiveAck disk val) = some t)
    (hfile : s.agent.dir.lookup path = some file) (hchange : t.agent.dir.lookup path ≠ some file)
    : ∃ ms, ∃ uid : Uuid, val ∈ s.acks ∧ path = fileName ms uid.text
        ∧ val.field "uid" = .string uid.text ∧ Acknowledges s.rows uid.text val
        ∧ ∀ frame ∈ file.frame, frame.header.uid = uid.text := by
  simp only [step] at hstep
  split at hstep
  . cases hstep
  . next henabled =>
    have hval : val ∈ s.acks := by
      by_contra hnot
      exact henabled (.inr hnot)
    rw [Option.some.injEq] at hstep
    rw [← hstep] at hchange
    dsimp only at hchange
    rcases handleHistoryAck_cases s.agent disk val with heq | ⟨uid, f, huid, hf, heq⟩
    . rw [heq] at hchange
      exact absurd hfile hchange
    . rcases h.flight uid f hf with ⟨id, hid, rfl, hpath⟩
      rcases h.acks val hval with ⟨named, hnamed⟩
      have hsame : named.text = id.1.text := acknowledges_of_field hnamed huid
      have hremoved : path = f.path := by
        by_contra hne
        rw [heq] at hchange
        dsimp only at hchange
        rw [lookup_remove_of_ne disk _ hne] at hchange
        exact hchange hfile
      refine ⟨id.2 / 10 ^ 6, id.1, hval, ?_, huid, ?_, ?_⟩
      . rw [hremoved, hpath]
        rfl
      . rw [← hsame]
        exact hnamed
      . intro frame hframe
        rcases h.files path file hfile with ⟨owner, howner, hownerPath, hheader⟩
        have hid : owner.1 = id.1 := by
          apply fileName_injective (owner.2 / 10 ^ 6) (id.2 / 10 ^ 6)
          change pathOf owner = pathOf id
          rw [← hownerPath, hremoved, hpath]
        rw [← hid]
        exact (hheader frame hframe).1

-- No other step takes a file away.
theorem other_leaves {a : Action} (hstep : step setup s a = some t)
    (hfile : s.agent.dir.lookup path = some file) (hgone : t.agent.dir.lookup path = none)
    : (∃ disk uid frame, a = .push disk uid frame) ∨ (∃ disk now, a = .pumpNext disk now)
      ∨ ∃ disk val, a = .receiveAck disk val := by
  cases a with
  | push disk uid frame => exact .inl ⟨disk, uid, frame, rfl⟩
  | pumpNext disk now => exact .inr (.inl ⟨disk, now, rfl⟩)
  | receiveAck disk val => exact .inr (.inr ⟨disk, val, rfl⟩)
  | damage other len =>
    exfalso
    simp only [step] at hstep
    split at hstep
    . cases hstep
    . rw [Option.some.injEq] at hstep
      rw [← hstep] at hgone
      dsimp only at hgone
      rw [Table.lookup_insert_eq] at hgone
      split at hgone
      . cases hgone
      . rw [hfile] at hgone
        cases hgone
  | setGrants store =>
    exfalso
    simp only [step, Option.some.injEq] at hstep
    rw [← hstep, hfile] at hgone
    cases hgone
  | beginPump disk now allowed =>
    exfalso
    simp only [step] at hstep
    split at hstep
    . cases hstep
    . rw [Option.some.injEq] at hstep
      rw [← hstep] at hgone
      dsimp only at hgone
      rw [beginPump_dir, hfile] at hgone
      cases hgone
  | restart =>
    exfalso
    simp only [step, Option.some.injEq] at hstep
    rw [← hstep] at hgone
    dsimp only [Session.restart] at hgone
    rw [hfile] at hgone
    cases hgone
  | ingest i header jpeg =>
    exfalso
    simp only [step] at hstep
    split at hstep
    . rw [Option.some.injEq] at hstep
      rw [← hstep, hfile] at hgone
      cases hgone
    . cases hstep

end Leaving

theorem length_filter_le_one {rows : List ScreenFrame}
    (h : (rows.map ScreenFrame.clientUid).Nodup) (uid : Uuid)
    : (rows.filter (fun row => row.clientUid = some uid)).length ≤ 1 := by
  have hcount : (rows.map ScreenFrame.clientUid).count (some uid) ≤ 1 :=
    List.nodup_iff_count_le_one.mp h (some uid)
  rw [List.count, List.countP_map, List.countP_eq_length_filter] at hcount
  convert hcount using 3
  funext row
  simp [beq_eq_decide]

/--
Whatever is lost, delayed or repeated: a keyframe that can be read and whose grant is valid leaves the
spool only when an answer names it, or to make room; there is at most one row for an id; an answer
changes no other file; and no more than four keyframes are in flight.
-/
theorem upload_safe (setup : Setup)
    (hclock : ∀ time, onClock time
      → setup.parseFromRfc3339 (setup.writer.toRfc3339 time) = some time)
    (s : System) (h : Reachable setup s)
    : (∀ a t path file frame, step setup s a = some t → s.agent.dir.lookup path = some file
        → file.frame = some frame → a.reads path = true → frame.header.valid s.agent.store = true
        → t.agent.dir.lookup path = none
        → (∃ disk val, a = .receiveAck disk val ∧ val ∈ s.acks
            ∧ Acknowledges s.rows frame.header.uid val)
          ∨ ∃ disk uid captured grants, a = .push disk uid captured
            ∧ setup.maxBytes < total (entries disk (writeFrame setup.writer s.agent.dir
                (pushedHeader setup.writer uid captured grants) captured.jpeg)))
      ∧ (∀ uid, (s.rows.filter (fun row => row.clientUid = some uid)).length ≤ 1)
      ∧ (∀ disk val t path file, step setup s (.receiveAck disk val) = some t
        → s.agent.dir.lookup path = some file → t.agent.dir.lookup path ≠ some file
        → ∃ ms, ∃ uid : Uuid, path = fileName ms uid.text ∧ val.field "uid" = .string uid.text
          ∧ ∀ frame ∈ file.frame, frame.header.uid = uid.text)
      ∧ s.agent.inFlight.entries.length ≤ 4 := by
  have hinv := invariant_reachable hclock h
  refine ⟨?_, ?_, ?_, hinv.bounded⟩
  . intro a t path file frame hstep hfile hframe hread hvalid hgone
    rcases other_leaves hstep hfile hgone with ⟨disk, uid, captured, rfl⟩ | ⟨disk, now, rfl⟩
      | ⟨disk, val, rfl⟩
    . rcases push_leaves hstep hfile hgone with ⟨grants, hbudget⟩
      exact .inr ⟨disk, uid, captured, grants, rfl, hbudget⟩
    . have hinvalid := pumpNext_leaves hstep hfile hgone hframe hread
      rw [hvalid] at hinvalid
      cases hinvalid
    . have hchange : t.agent.dir.lookup path ≠ some file := by
        rw [hgone]
        intro hne
        cases hne
      rcases receiveAck_changes hinv hstep hfile hchange with ⟨_, uid, hval, _, _, hack, hnames⟩
      refine .inl ⟨disk, val, rfl, hval, ?_⟩
      rw [hnames frame hframe]
      exact hack
  . exact length_filter_le_one hinv.unique
  . intro disk val t path file hstep hfile hchange
    rcases receiveAck_changes hinv hstep hfile hchange with ⟨ms, uid, _, hpath, huid, _, hnames⟩
    exact ⟨ms, uid, hpath, huid, hnames⟩

namespace Example

def newYear : Int := 1767225600 * 10 ^ 9

-- Exact for the one time of the example, and a code for the others.
def printTime (time : Int) : String :=
  if time = newYear then
    "2026-01-01T00:00:00+00:00"
  else
    String.ofList ((if time < 0 then '-' else '+') :: List.replicate time.natAbs '0')

def readTime (text : String) : Option Int :=
  match text.toList with
  | '-' :: digits => some (-digits.length)
  | '+' :: digits => some digits.length
  | _ => if text = "2026-01-01T00:00:00+00:00" then some newYear else none

theorem readTime_printTime (time : Int) : readTime (printTime time) = some time := by
  unfold printTime
  split
  . next h =>
    rw [h]
    decide
  . split
    . simp only [readTime, String.toList_ofList, List.length_replicate, Option.some.injEq]
      omega
    . simp only [readTime, String.toList_ofList, List.length_replicate, Option.some.injEq]
      omega

def setup : Setup where
  writer := { toRfc3339 := printTime, headerLen := fun _ => 200 }
  maxBytes := 512 * 1024 * 1024
  parseFromRfc3339 := readTime
  agentId := 1

def disk : Disk where
  listed _ := true
  readable _ := true
  removable _ := true

def grants : State := State.default.setGrant .recall true

def captured : HistoryFrame where
  generation := Generation.fromState grants .recall
  captureDurationMs := some 12
  context := none
  contextGenerations := .default
  capturedAt := newYear
  capturedAt_le := by decide
  capturedAt_lt := by decide
  monitor := 0
  width := 1280
  height := 720
  phash := 0
  ocrText := none
  ocrWords := []
  jpeg := [0xff, 0xd8, 0xff, 0xd9]

def uid : Uuid := 0x3f1a9c62000040008000000000000001#128

def header : Json :=
  uploadHeader (pushedHeader setup.writer uid captured grants)

def ingestion : Ingestion where
  now := newYear
  blob := .ok
  granted := true
  database := true

-- The answer to the first delivery is lost with the session, and the keyframe is sent again.
def resent : List Action :=
  [ .setGrants (some grants), .push disk uid captured, .beginPump disk 0 true, .pumpNext disk 0,
    .ingest ingestion header captured.jpeg, .restart, .beginPump disk 5 true, .pumpNext disk 5,
    .pumpNext disk 5, .ingest ingestion header captured.jpeg ]

theorem resent_isSome : (System.init.run setup resent).isSome = true := by
  decide +kernel

def stored : System :=
  (System.init.run setup resent).get resent_isSome

theorem reachable_stored : Reachable setup stored :=
  Reachable.init.run (Option.some_get resent_isSome).symm

def answer : Json :=
  HistoryFrameAck.accepted "3f1a9c62-0000-4000-8000-000000000001"

def path : String := "1767225600000-3f1a9c62-0000-4000-8000-000000000001.vrf"

theorem answered_isSome : (step setup stored (.receiveAck disk answer)).isSome = true := by
  decide +kernel

theorem frame_isSome : ((stored.agent.dir.lookup path).bind File.frame).isSome = true := by
  decide +kernel

def sentFrame : SpooledFrame :=
  ((stored.agent.dir.lookup path).bind File.frame).get frame_isSome

end Example

/--
An answer to the second delivery of a keyframe takes its file away; its row was stored once.
-/
theorem upload_safe_resent
    : Reachable Example.setup Example.stored ∧ Example.stored.rows.length = 1
      ∧ (∃ val ∈ Example.stored.acks,
        Acknowledges Example.stored.rows Example.sentFrame.header.uid val)
      ∧ Example.stored.agent.inFlight.entries.length ≤ 4 := by
  have hsafe := upload_safe Example.setup (fun time _ => Example.readTime_printTime time)
    Example.stored Example.reachable_stored
  refine ⟨Example.reachable_stored, by decide +kernel, ?_, hsafe.2.2.2⟩
  have hframe := Option.some_get Example.frame_isSome
  rcases Option.bind_eq_some_iff.mp hframe.symm with ⟨file, hfile, hfileFrame⟩
  have hgone := hsafe.1 _ _ Example.path file _ (Option.some_get Example.answered_isSome).symm hfile
    hfileFrame rfl (by decide +kernel) (by decide +kernel)
  rcases hgone with ⟨_, val, _, hval, hack⟩ | ⟨_, _, _, _, hpush, _⟩
  . exact ⟨val, hval, hack⟩
  . cases hpush

end Upload

end Vantyr
