import Vantyr.Agent.FileTransfer
import Vantyr.Data.Runs

/-!
This module contains what an upload in chunks guarantees. A chunk only depends on and only changes the
session and the file of its own path. When the last chunk is acknowledged, the file consists of the chunks
that were accepted since its first one.
-/

namespace Vantyr

namespace FileTransfer

open Permissions

-- The session and the file of a path are the same on both devices.
structure Agree (path : String) (d d' : Device) : Prop where
  session : d.sessions.lookup path = d'.sessions.lookup path
  file : d.files path = d'.files path

theorem Agree.refl (path : String) (d : Device) : Agree path d d :=
  ⟨rfl, rfl⟩

theorem Agree.trans {path : String} {d d' d'' : Device} (h : Agree path d d') (h' : Agree path d' d'')
    : Agree path d d'' :=
  ⟨h.session.trans h'.session, h.file.trans h'.file⟩

section Chunks

variable {path other : String} {d d' : Device}

/-!
Nothing but the session and the file of the path changes.
-/

theorem removeSession_frame (hne : other ≠ path) (d : Device) : Agree other (d.removeSession path) d :=
  ⟨AList.lookup_erase_ne hne, rfl⟩

theorem writeFile_frame (hne : other ≠ path) (d : Device) (content : List UInt8)
    : Agree other (d.writeFile path content) d :=
  ⟨rfl, Function.update_of_ne hne _ _⟩

theorem insertSession_frame (hne : other ≠ path) (d : Device) (session : FileUploadSession)
    : Agree other { d with sessions := d.sessions.insert path session } d :=
  ⟨AList.lookup_insert_ne hne, rfl⟩

theorem openSession_frame (hne : other ≠ path) (d : Device) (index total : Nat)
    (generation : Option Generation) : Agree other (d.openSession path index total generation) d := by
  unfold Device.openSession
  split
  . exact insertSession_frame hne d _
  . exact Agree.refl _ _

theorem performWrite_frame (hne : other ≠ path) (d : Device) (base bytes : List UInt8) (write : Write)
    : Agree other (d.performWrite path base bytes write).2 d := by
  cases write with
  | openFails error => exact Agree.refl _ _
  | writeFails written error => exact writeFile_frame hne d _
  | syncFails error => exact writeFile_frame hne d _
  | succeeds => exact writeFile_frame hne d _

theorem writeChunk_frame (hne : other ≠ path) (d : Device) (index : Nat) (bytes : List UInt8) (fresh : Bool)
    (write : Write) : Agree other (d.writeChunk path index bytes fresh write).2 d := by
  unfold Device.writeChunk
  split
  . exact Agree.refl _ _
  . split
    . exact performWrite_frame hne d _ _ _
    . split
      . exact Agree.refl _ _
      . exact performWrite_frame hne d _ _ _

theorem continueUpload_frame (hne : other ≠ path) (d : Device) (session : FileUploadSession) (index : Nat)
    (bytes : List UInt8) (fresh : Bool) (write : Write)
    : Agree other (d.continueUpload path session index bytes fresh write).2 d := by
  have hwrite := writeChunk_frame hne d index bytes fresh write
  unfold Device.continueUpload
  split
  . next heq =>
    rw [heq] at hwrite
    exact (removeSession_frame hne _).trans hwrite
  . next heq =>
    rw [heq] at hwrite
    dsimp only
    split
    . exact (removeSession_frame hne _).trans hwrite
    . exact (insertSession_frame hne _ _).trans hwrite

/-!
What happens to them depends on nothing else.
-/

theorem removeSession_agree (h : Agree path d d')
    : Agree path (d.removeSession path) (d'.removeSession path) :=
  ⟨by simp [Device.removeSession], h.file⟩

theorem writeFile_agree (h : Agree path d d') (content : List UInt8)
    : Agree path (d.writeFile path content) (d'.writeFile path content) :=
  ⟨h.session, by simp [Device.writeFile]⟩

theorem insertSession_agree (h : Agree path d d') (session : FileUploadSession)
    : Agree path { d with sessions := d.sessions.insert path session }
        { d' with sessions := d'.sessions.insert path session } :=
  ⟨by simp, h.file⟩

theorem openSession_agree (h : Agree path d d') (index total : Nat) (generation : Option Generation)
    : Agree path (d.openSession path index total generation)
        (d'.openSession path index total generation) := by
  unfold Device.openSession
  split
  . exact insertSession_agree h _
  . exact h

theorem performWrite_agree (h : Agree path d d') (base bytes : List UInt8) (write : Write)
    : (d.performWrite path base bytes write).1 = (d'.performWrite path base bytes write).1
      ∧ Agree path (d.performWrite path base bytes write).2 (d'.performWrite path base bytes write).2 := by
  cases write with
  | openFails error => exact ⟨rfl, h⟩
  | writeFails written error => exact ⟨rfl, writeFile_agree h _⟩
  | syncFails error => exact ⟨rfl, writeFile_agree h _⟩
  | succeeds => exact ⟨rfl, writeFile_agree h _⟩

theorem writeChunk_agree (h : Agree path d d') (index : Nat) (bytes : List UInt8) (fresh : Bool)
    (write : Write)
    : (d.writeChunk path index bytes fresh write).1 = (d'.writeChunk path index bytes fresh write).1
      ∧ Agree path (d.writeChunk path index bytes fresh write).2
          (d'.writeChunk path index bytes fresh write).2 := by
  unfold Device.writeChunk
  rw [h.file]
  split
  . exact ⟨rfl, h⟩
  . split
    . exact performWrite_agree h _ _ _
    . split
      . exact ⟨rfl, h⟩
      . exact performWrite_agree h _ _ _

theorem continueUpload_agree (h : Agree path d d') (session : FileUploadSession) (index : Nat)
    (bytes : List UInt8) (fresh : Bool) (write : Write)
    : (d.continueUpload path session index bytes fresh write).1
          = (d'.continueUpload path session index bytes fresh write).1
      ∧ Agree path (d.continueUpload path session index bytes fresh write).2
          (d'.continueUpload path session index bytes fresh write).2 := by
  rcases writeChunk_agree h index bytes fresh write with ⟨hresult, hagree⟩
  unfold Device.continueUpload
  generalize hd : d.writeChunk path index bytes fresh write = result at hresult hagree
  generalize hd' : d'.writeChunk path index bytes fresh write = result' at hresult hagree
  rcases result with ⟨answer, after⟩
  rcases result' with ⟨answer', after'⟩
  dsimp only at hresult hagree
  subst hresult
  cases answer with
  | error error => exact ⟨rfl, removeSession_agree hagree⟩
  | ok _ =>
    dsimp only
    split
    . exact ⟨rfl, removeSession_agree hagree⟩
    . exact ⟨rfl, insertSession_agree hagree _⟩

variable (decode : String → Except String (List UInt8))

theorem writeFileChunk_frame {cmd : WriteFileChunk} (hne : other ≠ clip cmd.path maxFilePathChars)
    (d : Device) (generation : Option Generation) (fresh : Bool) (write : Write)
    : Agree other (d.writeFileChunk decode cmd generation fresh write).2 d := by
  unfold Device.writeFileChunk
  dsimp only
  split
  . exact Agree.refl _ _
  . split
    . exact removeSession_frame hne d
    . have hopen := openSession_frame hne d (cmd.chunkIndex.getD 0) (cmd.totalChunks.getD 0) generation
      split
      . exact hopen
      . split
        . exact (continueUpload_frame hne _ _ _ _ _ _).trans hopen
        . exact (removeSession_frame hne _).trans hopen

theorem writeFileChunk_agree {cmd : WriteFileChunk} (h : Agree (clip cmd.path maxFilePathChars) d d')
    (generation : Option Generation) (fresh : Bool) (write : Write)
    : (d.writeFileChunk decode cmd generation fresh write).1
          = (d'.writeFileChunk decode cmd generation fresh write).1
      ∧ Agree (clip cmd.path maxFilePathChars) (d.writeFileChunk decode cmd generation fresh write).2
          (d'.writeFileChunk decode cmd generation fresh write).2 := by
  unfold Device.writeFileChunk
  dsimp only
  split
  . exact ⟨rfl, h⟩
  . split
    . exact ⟨rfl, removeSession_agree h⟩
    . have hopen := openSession_agree h (cmd.chunkIndex.getD 0) (cmd.totalChunks.getD 0) generation
      rw [hopen.session]
      split
      . exact ⟨rfl, hopen⟩
      . split
        . exact continueUpload_agree hopen _ _ _ _ _
        . exact ⟨rfl, removeSession_agree hopen⟩

/-!
What a chunk does to the session and the file of its path.
-/

-- The chunk was written, either as the first one of a file or behind the ones of an open session.
structure Appends (path : String) (d d' : Device) (chunk : Accepted) : Prop where
  place : chunk.path = path
  file : chunk.index = 0 ∧ d'.files path = some chunk.bytes
    ∨ ∃ session content, d.sessions.lookup path = some session ∧ session.nextExpectedChunk = chunk.index
      ∧ session.totalChunks = chunk.total ∧ session.generation = chunk.generation
      ∧ d.files path = some content ∧ d'.files path = some (content ++ chunk.bytes)
  session : ∀ {session}, d'.sessions.lookup path = some session
    → session.nextExpectedChunk = chunk.index + 1 ∧ session.totalChunks = chunk.total
      ∧ session.generation = chunk.generation

theorem performWrite_ok {base bytes : List UInt8} {write : Write}
    (h : d.performWrite path base bytes write = (.ok (), d'))
    : d'.files path = some (base ++ bytes) := by
  cases write with
  | openFails error => cases h
  | writeFails written error => cases h
  | syncFails error => cases h
  | succeeds =>
    cases h
    exact Function.update_self _ _ _

theorem writeChunk_ok {index : Nat} {bytes : List UInt8} {fresh : Bool} {write : Write}
    (h : d.writeChunk path index bytes fresh write = (.ok (), d'))
    : index = 0 ∧ d'.files path = some bytes
      ∨ index ≠ 0 ∧ ∃ content, d.files path = some content ∧ d'.files path = some (content ++ bytes) := by
  unfold Device.writeChunk at h
  split at h
  . cases h
  . split at h
    . next hindex => exact Or.inl ⟨hindex, performWrite_ok h⟩
    . next hindex =>
      right
      refine ⟨hindex, ?_⟩
      split at h
      . cases h
      . next content hfile => exact ⟨content, hfile, performWrite_ok h⟩

theorem continueUpload_cases (d : Device) (session : FileUploadSession) (index : Nat) (bytes : List UInt8)
    (fresh : Bool) (write : Write)
    : (∃ error, (d.continueUpload path session index bytes fresh write).1 = .refused path error
        ∧ (d.continueUpload path session index bytes fresh write).2.sessions.lookup path = none)
      ∨ ∃ d', d.writeChunk path index bytes fresh write = (.ok (), d')
        ∧ (d.continueUpload path session index bytes fresh write).1
          = .accepted ⟨path, index, session.totalChunks, session.generation, bytes⟩
              (index + 1 = session.totalChunks)
        ∧ (d.continueUpload path session index bytes fresh write).2.files = d'.files
        ∧ ∀ {next}, (d.continueUpload path session index bytes fresh write).2.sessions.lookup path = some next
          → next.nextExpectedChunk = index + 1 ∧ next.totalChunks = session.totalChunks
            ∧ next.generation = session.generation := by
  unfold Device.continueUpload
  split
  . left
    exact ⟨_, rfl, AList.lookup_erase _ _⟩
  . next d' heq =>
    right
    refine ⟨d', heq, ?_⟩
    dsimp only
    split
    . next hlast =>
      rw [decide_eq_true hlast]
      refine ⟨rfl, rfl, ?_⟩
      intro next hnext
      rw [Device.removeSession, AList.lookup_erase] at hnext
      cases hnext
    . next hlast =>
      rw [decide_eq_false hlast]
      refine ⟨rfl, rfl, ?_⟩
      intro next hnext
      rw [AList.lookup_insert] at hnext
      cases hnext
      exact ⟨rfl, rfl, rfl⟩

-- Only the first chunk opens a session.
theorem openSession_cases (d : Device) (index total : Nat) (generation : Option Generation)
    : index = 0 ∨ d.openSession path index total generation = d := by
  unfold Device.openSession
  split
  . next hindex => exact Or.inl hindex
  . exact Or.inr rfl

theorem writeFileChunk_cases (d : Device) (cmd : WriteFileChunk) (generation : Option Generation)
    (fresh : Bool) (write : Write)
    : let path := clip cmd.path maxFilePathChars
      let r := d.writeFileChunk decode cmd generation fresh write
      (∃ error, r.1 = .refused path error ∧ (r.2 = d ∨ r.2.sessions.lookup path = none))
      ∨ ∃ chunk, r.1 = .accepted chunk (chunk.index + 1 = chunk.total) ∧ Appends path d r.2 chunk := by
  dsimp only
  unfold Device.writeFileChunk
  dsimp only
  generalize clip cmd.path maxFilePathChars = path
  generalize cmd.chunkIndex.getD 0 = index
  generalize cmd.totalChunks.getD 0 = total
  split
  . exact Or.inl ⟨_, rfl, Or.inl rfl⟩
  . split
    . exact Or.inl ⟨_, rfl, Or.inr (AList.lookup_erase _ _)⟩
    . next bytes _ =>
      split
      . next hnone => exact Or.inl ⟨_, rfl, Or.inr hnone⟩
      . next session hsession =>
        split
        . next hmatches =>
          rcases hmatches with ⟨hnext, htotal, hgeneration⟩
          have hcases := @continueUpload_cases path (d.openSession path index total generation) session
            index bytes (generation.isSome && fresh) write
          rcases hcases with ⟨error, hrefused, hgone⟩ | ⟨d', hwrite, haccepted, hfiles, hkept⟩
          . exact Or.inl ⟨error, hrefused, Or.inr hgone⟩
          . right
            refine ⟨_, haccepted, rfl, ?_, hkept⟩
            rw [hfiles]
            rcases writeChunk_ok hwrite with hfirst | ⟨hindex, content, hcontent, hafter⟩
            . exact Or.inl hfirst
            . right
              rcases @openSession_cases path d index total generation with hzero | hsame
              . exact absurd hzero hindex
              . rw [hsame] at hsession hcontent
                exact ⟨session, content, hsession, hnext, rfl, rfl, hcontent, hafter⟩
        . exact Or.inl ⟨_, rfl, Or.inr (AList.lookup_erase _ _)⟩

end Chunks

/-!
Runs of commands.
-/

structure Command where
  cmd : WriteFileChunk
  generation : Option Generation
  fresh : Bool
  write : Write

def Command.path (c : Command) : String :=
  clip c.cmd.path maxFilePathChars

-- `log` is history: the chunks that were accepted, the latest first.
structure Uploads where
  device : Device
  log : List Accepted

namespace Uploads

def init (files : String → Option (List UInt8)) : Uploads where
  device := { sessions := ∅, files }
  log := []

variable (decode : String → Except String (List UInt8))

def outcome (u : Uploads) (c : Command) : Outcome :=
  (u.device.writeFileChunk decode c.cmd c.generation c.fresh c.write).1

def step (u : Uploads) (c : Command) : Uploads where
  device := (u.device.writeFileChunk decode c.cmd c.generation c.fresh c.write).2
  log := (u.outcome decode c).chunk.toList ++ u.log

def entries (u : Uploads) (path : String) : List Accepted :=
  u.log.filter (fun chunk => chunk.path = path)

end Uploads

def numbered (path : String) (total : Nat) (generation : Option Generation) (chunks : List (List UInt8))
    : List Accepted :=
  chunks.zipIdx.map (fun chunk => ⟨path, chunk.2, total, generation, chunk.1⟩)

/--
The last chunks that were accepted for a path are `chunks`, numbered from 0 on, with one total and one
generation, and the file consists of them.
-/
def Holds (u : Uploads) (path : String) (total : Nat) (generation : Option Generation)
    (chunks : List (List UInt8)) : Prop :=
  (numbered path total generation chunks).reverse <+: u.entries path
    ∧ u.device.files path = some chunks.flatten

-- An open session continues the chunks that the file consists of.
def Continues (u : Uploads) (path : String) : Prop :=
  ∀ session, u.device.sessions.lookup path = some session → ∃ chunks,
    chunks.length = session.nextExpectedChunk ∧ Holds u path session.totalChunks session.generation chunks

theorem numbered_concat (path : String) (total : Nat) (generation : Option Generation)
    (chunks : List (List UInt8)) (bytes : List UInt8)
    : numbered path total generation (chunks ++ [bytes])
        = numbered path total generation chunks ++ [⟨path, chunks.length, total, generation, bytes⟩] := by
  simp [numbered, List.zipIdx_append]

variable {decode : String → Except String (List UInt8)} {u : Uploads} {c : Command} {path : String}

theorem entries_accepted {chunk : Accepted} {done : Bool}
    (h : u.outcome decode c = .accepted chunk done) (path : String)
    : (u.step decode c).entries path
        = if chunk.path = path then chunk :: u.entries path else u.entries path := by
  unfold Uploads.entries Uploads.step
  dsimp only
  rw [h]
  change (chunk :: u.log).filter _ = _
  rw [List.filter_cons]
  simp only [decide_eq_true_eq]

theorem entries_refused {error : String} (h : u.outcome decode c = .refused path error) (other : String)
    : (u.step decode c).entries other = u.entries other := by
  unfold Uploads.entries Uploads.step
  dsimp only
  rw [h]
  rfl

theorem step_cases (decode : String → Except String (List UInt8)) (u : Uploads) (c : Command)
    : (∃ error, u.outcome decode c = .refused c.path error ∧ ((u.step decode c).device = u.device
        ∨ (u.step decode c).device.sessions.lookup c.path = none))
      ∨ ∃ chunk, u.outcome decode c = .accepted chunk (chunk.index + 1 = chunk.total)
        ∧ Appends c.path u.device (u.step decode c).device chunk :=
  writeFileChunk_cases decode u.device c.cmd c.generation c.fresh c.write

theorem outcome_path {chunk : Accepted} {done : Bool} (h : u.outcome decode c = .accepted chunk done)
    : chunk.path = c.path := by
  rcases step_cases decode u c with ⟨error, hrefused, _⟩ | ⟨chunk', haccepted, happends⟩
  . rw [hrefused] at h
    cases h
  . rw [haccepted] at h
    injection h with hchunk
    rw [← hchunk]
    exact happends.place

-- A command for one path leaves the chunks of the others as they are.
theorem entries_frame (hne : path ≠ c.path) : (u.step decode c).entries path = u.entries path := by
  cases h : u.outcome decode c with
  | refused _ error => exact entries_refused h path
  | accepted chunk done =>
    rw [entries_accepted h, if_neg]
    rw [outcome_path h]
    exact hne.symm

theorem step_frame (hne : path ≠ c.path) : Agree path (u.step decode c).device u.device :=
  writeFileChunk_frame decode hne u.device c.generation c.fresh c.write

theorem Holds.append {chunk : Accepted} {done : Bool} (hcontinues : Continues u c.path)
    (haccepted : u.outcome decode c = .accepted chunk done)
    (happends : Appends c.path u.device (u.step decode c).device chunk)
    : ∃ chunks, chunks.length = chunk.index + 1
      ∧ Holds (u.step decode c) c.path chunk.total chunk.generation chunks := by
  have hentries := entries_accepted haccepted c.path
  rw [if_pos happends.place] at hentries
  rcases happends.file with ⟨hzero, hfile⟩ | ⟨session, content, hsession, hnext, htotal, hgeneration,
    hcontent, hfile⟩
  . refine ⟨[chunk.bytes], by rw [hzero]; rfl, ?_, by rw [hfile]; simp⟩
    rw [hentries]
    have hchunk : numbered c.path chunk.total chunk.generation [chunk.bytes] = [chunk] := by
      rw [← happends.place]
      change [Accepted.mk chunk.path 0 chunk.total chunk.generation chunk.bytes] = _
      rw [← hzero]
    rw [hchunk]
    exact List.prefix_append [chunk] _
  . rcases hcontinues session hsession with ⟨chunks, hlength, hprefix, hfiles⟩
    refine ⟨chunks ++ [chunk.bytes], ?_, ?_, ?_⟩
    . rw [List.length_append, hlength, hnext]
      rfl
    . rw [hentries, numbered_concat, List.reverse_append, hlength, hnext]
      rw [htotal, hgeneration] at hprefix
      have hchunk
          : (⟨c.path, chunk.index, chunk.total, chunk.generation, chunk.bytes⟩ : Accepted) = chunk := by
        rw [← happends.place]
      rw [hchunk]
      exact (List.prefix_cons_inj chunk).mpr hprefix
    . rw [hcontent, Option.some.injEq] at hfiles
      rw [hfile, hfiles, List.flatten_append]
      simp

theorem Continues.step (h : ∀ path, Continues u path) (path : String) : Continues (u.step decode c) path := by
  by_cases hpath : path = c.path
  . rw [hpath]
    rcases step_cases decode u c with ⟨error, hrefused, hdevice | hgone⟩ | ⟨chunk, haccepted, happends⟩
    . intro session hsession
      rw [hdevice] at hsession
      rcases h _ session hsession with ⟨chunks, hlength, hprefix, hfile⟩
      refine ⟨chunks, hlength, ?_, by rw [hdevice]; exact hfile⟩
      rw [entries_refused hrefused]
      exact hprefix
    . intro session hsession
      rw [hgone] at hsession
      cases hsession
    . intro session hsession
      rcases Holds.append (h c.path) haccepted happends with ⟨chunks, hlength, hholds⟩
      rcases happends.session hsession with ⟨hnext, htotal, hgeneration⟩
      rw [← htotal, ← hgeneration] at hholds
      exact ⟨chunks, hlength.trans hnext.symm, hholds⟩
  . have hframe : Agree path (u.step decode c).device u.device := step_frame hpath
    intro session hsession
    rw [hframe.session] at hsession
    rcases h _ session hsession with ⟨chunks, hlength, hprefix, hfile⟩
    refine ⟨chunks, hlength, ?_, by rw [hframe.file]; exact hfile⟩
    rw [entries_frame hpath]
    exact hprefix

theorem init_continues (files : String → Option (List UInt8)) (path : String)
    : Continues (.init files) path := by
  intro session hsession
  cases hsession

theorem run_continues (decode : String → Except String (List UInt8))
    (files : String → Option (List UInt8)) (commands : List Command)
    : ∀ path, Continues (Runs.exec (Uploads.step decode) (.init files) commands) path :=
  Runs.exec_inv (I := fun u => ∀ path, Continues u path) (fun h => Continues.step h)
    (init_continues files) commands

-- The acknowledgment of the last chunk.
theorem Continues.acknowledged (h : ∀ path, Continues u path) {r : FileUploadResult}
    (hr : (u.outcome decode c).result = some r) (hok : r.ok = true)
    : ∃ total generation chunks, chunks.length = total
      ∧ Holds (u.step decode c) r.path total generation chunks := by
  rcases step_cases decode u c with ⟨error, hrefused, _⟩ | ⟨chunk, haccepted, happends⟩
  . rw [hrefused, Outcome.result, Option.some.injEq] at hr
    rw [← hr] at hok
    cases hok
  . by_cases hdone : chunk.index + 1 = chunk.total
    . rw [haccepted, decide_eq_true hdone, Outcome.result, Option.some.injEq] at hr
      rcases Holds.append (h c.path) haccepted happends with ⟨chunks, hlength, hholds⟩
      refine ⟨chunk.total, chunk.generation, chunks, hlength.trans hdone, ?_⟩
      rw [← hr, happends.place]
      exact hholds
    . rw [haccepted, decide_eq_false hdone] at hr
      cases hr

/-!
The commands for other paths could be left out.
-/

structure SameUpload (path : String) (u u' : Uploads) : Prop where
  device : Agree path u.device u'.device
  entries : u.entries path = u'.entries path

theorem SameUpload.step {u' : Uploads} (h : SameUpload c.path u u')
    : u.outcome decode c = u'.outcome decode c
      ∧ SameUpload c.path (u.step decode c) (u'.step decode c) := by
  have hagree := writeFileChunk_agree decode h.device c.generation c.fresh c.write
  have houtcome : u.outcome decode c = u'.outcome decode c := hagree.1
  refine ⟨houtcome, hagree.2, ?_⟩
  cases hu : u.outcome decode c with
  | refused path error =>
    rw [houtcome] at hu
    have hleft : (u.step decode c).entries c.path = u.entries c.path :=
      entries_refused (houtcome.trans hu) c.path
    rw [hleft, entries_refused hu, h.entries]
  | accepted chunk done =>
    rw [entries_accepted hu, entries_accepted (houtcome.symm.trans hu), h.entries]

theorem SameUpload.exec (decode : String → Except String (List UInt8)) (path : String)
    (commands : List Command) {u u' : Uploads} (h : SameUpload path u u')
    : SameUpload path (Runs.exec (Uploads.step decode) u commands)
        (Runs.exec (Uploads.step decode) u' (commands.filter (fun c => c.path = path))) := by
  induction commands generalizing u u' with
  | nil => exact h
  | cons c commands ih =>
    rw [List.filter_cons]
    split
    . next hpath =>
      apply ih
      have hpath := of_decide_eq_true hpath
      subst hpath
      exact h.step.2
    . next hpath =>
      apply ih
      have hne : path ≠ c.path := by
        intro heq
        exact hpath (decide_eq_true heq.symm)
      have hframe : Agree path (u.step decode c).device u.device := step_frame hne
      exact ⟨hframe.trans h.device, (entries_frame hne).trans h.entries⟩

/--
When the last chunk of an upload is acknowledged, the file consists of the chunks that were accepted for
its path since the first one, numbered without gaps, with one total and one generation. What happens to a
path is what would happen to it if the commands for all other paths were left out.
-/
theorem upload_faithful (decode : String → Except String (List UInt8))
    (files : String → Option (List UInt8)) (commands : List Command) (c : Command)
    : let run := Runs.exec (Uploads.step decode) (.init files)
      (∀ r ∈ ((run commands).outcome decode c).result, r.ok = true →
        ∃ total generation chunks, chunks.length = total
          ∧ Holds ((run commands).step decode c) r.path total generation chunks)
      ∧ (run commands).outcome decode c
          = (run (commands.filter (fun other => other.path = c.path))).outcome decode c
      ∧ ∀ path, SameUpload path (run commands) (run (commands.filter (fun other => other.path = path))) := by
  have hstart (path : String) : SameUpload path (.init files) (.init files) := ⟨Agree.refl path _, rfl⟩
  have hsame (path : String) := SameUpload.exec decode path commands (hstart path)
  refine ⟨?_, (hsame c.path).step.1, hsame⟩
  intro r hr hok
  exact Continues.acknowledged (run_continues decode files commands) hr hok

def readBase64 (data : String) : Except String (List UInt8) :=
  (Base64.atob data).elim (.error "Invalid input") .ok

def chunkFor (path data : String) : Command where
  cmd := { path, totalChunks := some 2, chunkIndex := some 0, data }
  generation := some ⟨.files, 1⟩
  fresh := true
  write := .succeeds

-- A path with a space in front of it is the same to the agent: the second upload truncates the file of
-- the first one.
theorem spaced_path_interferes
    : ¬∀ (decode : String → Except String (List UInt8)) (files : String → Option (List UInt8))
        (commands : List Command) (c : Command) (path : String), c.cmd.path ≠ path →
        let u := Runs.exec (Uploads.step decode) (.init files) commands
        (u.step decode c).device.files path = u.device.files path := by
  intro h
  exact absurd (h readBase64 (fun _ => none) [chunkFor "a" "AQ=="] (chunkFor " a" "Ag==") "a" (by decide))
    (by decide +kernel)

end FileTransfer

end Vantyr
