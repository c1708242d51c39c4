import Vantyr.Agent.FileUpload

/-!
This module contains how the dashboard sends a file, `runUpload` in `frontend/src/features/files/useAgentFs.ts`,
and what the file on the device is after the upload. The main results are that an upload is only acknowledged
if the file has the content that was sent, whatever of it got lost, and that an upload that arrives is
acknowledged once.
-/

namespace Vantyr

namespace FileTransfer

open Permissions

/-!
The windows of a list.
-/

section

variable {α : Type}

def subarray (l : List α) (start stop : Nat) : List α :=
  (l.drop start).take (stop - start)

theorem subarray_min (l : List α) (start size : Nat)
    : subarray l start (min (start + size) l.length) = (l.drop start).take size := by
  unfold subarray
  rw [List.take_eq_take_iff, List.length_drop]
  omega

theorem flatten_windows (l : List α) (size count : Nat)
    : ((List.range count).map (fun i => (l.drop (i * size)).take size)).flatten = l.take (count * size) := by
  induction count with
  | zero => simp
  | succ count ih =>
    rw [List.range_succ, List.map_append, List.flatten_append, ih, Nat.succ_mul, List.take_add]
    simp

theorem le_ceilDiv_mul (length : Nat) {size : Nat} (h : 0 < size)
    : length ≤ (length + size - 1) / size * size := by
  have hlt : length + size - 1 < ((length + size - 1) / size + 1) * size :=
    Nat.lt_mul_of_div_lt (Nat.lt_succ_self _) h
  rw [Nat.succ_mul] at hlt
  omega

end

/-!
What the dashboard sends.
-/

-- The text is put together from pieces of 8192 bytes before `btoa` encodes it.
def uint8ToBase64 (bytes : List UInt8) : String :=
  let step := 8192
  let binary := ((List.range ((bytes.length + step - 1) / step)).map
    (fun i => subarray bytes (i * step) (i * step + step))).flatten
  Base64.encode binary

@[irreducible]
def uploadChunkCount (size : Nat) (chunkBytes : Nat := remoteFileChunkBytes) : Nat :=
  max 1 ((size + chunkBytes - 1) / chunkBytes)

def uploadChunkRange (index size : Nat) (chunkBytes : Nat := remoteFileChunkBytes) : Nat × Nat :=
  let start := index * chunkBytes
  (start, min (start + chunkBytes) size)

def uploadChunk (path : String) (content : List UInt8) (i : Nat) : WriteFileChunk :=
  let (start, stop) := uploadChunkRange i content.length
  {
    path
    totalChunks := some (uploadChunkCount content.length)
    chunkIndex := some i
    data := uint8ToBase64 (subarray content start stop)
  }

def runUpload (path : String) (content : List UInt8) : List WriteFileChunk :=
  (List.range (uploadChunkCount content.length)).map (uploadChunk path content)

def createEmptyFile (path : String) : WriteFileChunk where
  path
  totalChunks := some 1
  chunkIndex := some 0
  data := ""

theorem uint8ToBase64_eq (bytes : List UInt8) : uint8ToBase64 bytes = Base64.encode bytes := by
  have hwindow (i : Nat) : subarray bytes (i * 8192) (i * 8192 + 8192) = (bytes.drop (i * 8192)).take 8192 := by
    unfold subarray
    rw [Nat.add_sub_cancel_left]
  unfold uint8ToBase64
  simp only [hwindow]
  rw [flatten_windows, List.take_of_length_le (le_ceilDiv_mul bytes.length (by decide))]

-- A new empty file is the upload of an empty one.
theorem runUpload_empty (path : String) : runUpload path [] = [createEmptyFile path] := by
  have hcount : uploadChunkCount 0 = 1 := by
    unfold uploadChunkCount
    decide
  unfold runUpload
  rw [List.length_nil, hcount]
  change [uploadChunk path [] 0] = _
  unfold uploadChunk createEmptyFile
  dsimp only
  rw [List.length_nil, hcount, uint8ToBase64_eq]
  rfl

-- The bytes before chunk `i`.
def sent (content : List UInt8) (i : Nat) : List UInt8 :=
  content.take (i * remoteFileChunkBytes)

def window (content : List UInt8) (i : Nat) : List UInt8 :=
  (content.drop (i * remoteFileChunkBytes)).take remoteFileChunkBytes

theorem sent_succ (content : List UInt8) (i : Nat) : sent content (i + 1) = sent content i ++ window content i := by
  unfold sent window
  rw [Nat.succ_mul, List.take_add]

theorem sent_all (content : List UInt8) : sent content (uploadChunkCount content.length) = content := by
  have hsize : content.length ≤ (content.length + remoteFileChunkBytes - 1) / remoteFileChunkBytes
      * remoteFileChunkBytes :=
    le_ceilDiv_mul content.length (by decide)
  have hcount : (content.length + remoteFileChunkBytes - 1) / remoteFileChunkBytes * remoteFileChunkBytes
      ≤ uploadChunkCount content.length * remoteFileChunkBytes := by
    unfold uploadChunkCount
    exact Nat.mul_le_mul_right _ (Nat.le_max_right _ _)
  exact List.take_of_length_le (Nat.le_trans hsize hcount)

theorem uploadChunk_data (path : String) (content : List UInt8) (i : Nat)
    : (uploadChunk path content i).data = Base64.encode (window content i) := by
  unfold uploadChunk uploadChunkRange
  dsimp only
  rw [uint8ToBase64_eq, subarray_min]
  rfl

theorem uploadChunkCount_pos (size chunkBytes : Nat) : 0 < uploadChunkCount size chunkBytes := by
  unfold uploadChunkCount
  exact Nat.lt_of_lt_of_le Nat.zero_lt_one (Nat.le_max_left _ _)

theorem uploadChunk_index (path : String) (content : List UInt8) (i : Nat)
    : (uploadChunk path content i).chunkIndex = some i := rfl

theorem uploadChunk_total (path : String) (content : List UInt8) (i : Nat)
    : (uploadChunk path content i).totalChunks = some (uploadChunkCount content.length) := rfl

theorem mem_runUpload {path : String} {content : List UInt8} {cmd : WriteFileChunk}
    : cmd ∈ runUpload path content ↔ ∃ i < uploadChunkCount content.length, uploadChunk path content i = cmd := by
  unfold runUpload
  simp only [List.mem_map, List.mem_range]

/-!
What a chunk of the upload does on the device.
-/

variable {decode : String → Except String (List UInt8)} {d : Device} {cmd : WriteFileChunk}
  {generation : Option Generation} {fresh : Bool} {write : Write}

theorem continueUpload_accepted {path : String} {session : FileUploadSession} {index : Nat}
    {bytes : List UInt8} {chunk : Accepted} {done : Bool}
    (h : (d.continueUpload path session index bytes fresh write).1 = .accepted chunk done)
    : chunk.bytes = bytes ∧ chunk.index = index ∧ chunk.total = session.totalChunks := by
  unfold Device.continueUpload at h
  split at h
  . cases h
  . dsimp only at h
    split at h
    . cases h
      exact ⟨rfl, rfl, rfl⟩
    . cases h
      exact ⟨rfl, rfl, rfl⟩

-- What is written is what was sent.
theorem writeFileChunk_accepted {chunk : Accepted} {done : Bool}
    (h : (d.writeFileChunk decode cmd generation fresh write).1 = .accepted chunk done)
    : clip cmd.path maxFilePathChars ≠ "" ∧ decode cmd.data = .ok chunk.bytes
      ∧ chunk.index = cmd.chunkIndex.getD 0 ∧ chunk.total = cmd.totalChunks.getD 0 := by
  unfold Device.writeFileChunk at h
  dsimp only at h
  split at h
  . cases h
  . next hvalid =>
    split at h
    . cases h
    . next bytes hdecode =>
      split at h
      . cases h
      . split at h
        . next hmatches =>
          rcases continueUpload_accepted h with ⟨hbytes, hindex, htotal⟩
          rw [hbytes, hindex, htotal]
          exact ⟨fun hempty => hvalid (Or.inl hempty), hdecode, rfl, hmatches.2.1⟩
        . cases h

-- A first chunk that is refused leaves no session of its path.
theorem writeFileChunk_first {path error : String} {bytes : List UInt8}
    (hpath : clip cmd.path maxFilePathChars ≠ "") (hindex : cmd.chunkIndex.getD 0 = 0)
    (htotal : 0 < cmd.totalChunks.getD 0) (hdecode : decode cmd.data = .ok bytes)
    (h : (d.writeFileChunk decode cmd generation fresh write).1 = .refused path error)
    : (d.writeFileChunk decode cmd generation fresh write).2.sessions.lookup
        (clip cmd.path maxFilePathChars) = none := by
  unfold Device.writeFileChunk at h ⊢
  dsimp only at h ⊢
  generalize hclip : clip cmd.path maxFilePathChars = place at h hpath ⊢
  generalize cmd.totalChunks.getD 0 = total at h htotal ⊢
  rw [hindex] at h ⊢
  have hvalid : ¬(place = "" ∨ total = 0 ∨ total ≤ 0) := by
    rintro (hempty | hzero | hle)
    . exact hpath hempty
    . exact absurd htotal (by omega)
    . exact absurd htotal (by omega)
  rw [if_neg hvalid, hdecode] at h ⊢
  dsimp only at h ⊢
  split
  . next hnone => exact hnone
  . next session hsession =>
    rw [hsession] at h
    dsimp only at h
    split
    . next hmatches =>
      rw [if_pos hmatches] at h
      have hcases := @continueUpload_cases place (d.openSession place 0 total generation) session 0 bytes
        (generation.isSome && fresh) write
      rcases hcases with ⟨_, _, hgone⟩ | ⟨_, _, haccepted, _⟩
      . exact hgone
      . rw [haccepted] at h
        cases h
    . exact AList.lookup_erase _ _

/-!
The session of a path is one of the upload.
-/

structure Ours (path : String) (content : List UInt8) (d : Device) : Prop where
  session : ∀ session, d.sessions.lookup path = some session →
    session.totalChunks = uploadChunkCount content.length
      ∧ d.files path = some (sent content session.nextExpectedChunk)

theorem Ours.congr {path : String} {content : List UInt8} {d' : Device} (h : Ours path content d)
    (hagree : Agree path d' d) : Ours path content d' where
  session := by
    rw [hagree.session, hagree.file]
    exact h.session

variable {u : Uploads} {c : Command} {path : String} {content : List UInt8}

-- An accepted chunk of the upload leaves the bytes up to its own, if the ones before were there.
theorem accepted_sent (hdecode : ∀ bytes, decode (Base64.encode bytes) = .ok bytes) {i : Nat}
    (hcmd : c.cmd = uploadChunk path content i) {chunk : Accepted} {done : Bool}
    (haccepted : u.outcome decode c = .accepted chunk done)
    (happends : Appends c.path u.device (u.step decode c).device chunk)
    (hbefore : ∀ session, u.device.sessions.lookup c.path = some session → session.nextExpectedChunk = i →
      u.device.files c.path = some (sent content i))
    : chunk.index = i ∧ chunk.total = uploadChunkCount content.length
      ∧ (u.step decode c).device.files c.path = some (sent content (i + 1)) := by
  rcases writeFileChunk_accepted haccepted with ⟨_, hbytes, hindex, htotal⟩
  rw [hcmd, uploadChunk_data, hdecode] at hbytes
  have hwindow : window content i = chunk.bytes := Except.ok.inj hbytes
  have hi : chunk.index = i := by
    rw [hindex, hcmd, uploadChunk_index, Option.getD_some]
  have hcount : chunk.total = uploadChunkCount content.length := by
    rw [htotal, hcmd, uploadChunk_total, Option.getD_some]
  refine ⟨hi, hcount, ?_⟩
  rw [sent_succ, hwindow]
  rcases happends.file with ⟨hzero, hfile⟩ | ⟨session, old, hsession, hnext, _, _, hold, hfile⟩
  . rw [hfile, ← hi, hzero]
    simp [sent]
  . rw [hbefore session hsession (hnext.trans hi), Option.some.injEq] at hold
    rw [hfile, hold]

-- The session and the file after a chunk of the upload was accepted.
theorem Ours.accepted {i : Nat} {chunk : Accepted}
    (happends : Appends c.path u.device (u.step decode c).device chunk) (hindex : chunk.index = i)
    (htotal : chunk.total = uploadChunkCount content.length)
    (hfile : (u.step decode c).device.files c.path = some (sent content (i + 1)))
    : Ours c.path content (u.step decode c).device where
  session := by
    intro session hsession
    rcases happends.session hsession with ⟨hnext, hsessionTotal, _⟩
    rw [hnext, hindex, hsessionTotal]
    exact ⟨htotal, hfile⟩

-- What the acknowledgment of a chunk of the upload promises.
def Kept (decode : String → Except String (List UInt8)) (content : List UInt8) (u : Uploads) (c : Command)
    : Prop :=
  ∀ r ∈ (u.outcome decode c).result, r.ok = true →
    r.path = c.path ∧ (u.step decode c).device.files c.path = some content

theorem kept_accepted {i : Nat} {chunk : Accepted}
    (haccepted : u.outcome decode c = .accepted chunk (chunk.index + 1 = chunk.total))
    (happends : Appends c.path u.device (u.step decode c).device chunk) (hindex : chunk.index = i)
    (htotal : chunk.total = uploadChunkCount content.length)
    (hfile : (u.step decode c).device.files c.path = some (sent content (i + 1)))
    : Kept decode content u c := by
  intro r hr _
  by_cases hdone : chunk.index + 1 = chunk.total
  . rw [haccepted, decide_eq_true hdone] at hr
    cases hr
    refine ⟨happends.place, ?_⟩
    rw [hfile, ← hindex, hdone, htotal, sent_all]
  . rw [haccepted, decide_eq_false hdone] at hr
    cases hr

theorem kept_refused {error : String} (hrefused : u.outcome decode c = .refused path error)
    : Kept decode content u c := by
  intro r hr hok
  rw [hrefused] at hr
  cases hr
  cases hok

theorem Ours.step (hdecode : ∀ bytes, decode (Base64.encode bytes) = .ok bytes)
    (h : Ours c.path content u.device) (hcmd : c.cmd ∈ runUpload path content)
    : Ours c.path content (u.step decode c).device ∧ Kept decode content u c := by
  rcases mem_runUpload.mp hcmd with ⟨i, _, hchunk⟩
  rcases step_cases decode u c with ⟨error, hrefused, hdevice⟩ | ⟨chunk, haccepted, happends⟩
  . refine ⟨?_, kept_refused hrefused⟩
    rcases hdevice with hsame | hgone
    . rw [hsame]
      exact h
    . constructor
      intro session hsession
      rw [hgone] at hsession
      cases hsession
  . have hbefore : ∀ session, u.device.sessions.lookup c.path = some session →
        session.nextExpectedChunk = i → u.device.files c.path = some (sent content i) := by
      rintro session hsession rfl
      exact (h.session session hsession).2
    rcases accepted_sent hdecode hchunk.symm haccepted happends hbefore with ⟨hindex, htotal, hfile⟩
    exact ⟨Ours.accepted happends hindex htotal hfile, kept_accepted haccepted happends hindex htotal hfile⟩

-- Whatever was uploaded to the path before, its session is that of the upload from the first chunk on.
theorem Ours.first (hdecode : ∀ bytes, decode (Base64.encode bytes) = .ok bytes)
    (hcontinues : Continues u c.path) (hpath : c.path ≠ "") (hcmd : c.cmd = uploadChunk path content 0)
    : Ours c.path content (u.step decode c).device ∧ Kept decode content u c := by
  rcases step_cases decode u c with ⟨error, hrefused, _⟩ | ⟨chunk, haccepted, happends⟩
  . refine ⟨?_, kept_refused hrefused⟩
    have hdata : decode c.cmd.data = .ok (window content 0) := by
      rw [hcmd, uploadChunk_data, hdecode]
    have hindex : c.cmd.chunkIndex.getD 0 = 0 := by
      rw [hcmd, uploadChunk_index, Option.getD_some]
    have htotal : 0 < c.cmd.totalChunks.getD 0 := by
      rw [hcmd, uploadChunk_total, Option.getD_some]
      exact uploadChunkCount_pos _ _
    have hgone : (u.step decode c).device.sessions.lookup c.path = none :=
      writeFileChunk_first hpath hindex htotal hdata hrefused
    constructor
    intro session hsession
    rw [hgone] at hsession
    cases hsession
  . have hbefore : ∀ session, u.device.sessions.lookup c.path = some session →
        session.nextExpectedChunk = 0 → u.device.files c.path = some (sent content 0) := by
      intro session hsession hnext
      rcases hcontinues session hsession with ⟨chunks, hlength, _, hfile⟩
      rw [hnext, List.length_eq_zero_iff] at hlength
      rw [hfile, hlength]
      simp [sent]
    rcases accepted_sent hdecode hcmd haccepted happends hbefore with ⟨hindex, htotal, hfile⟩
    exact ⟨Ours.accepted happends hindex htotal hfile, kept_accepted haccepted happends hindex htotal hfile⟩

theorem Ours.other (hdecode : ∀ bytes, decode (Base64.encode bytes) = .ok bytes) {place : String}
    (h : Ours place content u.device) (hcmd : c.path = place → c.cmd ∈ runUpload path content)
    : Ours place content (u.step decode c).device := by
  by_cases hplace : c.path = place
  . subst hplace
    exact (h.step hdecode (hcmd rfl)).1
  . have hframe : Agree place (u.step decode c).device u.device := step_frame (fun heq => hplace heq.symm)
    exact h.congr hframe

theorem readBase64_encode (bytes : List UInt8) : readBase64 (Base64.encode bytes) = .ok bytes := by
  unfold readBase64
  rw [Base64.atob_encode]
  rfl

def sending (path : String) (content : List UInt8) (i : Nat) : Command where
  cmd := uploadChunk path content i
  generation := some ⟨.files, 1⟩
  fresh := true
  write := .succeeds

def results (decode : String → Except String (List UInt8)) (u : Uploads) : List Command → List FileUploadResult
  | [] => []
  | c :: commands => (u.outcome decode c).result.toList ++ results decode (u.step decode c) commands

-- The file can be written, and the permission for the generation is not changed.
structure Command.Arrives (generation : Generation) (c : Command) : Prop where
  generation : c.generation = some generation
  fresh : c.fresh = true
  write : c.write = .succeeds

-- The device expects chunk `k` of the upload.
def Ready (path : String) (content : List UInt8) (generation : Generation) (k : Nat) (d : Device) : Prop :=
  k ≠ 0 → d.files path = some (sent content k) ∧ ∃ session, d.sessions.lookup path = some session
    ∧ session.nextExpectedChunk = k ∧ session.totalChunks = uploadChunkCount content.length
    ∧ session.generation = some generation

theorem Ready.congr {generation : Generation} {k : Nat} {d' : Device} (h : Ready path content generation k d)
    (hagree : Agree path d' d) : Ready path content generation k d' := by
  unfold Ready
  rw [hagree.session, hagree.file]
  exact h

theorem writeChunk_sent {k : Nat} (h : k ≠ 0 → d.files path = some (sent content k))
    : d.writeChunk path k (window content k) true .succeeds
        = (.ok (), d.writeFile path (sent content (k + 1))) := by
  unfold Device.writeChunk
  rw [Bool.not_true, if_neg Bool.false_ne_true, sent_succ]
  split
  . next hzero =>
    rw [hzero]
    simp [sent, Device.performWrite]
  . next hk =>
    rw [h hk]
    rfl

theorem openSession_ready {generation : Generation} {k : Nat} (h : Ready path content generation k d)
    : ∃ session, (d.openSession path k (uploadChunkCount content.length) (some generation)).sessions.lookup path
          = some session
        ∧ session.nextExpectedChunk = k ∧ session.totalChunks = uploadChunkCount content.length
        ∧ session.generation = some generation := by
  unfold Device.openSession
  split
  . next hzero => exact ⟨_, AList.lookup_insert _, hzero.symm, rfl, rfl⟩
  . next hk => exact (h hk).2

theorem openSession_files (d : Device) (path : String) (index total : Nat) (generation : Option Generation)
    : (d.openSession path index total generation).files = d.files := by
  unfold Device.openSession
  split <;> rfl

theorem continueUpload_sent {k : Nat} (session : FileUploadSession)
    (h : k ≠ 0 → d.files path = some (sent content k))
    : let written := d.writeFile path (sent content (k + 1))
      ∃ chunk next, chunk.path = path ∧ next.nextExpectedChunk = k + 1
        ∧ next.totalChunks = session.totalChunks ∧ next.generation = session.generation
        ∧ d.continueUpload path session k (window content k) true .succeeds
          = if k + 1 = session.totalChunks then
              (.accepted chunk true, written.removeSession path)
            else
              (.accepted chunk false, { written with sessions := written.sessions.insert path next }) := by
  unfold Device.continueUpload
  rw [writeChunk_sent h]
  exact ⟨⟨path, k, session.totalChunks, session.generation, window content k⟩,
    { session with
      bytesWritten := min (session.bytesWritten + (window content k).length) (2 ^ 64 - 1)
      nextExpectedChunk := k + 1 }, rfl, rfl, rfl, rfl, rfl⟩

theorem writeFileChunk_continues {place : String} {k total : Nat} {bytes : List UInt8}
    {session : FileUploadSession} (hplace : clip cmd.path maxFilePathChars = place) (hpath : place ≠ "")
    (hindex : cmd.chunkIndex.getD 0 = k) (htotal : cmd.totalChunks.getD 0 = total) (hk : k < total)
    (hdata : decode cmd.data = .ok bytes)
    (hsession : (d.openSession place k total generation).sessions.lookup place = some session)
    (hmatches : session.nextExpectedChunk = k ∧ session.totalChunks = total ∧ session.generation = generation)
    : d.writeFileChunk decode cmd generation fresh write
        = (d.openSession place k total generation).continueUpload place session k bytes
            (generation.isSome && fresh) write := by
  have hvalid : ¬(place = "" ∨ total = 0 ∨ total ≤ k) := by
    rintro (hempty | hzero | hle)
    . exact hpath hempty
    . exact absurd hk (by omega)
    . exact absurd hk (by omega)
  unfold Device.writeFileChunk
  dsimp only
  rw [hplace, hindex, htotal, if_neg hvalid, hdata]
  dsimp only
  rw [hsession]
  dsimp only
  rw [if_pos hmatches]

theorem Ready.step (hdecode : ∀ bytes, decode (Base64.encode bytes) = .ok bytes) {generation : Generation}
    {k : Nat} (hk : k < uploadChunkCount content.length) (hpath : c.path ≠ "")
    (harrives : c.Arrives generation) (hcmd : c.cmd = uploadChunk path content k)
    (h : Ready c.path content generation k u.device)
    : (∃ chunk, chunk.path = c.path
        ∧ u.outcome decode c = .accepted chunk (k + 1 = uploadChunkCount content.length))
      ∧ (u.step decode c).device.files c.path = some (sent content (k + 1))
      ∧ if k + 1 = uploadChunkCount content.length then
          (u.step decode c).device.sessions.lookup c.path = none
        else
          Ready c.path content generation (k + 1) (u.step decode c).device := by
  have hdata : decode c.cmd.data = .ok (window content k) := by
    rw [hcmd, uploadChunk_data, hdecode]
  have hindex : c.cmd.chunkIndex.getD 0 = k := by
    rw [hcmd, uploadChunk_index, Option.getD_some]
  have htotal : c.cmd.totalChunks.getD 0 = uploadChunkCount content.length := by
    rw [hcmd, uploadChunk_total, Option.getD_some]
  rcases openSession_ready h with ⟨session, hsession, hnext, hsessionTotal, hgeneration⟩
  have hfile : k ≠ 0 → (u.device.openSession c.path k (uploadChunkCount content.length)
      (some generation)).files c.path = some (sent content k) := by
    intro hzero
    rw [openSession_files]
    exact (h hzero).1
  have hplace : clip c.cmd.path maxFilePathChars = c.path := rfl
  have hcontinue : u.device.writeFileChunk decode c.cmd (some generation) true .succeeds = _ :=
    writeFileChunk_continues hplace hpath hindex htotal hk hdata hsession ⟨hnext, hsessionTotal, hgeneration⟩
  unfold Uploads.step Uploads.outcome
  dsimp only
  rw [harrives.generation, harrives.fresh, harrives.write, hcontinue, Option.isSome_some, Bool.true_and]
  rcases continueUpload_sent session hfile with ⟨chunk, next, hchunk, hnext', htotal', hgeneration', hresult⟩
  rw [hresult, hsessionTotal]
  by_cases hlast : k + 1 = uploadChunkCount content.length
  . rw [if_pos hlast, if_pos hlast, decide_eq_true hlast]
    exact ⟨⟨chunk, hchunk, rfl⟩, Function.update_self _ _ _, AList.lookup_erase _ _⟩
  . rw [if_neg hlast, if_neg hlast, decide_eq_false hlast]
    refine ⟨⟨chunk, hchunk, rfl⟩, Function.update_self _ _ _, ?_⟩
    intro _
    exact ⟨Function.update_self _ _ _, next, AList.lookup_insert _, hnext', htotal'.trans hsessionTotal,
      hgeneration'.trans hgeneration⟩

theorem range_from (count : Nat) {k : Nat} (h : k < count)
    : List.range' k (count - k) = k :: List.range' (k + 1) (count - (k + 1)) := by
  rw [show count - k = (count - (k + 1)) + 1 by omega, List.range'_succ]

-- The other uploads do not change what the device expects.
theorem results_other {place : String} (hne : c.path ≠ place) (commands : List Command)
    : (results decode u (c :: commands)).filter (fun r => r.path = place)
        = (results decode (u.step decode c) commands).filter (fun r => r.path = place) := by
  have hother : ∀ r ∈ (u.outcome decode c).result, r.path = c.path := by
    intro r hr
    rcases step_cases decode u c with ⟨error, hrefused, _⟩ | ⟨chunk, haccepted, happends⟩
    . rw [hrefused] at hr
      cases hr
      rfl
    . by_cases hdone : chunk.index + 1 = chunk.total
      . rw [haccepted, decide_eq_true hdone] at hr
        cases hr
        exact happends.place
      . rw [haccepted, decide_eq_false hdone] at hr
        cases hr
  have hnone : (u.outcome decode c).result.toList.filter (fun r => r.path = place) = [] := by
    rw [List.filter_eq_nil_iff]
    intro r hr
    rw [decide_eq_true_eq, hother r (Option.mem_toList.mp hr)]
    exact hne
  rw [results, List.filter_append, hnone, List.nil_append]

theorem results_none {place : String} {commands : List Command}
    (h : commands.filter (fun c => c.path = place) = [])
    : (results decode u commands).filter (fun r => r.path = place) = []
      ∧ Agree place (Runs.exec (Uploads.step decode) u commands).device u.device := by
  induction commands generalizing u with
  | nil => exact ⟨rfl, Agree.refl place _⟩
  | cons c commands ih =>
    rw [List.filter_cons] at h
    split at h
    . cases h
    . next hplace =>
      have hne : c.path ≠ place := fun heq => hplace (decide_eq_true heq)
      have hframe : Agree place (u.step decode c).device u.device := step_frame hne.symm
      rcases ih (u := u.step decode c) h with ⟨hresults, hagree⟩
      exact ⟨(results_other hne commands).trans hresults, hagree.trans hframe⟩

theorem results_arrive (hdecode : ∀ bytes, decode (Base64.encode bytes) = .ok bytes) {generation : Generation}
    {place : String} (hplace : place = clip path maxFilePathChars) (hpath : place ≠ "")
    {commands : List Command} (harrive : ∀ c ∈ commands, c.path = place → c.Arrives generation) {k : Nat}
    (hk : k < uploadChunkCount content.length)
    (hours : (commands.filter (fun c => c.path = place)).map Command.cmd
      = (List.range' k (uploadChunkCount content.length - k)).map (uploadChunk path content))
    (h : Ready place content generation k u.device)
    : (results decode u commands).filter (fun r => r.path = place) = [{ path := place, ok := true, error := "" }]
        ∧ (Runs.exec (Uploads.step decode) u commands).device.files place = some content
        ∧ (Runs.exec (Uploads.step decode) u commands).device.sessions.lookup place = none := by
  induction commands generalizing u k with
  | nil =>
    rw [range_from _ hk, List.map_cons] at hours
    exact absurd hours.symm (List.cons_ne_nil _ _)
  | cons c commands ih =>
    have harriveRest : ∀ c ∈ commands, c.path = place → c.Arrives generation :=
      fun other hother => harrive other (List.mem_cons_of_mem _ hother)
    rw [List.filter_cons] at hours
    by_cases hc : c.path = place
    . subst hc
      rw [if_pos (decide_eq_true rfl), range_from _ hk, List.map_cons, List.map_cons, List.cons.injEq] at hours
      rcases hours with ⟨hcmd, hrest⟩
      rcases h.step hdecode hk hpath (harrive c List.mem_cons_self rfl) hcmd with
        ⟨⟨chunk, hchunk, houtcome⟩, hfile, hnext⟩
      change ((u.outcome decode c).result.toList ++ results decode (u.step decode c) commands).filter _ = _
        ∧ (Runs.exec (Uploads.step decode) (u.step decode c) commands).device.files _ = _
        ∧ (Runs.exec (Uploads.step decode) (u.step decode c) commands).device.sessions.lookup _ = _
      by_cases hlast : k + 1 = uploadChunkCount content.length
      . -- No other command of the upload follows.
        rw [if_pos hlast] at hnext
        rw [← hlast, Nat.sub_self, List.range'_zero, List.map_nil, List.map_eq_nil_iff] at hrest
        have hnone : (results decode (u.step decode c) commands).filter (fun r => r.path = c.path) = []
            ∧ Agree c.path (Runs.exec (Uploads.step decode) (u.step decode c) commands).device
              (u.step decode c).device := results_none hrest
        rcases hnone with ⟨hresults, hagree⟩
        rw [houtcome, decide_eq_true hlast, List.filter_append, hresults, hagree.file, hagree.session, hfile,
          hlast, sent_all]
        refine ⟨?_, rfl, hnext⟩
        simp [Outcome.result, hchunk]
      . rw [if_neg hlast] at hnext
        rw [houtcome, decide_eq_false hlast]
        change (results decode (u.step decode c) commands).filter _ = _ ∧ _
        exact ih harriveRest (by omega) hrest hnext
    . have hframe : Agree place (u.step decode c).device u.device := step_frame (fun heq => hc heq.symm)
      rw [if_neg (fun heq => hc (of_decide_eq_true heq))] at hours
      rw [results_other hc]
      exact ih harriveRest hk hours (h.congr hframe)

/--
If the chunks of an upload arrive in order, with the permission for one generation and a file that can be
written, the dashboard gets one result for the path, an acknowledgment, and the file has the content that was
sent. This holds whatever was uploaded before and among which uploads to other paths the chunks arrive.
-/
theorem upload_arrives (hdecode : ∀ bytes, decode (Base64.encode bytes) = .ok bytes)
    (files : String → Option (List UInt8)) (earlier commands : List Command) (generation : Generation)
    (hpath : clip path maxFilePathChars ≠ "")
    (harrive : ∀ c ∈ commands, c.path = clip path maxFilePathChars → c.Arrives generation)
    (hours : (commands.filter (fun c => c.path = clip path maxFilePathChars)).map Command.cmd
      = runUpload path content)
    : let u := Runs.exec (Uploads.step decode) (.init files) earlier
      let after := (Runs.exec (Uploads.step decode) u commands).device
      (results decode u commands).filter (fun r => r.path = clip path maxFilePathChars)
          = [{ path := clip path maxFilePathChars, ok := true, error := "" }]
        ∧ after.files (clip path maxFilePathChars) = some content
        ∧ after.sessions.lookup (clip path maxFilePathChars) = none := by
  intro u after
  have hstart : Ready (clip path maxFilePathChars) content generation 0 u.device := fun hzero => absurd rfl hzero
  unfold runUpload at hours
  rw [List.range_eq_range', ← Nat.sub_zero (uploadChunkCount content.length)] at hours
  exact results_arrive hdecode rfl hpath harrive (uploadChunkCount_pos _ _) hours hstart

theorem upload_arrives_small
    : let u := Runs.exec (Uploads.step readBase64) (.init (fun _ => none)) [chunkFor "a" "AQ=="]
      let commands := [sending "b" [4] 0, sending "a" [1, 2, 3] 0]
      (results readBase64 u commands).filter (fun r => r.path = "a") = [⟨"a", true, ""⟩]
        ∧ (Runs.exec (Uploads.step readBase64) u commands).device.files "a" = some [1, 2, 3] := by
  intro u commands
  have hclip : clip "a" maxFilePathChars = "a" := by decide +kernel
  have hpath : clip "a" maxFilePathChars ≠ "" := by
    rw [hclip]
    decide
  have harrive : ∀ c ∈ commands, c.path = clip "a" maxFilePathChars → c.Arrives ⟨.files, 1⟩ := by
    intro c hc _
    rcases List.mem_cons.mp hc with rfl | hc
    . exact ⟨rfl, rfl, rfl⟩
    . rw [List.mem_singleton.mp hc]
      exact ⟨rfl, rfl, rfl⟩
  have hours : (commands.filter (fun c => c.path = clip "a" maxFilePathChars)).map Command.cmd
      = runUpload "a" [1, 2, 3] := by decide +kernel
  have hall := upload_arrives readBase64_encode (fun _ => none) [chunkFor "a" "AQ=="] commands ⟨.files, 1⟩
    hpath harrive hours
  rw [hclip] at hall
  exact ⟨hall.1, hall.2.1⟩

end FileTransfer

end Vantyr
