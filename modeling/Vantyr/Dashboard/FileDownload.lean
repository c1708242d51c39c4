import Mathlib.Data.List.Nodup
import Mathlib.Data.List.Perm.Lattice
import Vantyr.Agent.FileTransfer

/-!
This module contains how the dashboard puts a download together, `ChunkAssembler` in
`frontend/src/features/files/fileTransfer.ts`. The agent announces as many chunks as full reads would give
and sends one chunk per read. The main result is that a download is faithful if and only if there were as
many reads as announced.
-/

namespace Vantyr

namespace FileTransfer

-- An element of an array: one that was never assigned, `null`, or a chunk.
inductive Slot where
  | hole
  | null
  | bytes (b : List UInt8)
  deriving DecidableEq, Repr

def Slot.bytes? : Slot → Option (List UInt8)
  | .bytes b => some b
  | _ => none

-- An assignment behind the end of the array extends it.
def store (chunks : List Slot) (index : Nat) (b : List UInt8) : List Slot :=
  if index < chunks.length then
    chunks.set index (.bytes b)
  else
    chunks ++ List.replicate (index - chunks.length) .hole ++ [.bytes b]

-- `filter` skips the elements that were never assigned.
def received (chunks : List Slot) : Nat :=
  chunks.countP (fun chunk => chunk.bytes?.isSome)

abbrev ChunkAssembler := AList (fun _ : String => List Slot)

inductive ChunkProgress where
  | incomplete (percent : Nat)
  | complete (parts : List Slot)
  deriving DecidableEq, Repr

-- The rounded percentage, computed with floating-point numbers.
variable (percent : (received total : Nat) → Nat)

namespace ChunkAssembler

def add (files : ChunkAssembler) (path : String) (index total : Nat) (b : List UInt8)
    : ChunkProgress × ChunkAssembler :=
  let chunks := store ((files.lookup path).getD (List.replicate total .null)) index b
  if received chunks = total then
    (.complete chunks, files.erase path)
  else
    (.incomplete (percent (received chunks) total), files.insert path chunks)

-- What an arriving message does in `useAgentFs.ts`. An error ends all downloads, a corrupt chunk its own.
def handle (files : ChunkAssembler) (m : FileChunk) : Option ChunkProgress × ChunkAssembler :=
  if m.isError then
    (none, ∅)
  else
    match Base64.atob m.data with
    | none => (none, files.erase m.path)
    | some b =>
      let (progress, files) := files.add percent m.path m.chunkIndex m.totalChunks b
      (some progress, files)

def feed (files : ChunkAssembler) : List FileChunk → List (Option ChunkProgress)
  | [] => []
  | m :: messages => (handle percent files m).1 :: feed (handle percent files m).2 messages

end ChunkAssembler

def concatenation (parts : List Slot) : Option (List UInt8) :=
  (parts.mapM Slot.bytes?).map List.flatten

-- What reads of these sizes give.
def cut (content : List UInt8) : List Nat → List (List UInt8)
  | [] => []
  | size :: sizes => content.take size :: cut (content.drop size) sizes

-- The operating system reads the file to its end, and never more than the buffer holds.
structure ValidReads (content : List UInt8) (sizes : List Nat) : Prop where
  positive : ∀ size ∈ sizes, 0 < size
  bounded : ∀ size ∈ sizes, size ≤ remoteFileChunkBytes
  sum : sizes.sum = content.length

-- The messages of a download of a file that does not change.
def download (path : String) (content : List UInt8) (sizes : List Nat) : List FileChunk :=
  readFile path (.ok content.length) (.ok ()) ((cut content sizes).map .ok ++ [.ok []])

/--
The chunks are numbered from 0 to the announced total. In any order the last of them, and no other one,
completes the download, and its parts are the content of the file.
-/
def Faithful (path : String) (content : List UInt8) (sizes : List Nat) : Prop :=
  let messages := download path content sizes
  messages.map FileChunk.chunkIndex = List.range (totalChunks content.length)
    ∧ (∀ m ∈ messages, m.totalChunks = totalChunks content.length ∧ m.isError = false)
    ∧ ∀ order : List FileChunk, order.Perm messages → ∃ before parts,
      ChunkAssembler.feed percent ∅ order = before ++ [some (.complete parts)]
        ∧ (∀ progress ∈ before, ∃ n, progress = some (.incomplete n))
        ∧ concatenation parts = some content

/-!
The messages of the agent.
-/

theorem length_cut (content : List UInt8) (sizes : List Nat) : (cut content sizes).length = sizes.length := by
  induction sizes generalizing content with
  | nil => rfl
  | cons size sizes ih => simp [cut, ih]

theorem flatten_cut {content : List UInt8} {sizes : List Nat} (h : sizes.sum = content.length)
    : (cut content sizes).flatten = content := by
  induction sizes generalizing content with
  | nil =>
    have : content = [] := List.eq_nil_of_length_eq_zero h.symm
    rw [this]
    rfl
  | cons size sizes ih =>
    rw [List.sum_cons] at h
    rw [cut, List.flatten_cons, ih (by rw [List.length_drop]; omega), List.take_append_drop]

theorem ne_nil_of_mem_cut {content : List UInt8} {sizes : List Nat} (hpositive : ∀ size ∈ sizes, 0 < size)
    (h : sizes.sum = content.length) : ∀ slice ∈ cut content sizes, slice ≠ [] := by
  induction sizes generalizing content with
  | nil => simp [cut]
  | cons size sizes ih =>
    have hsize := hpositive size List.mem_cons_self
    rw [List.sum_cons] at h
    intro slice hslice
    rcases List.mem_cons.mp hslice with rfl | hslice
    . apply List.ne_nil_of_length_pos
      rw [List.length_take]
      omega
    . apply ih (fun other hother => hpositive other (List.mem_cons_of_mem _ hother)) _ slice hslice
      rw [List.length_drop]
      omega

def chunkMessage (path : String) (total : Nat) (slice : List UInt8 × Nat) : FileChunk :=
  sendChunk path slice.2 total (.ok (Base64.encode slice.1))

theorem readLoop_eq (path : String) (total : Nat) {slices : List (List UInt8)}
    (h : ∀ slice ∈ slices, slice ≠ []) (idx : Nat)
    : readLoop path total idx (slices.map .ok ++ [.ok []])
        = (slices.zipIdx idx).map (chunkMessage path total) := by
  induction slices generalizing idx with
  | nil => rfl
  | cons slice slices ih =>
    cases slice with
    | nil => exact absurd rfl (h [] List.mem_cons_self)
    | cons b bytes =>
      have hrest := ih (fun other hother => h other (List.mem_cons_of_mem _ hother)) (idx + 1)
      rw [List.zipIdx_cons, List.map_cons, List.map_cons, ← hrest]
      rfl

theorem download_eq {content : List UInt8} {sizes : List Nat} (hvalid : ValidReads content sizes)
    (hcontent : content ≠ []) (path : String)
    : download path content sizes = (cut content sizes).zipIdx.map
        (chunkMessage (clip path maxFilePathChars) (totalChunks content.length)) := by
  unfold download readFile
  dsimp only
  rw [if_neg (fun h => hcontent (List.eq_nil_of_length_eq_zero h))]
  exact readLoop_eq _ _ (ne_nil_of_mem_cut hvalid.positive hvalid.sum) 0

theorem map_chunkIndex (path : String) (total : Nat) (slices : List (List UInt8))
    : (slices.zipIdx.map (chunkMessage path total)).map FileChunk.chunkIndex = List.range slices.length := by
  rw [List.map_map, List.range_eq_range', ← List.zipIdx_map_snd 0 slices]
  rfl

/-!
What the dashboard makes of them.
-/

-- The chunks of the indices that have arrived.
def arrived (slices : List (List UInt8)) (done : List Nat) : List Slot :=
  slices.zipIdx.map (fun slice => if slice.2 ∈ done then .bytes slice.1 else .null)

theorem length_arrived (slices : List (List UInt8)) (done : List Nat)
    : (arrived slices done).length = slices.length := by
  simp [arrived]

theorem arrived_nil (slices : List (List UInt8))
    : arrived slices [] = List.replicate slices.length .null := by
  rw [List.eq_replicate_iff]
  refine ⟨length_arrived slices [], ?_⟩
  intro slot hslot
  rcases List.mem_map.mp hslot with ⟨slice, _, rfl⟩
  rfl

theorem store_arrived {slices : List (List UInt8)} {index : Nat} {slice : List UInt8}
    (hslice : slices[index]? = some slice) (done : List Nat)
    : store (arrived slices done) index slice = arrived slices (index :: done) := by
  have hindex : index < slices.length := (List.getElem?_eq_some_iff.mp hslice).1
  unfold store
  rw [if_pos (by rw [length_arrived]; exact hindex)]
  apply List.ext_getElem?
  intro i
  rw [List.getElem?_set, length_arrived]
  simp only [arrived, List.getElem?_map, List.getElem?_zipIdx, Nat.zero_add]
  by_cases hi : index = i
  . subst hi
    rw [if_pos rfl, if_pos hindex, hslice, Option.map_some, Option.map_some, if_pos List.mem_cons_self]
  . rw [if_neg hi]
    have hmem : i ∈ index :: done ↔ i ∈ done := by
      simp [Ne.symm hi]
    cases slices[i]? with
    | none => rfl
    | some other => simp only [Option.map_some, hmem]

-- As many chunks were received as indices have arrived.
theorem received_arrived {slices : List (List UInt8)} {done : List Nat} (hnodup : done.Nodup)
    (hlt : ∀ i ∈ done, i < slices.length) : received (arrived slices done) = done.length := by
  have hcount : received (arrived slices done)
      = (List.range slices.length).countP (fun i => i ∈ done) := by
    rw [List.range_eq_range', ← List.zipIdx_map_snd 0 slices, List.countP_map, received, arrived,
      List.countP_map]
    apply List.countP_congr
    intro slice _
    by_cases h : slice.2 ∈ done
    . simp [h, Slot.bytes?]
    . simp [h, Slot.bytes?]
  rw [hcount, List.countP_eq_length_filter]
  apply List.Perm.length_eq
  apply (List.perm_ext_iff_of_nodup (List.nodup_range.filter _) hnodup).mpr
  intro i
  simp only [List.mem_filter, List.mem_range, decide_eq_true_eq]
  exact ⟨fun h => h.2, fun h => ⟨hlt i h, h⟩⟩

theorem concatenation_bytes (slices : List (List UInt8))
    : concatenation (slices.map .bytes) = some slices.flatten := by
  have hmap : (slices.map Slot.bytes).mapM Slot.bytes? = some slices := by
    induction slices with
    | nil => rfl
    | cons slice slices ih =>
      rw [List.map_cons, List.mapM_cons, ih]
      rfl
  rw [concatenation, hmap, Option.map_some]

-- When as many indices have arrived as there are chunks, these are all of them.
theorem arrived_all {slices : List (List UInt8)} {done : List Nat} (hnodup : done.Nodup)
    (hlt : ∀ i ∈ done, i < slices.length) (hlength : done.length = slices.length)
    : arrived slices done = slices.map .bytes := by
  have hall : ∀ i < slices.length, i ∈ done := by
    have hperm : done.Perm (List.range slices.length) := by
      apply List.Subperm.perm_of_length_le
      . apply List.subperm_of_subset hnodup
        intro i hi
        exact List.mem_range.mpr (hlt i hi)
      . rw [List.length_range, hlength]
    intro i hi
    exact hperm.mem_iff.mpr (List.mem_range.mpr hi)
  apply List.ext_getElem?
  intro i
  simp only [arrived, List.getElem?_map, List.getElem?_zipIdx, Nat.zero_add]
  cases hslice : slices[i]? with
  | none => rfl
  | some slice =>
    have hi := hall i (List.getElem?_eq_some_iff.mp hslice).1
    simp [hi]

-- A message with the chunk of its index.
structure Carries (path : String) (slices : List (List UInt8)) (m : FileChunk) : Prop where
  path : m.path = path
  total : m.totalChunks = slices.length
  ok : m.isError = false
  slice : ∃ slice, slices[m.chunkIndex]? = some slice ∧ Base64.atob m.data = some slice

structure Arriving (path : String) (slices : List (List UInt8)) (files : ChunkAssembler) (done : List Nat)
    : Prop where
  slots : (files.lookup path).getD (List.replicate slices.length .null) = arrived slices done
  nodup : done.Nodup
  lt : ∀ i ∈ done, i < slices.length

theorem handle_eq {path : String} {slices : List (List UInt8)} {files : ChunkAssembler} {done : List Nat}
    {m : FileChunk} (h : Arriving path slices files done) (hm : Carries path slices m)
    (hnew : m.chunkIndex ∉ done)
    : ChunkAssembler.handle percent files m
        = if done.length + 1 = slices.length then
            (some (.complete (arrived slices (m.chunkIndex :: done))), files.erase path)
          else
            (some (.incomplete (percent (done.length + 1) slices.length)),
              files.insert path (arrived slices (m.chunkIndex :: done))) := by
  rcases hm.slice with ⟨slice, hslice, hdata⟩
  have hindex : m.chunkIndex < slices.length := (List.getElem?_eq_some_iff.mp hslice).1
  have hreceived : received (arrived slices (m.chunkIndex :: done)) = done.length + 1 := by
    apply received_arrived (List.nodup_cons.mpr ⟨hnew, h.nodup⟩)
    intro i hi
    rcases List.mem_cons.mp hi with rfl | hi
    . exact hindex
    . exact h.lt i hi
  have hadd : ChunkAssembler.add percent files path m.chunkIndex slices.length slice
      = if done.length + 1 = slices.length then
          (.complete (arrived slices (m.chunkIndex :: done)), files.erase path)
        else
          (.incomplete (percent (done.length + 1) slices.length),
            files.insert path (arrived slices (m.chunkIndex :: done))) := by
    unfold ChunkAssembler.add
    rw [h.slots, store_arrived hslice]
    simp only [hreceived]
  unfold ChunkAssembler.handle
  rw [if_neg (by rw [hm.ok]; simp), hdata, hm.path, hm.total]
  dsimp only
  rw [hadd]
  split
  . rfl
  . rfl

theorem Arriving.next {path : String} {slices : List (List UInt8)} {files : ChunkAssembler}
    {done : List Nat} {m : FileChunk} (h : Arriving path slices files done) (hm : Carries path slices m)
    (hnew : m.chunkIndex ∉ done)
    : Arriving path slices (files.insert path (arrived slices (m.chunkIndex :: done)))
        (m.chunkIndex :: done) where
  slots := by rw [AList.lookup_insert, Option.getD_some]
  nodup := List.nodup_cons.mpr ⟨hnew, h.nodup⟩
  lt i hi := by
    rcases List.mem_cons.mp hi with rfl | hi
    . rcases hm.slice with ⟨slice, hslice, _⟩
      exact (List.getElem?_eq_some_iff.mp hslice).1
    . exact h.lt i hi

-- The induction is on the messages that are left.
theorem feed_eq {path : String} {slices : List (List UInt8)} {order : List FileChunk}
    (hcarries : ∀ m ∈ order, Carries path slices m) {files : ChunkAssembler} {done : List Nat}
    (h : Arriving path slices files done)
    (hnodup : (order.map FileChunk.chunkIndex).Nodup)
    (hnew : ∀ m ∈ order, m.chunkIndex ∉ done)
    (hlength : done.length + order.length = slices.length) (hne : order ≠ [])
    : ∃ before, ChunkAssembler.feed percent files order = before ++ [some (.complete (slices.map .bytes))]
      ∧ ∀ progress ∈ before, ∃ n, progress = some (.incomplete n) := by
  induction order generalizing files done with
  | nil => exact absurd rfl hne
  | cons m order ih =>
    have hm := hcarries m List.mem_cons_self
    have hm' := hnew m List.mem_cons_self
    have hnext := h.next hm hm'
    have hhandle := handle_eq percent h hm hm'
    rw [List.length_cons] at hlength
    cases order with
    | nil =>
      have hlast : done.length + 1 = slices.length := hlength
      rw [if_pos hlast] at hhandle
      refine ⟨[], ?_, by simp⟩
      rw [ChunkAssembler.feed, hhandle, arrived_all hnext.nodup hnext.lt hlast]
      rfl
    | cons next order =>
      rw [if_neg (by rw [List.length_cons] at hlength; omega)] at hhandle
      rw [List.map_cons, List.nodup_cons] at hnodup
      have hrest : ∀ other ∈ next :: order, other.chunkIndex ∉ m.chunkIndex :: done := by
        intro other hother hmem
        rcases List.mem_cons.mp hmem with heq | hmem
        . exact hnodup.1 (List.mem_map.mpr ⟨other, hother, heq⟩)
        . exact hnew other (List.mem_cons_of_mem _ hother) hmem
      rcases ih (fun other hother => hcarries other (List.mem_cons_of_mem _ hother)) hnext hnodup.2 hrest
          (by rw [List.length_cons]; omega) (by simp) with ⟨before, hfeed, hbefore⟩
      refine ⟨some (.incomplete (percent (done.length + 1) slices.length)) :: before, ?_, ?_⟩
      . rw [ChunkAssembler.feed, hhandle, hfeed]
        rfl
      . intro progress hprogress
        rcases List.mem_cons.mp hprogress with rfl | hprogress
        . exact ⟨_, rfl⟩
        . exact hbefore progress hprogress

theorem carries_chunkMessage (path : String) {slices : List (List UInt8)} {m : FileChunk}
    (hm : m ∈ slices.zipIdx.map (chunkMessage path slices.length)) : Carries path slices m := by
  rcases List.mem_map.mp hm with ⟨⟨slice, index⟩, hslice, rfl⟩
  have hget := List.mem_zipIdx_iff_getElem?.mp hslice
  exact ⟨rfl, rfl, rfl, slice, hget, Base64.atob_encode slice⟩

theorem feed_chunkMessages (path : String) {slices : List (List UInt8)} (hne : slices ≠ [])
    {order : List FileChunk} (horder : order.Perm (slices.zipIdx.map (chunkMessage path slices.length)))
    : ∃ before, ChunkAssembler.feed percent ∅ order = before ++ [some (.complete (slices.map .bytes))]
      ∧ ∀ progress ∈ before, ∃ n, progress = some (.incomplete n) := by
  have hlength : order.length = slices.length := by
    rw [horder.length_eq, List.length_map, List.length_zipIdx]
  have hindices : (order.map FileChunk.chunkIndex).Perm (List.range slices.length) := by
    rw [← map_chunkIndex path slices.length slices]
    exact horder.map _
  have hstart : Arriving path slices ∅ [] := by
    refine ⟨?_, List.nodup_nil, by simp⟩
    rw [AList.lookup_empty, Option.getD_none, arrived_nil]
  apply feed_eq percent _ hstart (hindices.nodup_iff.mpr List.nodup_range)
  . simp
  . rw [List.length_nil, Nat.zero_add, hlength]
  . intro horder
    rw [horder] at hlength
    exact hne (List.eq_nil_of_length_eq_zero hlength.symm)
  . intro m hm
    exact carries_chunkMessage path (horder.mem_iff.mp hm)

theorem faithful_empty (path : String) {sizes : List Nat} (hvalid : ValidReads [] sizes)
    : Faithful percent path [] sizes := by
  have hsizes : sizes = [] := by
    cases sizes with
    | nil => rfl
    | cons size sizes =>
      have hpos := hvalid.positive size List.mem_cons_self
      have hsum := hvalid.sum
      rw [List.sum_cons, List.length_nil] at hsum
      omega
  subst hsizes
  have hmessages : download path [] []
      = [[]].zipIdx.map (chunkMessage (clip path maxFilePathChars) 1) :=
    rfl
  refine ⟨rfl, ?_, ?_⟩
  . intro m hm
    rw [hmessages] at hm
    have hcarries : Carries _ [[]] m := carries_chunkMessage _ hm
    exact ⟨hcarries.total, hcarries.ok⟩
  . intro order horder
    rw [hmessages] at horder
    have hne : ([[]] : List (List UInt8)) ≠ [] := by simp
    rcases feed_chunkMessages percent _ hne horder with ⟨before, hfeed, hbefore⟩
    exact ⟨before, _, hfeed, hbefore, concatenation_bytes [[]]⟩

/--
A download is faithful if and only if the file is empty or it took as many reads as there are full buffers
in it, the last one counted even if it is not full.
-/
theorem faithful_iff {content : List UInt8} {sizes : List Nat} (hvalid : ValidReads content sizes)
    (path : String)
    : Faithful percent path content sizes
        ↔ content = [] ∨ sizes.length = totalChunks content.length := by
  by_cases hcontent : content = []
  . subst hcontent
    exact iff_of_true (faithful_empty percent path hvalid) (.inl rfl)
  . have hmessages := download_eq hvalid hcontent path
    have hlength := length_cut content sizes
    constructor
    . intro h
      have hindices := h.1
      rw [hmessages, map_chunkIndex, hlength] at hindices
      right
      have hlengths := congrArg List.length hindices
      rw [List.length_range, List.length_range] at hlengths
      exact hlengths
    . intro h
      have htotal : totalChunks content.length = (cut content sizes).length := by
        rw [hlength]
        exact (h.resolve_left hcontent).symm
      rw [htotal] at hmessages
      have hne : cut content sizes ≠ [] := by
        intro hcut
        have hflatten := flatten_cut hvalid.sum
        rw [hcut, List.flatten_nil] at hflatten
        exact hcontent hflatten.symm
      refine ⟨?_, ?_, ?_⟩
      . rw [htotal, hmessages, map_chunkIndex]
      . intro m hm
        rw [hmessages] at hm
        have hcarries := carries_chunkMessage _ hm
        exact ⟨hcarries.total.trans htotal.symm, hcarries.ok⟩
      . intro order horder
        rw [hmessages] at horder
        rcases feed_chunkMessages percent _ hne horder with ⟨before, hfeed, hbefore⟩
        refine ⟨before, _, hfeed, hbefore, ?_⟩
        rw [concatenation_bytes, flatten_cut hvalid.sum]

theorem full_read_faithful
    : Faithful (fun received total => received * 100 / total) "C:\\notes.txt" [72, 105] [2] :=
  (faithful_iff (fun received total => received * 100 / total)
    ⟨by decide, by decide, by decide⟩ "C:\\notes.txt").mpr (.inr rfl)

-- The file was announced with one chunk, and two are sent.
theorem short_read_not_faithful
    : ValidReads [72, 105] [1, 1]
      ∧ ¬ Faithful (fun received total => received * 100 / total) "C:\\notes.txt" [72, 105] [1, 1] := by
  have hvalid : ValidReads [72, 105] [1, 1] := ⟨by decide, by decide, by decide⟩
  refine ⟨hvalid, ?_⟩
  intro h
  have hindices := h.1
  rw [download_eq hvalid (by simp), map_chunkIndex, length_cut] at hindices
  revert hindices
  decide

end FileTransfer

end Vantyr
