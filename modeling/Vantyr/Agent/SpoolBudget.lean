import Mathlib.Data.String.Basic
import Vantyr.Agent.Spool
import Vantyr.Data.Decimal

/-!
This module contains the order and the budget of the spool: the names of the files sort by the time of
capture, and a push evicts the oldest files until the others fit.
-/

namespace Vantyr

namespace Spool

-- The times that the names of the files have enough digits for.
def InNames (capturedMs : Int) : Prop :=
  0 ≤ capturedMs ∧ capturedMs < 10 ^ 13

theorem pad_eq {n : Nat} (h : n < 10 ^ 13) : pad 13 (toString n).toList = Decimal.digits 13 n := by
  have htext : (toString n).toList = Nat.toDigits 10 n := by
    rw [Nat.toString_eq_ofList_toDigits, String.toList_ofList]
  rw [pad, htext]
  exact Decimal.replicate_append_toDigits (by decide) h

theorem pad_lt {m n : Nat} (h : m < n) (hn : n < 10 ^ 13) (as bs : List Char)
    : pad 13 (toString m).toList ++ as < pad 13 (toString n).toList ++ bs := by
  have hlength : (Decimal.digits 13 m).length = (Decimal.digits 13 n).length := by
    rw [Decimal.length_digits, Decimal.length_digits]
  rw [pad_eq (h.trans hn), pad_eq hn]
  exact Decimal.append_lt_append hlength (Decimal.digits_lt h hn) as bs

theorem toList_fileName (ms : Int) (uid : String)
    : (fileName ms uid).toList
        = pad 13 (toString ms.toNat).toList ++ '-' :: (uid.toList ++ ".vrf".toList) :=
  String.toList_ofList

theorem fileName_lt {ms ms' : Int} (h : ms.toNat < ms'.toNat) (hms' : ms'.toNat < 10 ^ 13)
    (uid uid' : String) : fileName ms uid < fileName ms' uid' := by
  rw [String.lt_iff, toList_fileName, toList_fileName]
  exact pad_lt h hms' _ _

theorem fileName_le {ms ms' : Int} {uid uid' : String} (h : fileName ms uid ≤ fileName ms' uid')
    (hms : InNames ms) (hms' : InNames ms') : ms ≤ ms' := by
  by_contra hlt
  have hpos := hms'.1
  have hbound := hms.2
  have hnat : ms'.toNat < ms.toNat := by omega
  exact absurd h (not_le_of_gt (fileName_lt hnat (by omega) uid' uid))

section Entries

variable {disk : Disk} {dir : Dir}

theorem mem_entries {path : String} {len : Nat}
    : (path, len) ∈ entries disk dir
        ↔ ∃ file, dir.lookup path = some file ∧ file.len = len ∧ disk.listed path = true := by
  unfold entries
  rw [List.mem_insertionSort, List.mem_map]
  constructor
  . intro h
    rcases h with ⟨⟨other, file⟩, hmem, heq⟩
    rw [List.mem_filter] at hmem
    cases heq
    exact ⟨file, AList.mem_lookup_iff.mpr hmem.1, rfl, hmem.2⟩
  . intro h
    rcases h with ⟨file, hlookup, rfl, hlisted⟩
    exact ⟨⟨path, file⟩, List.mem_filter.mpr ⟨AList.mem_lookup_iff.mp hlookup, hlisted⟩, rfl⟩

theorem sorted_entries (disk : Disk) (dir : Dir)
    : (entries disk dir).Pairwise (fun a b => a.1 ≤ b.1) := by
  have : Std.Total (fun a b : String × Nat => a.1 ≤ b.1) := ⟨fun a b => le_total a.1 b.1⟩
  have : IsTrans (String × Nat) (fun a b => a.1 ≤ b.1) := ⟨fun _ _ _ => le_trans⟩
  exact List.pairwise_insertionSort _ _

theorem nodup_entries (disk : Disk) (dir : Dir) : ((entries disk dir).map Prod.fst).Nodup := by
  have hperm := (List.perm_insertionSort (fun a b : String × Nat => a.1 ≤ b.1)
    ((dir.entries.filter (fun entry => disk.listed entry.1)).map
      (fun entry => (entry.1, entry.2.len)))).map Prod.fst
  apply hperm.nodup_iff.mpr
  rw [List.map_map]
  exact (List.filter_sublist.map Sigma.fst).nodup dir.nodupKeys

theorem entries_erase (disk : Disk) (dir : Dir) (path : String)
    : entries disk (dir.erase path) = (entries disk dir).filter (fun entry => entry.1 ≠ path) := by
  have hmem (entry : String × Nat) : entry ∈ entries disk (dir.erase path)
      ↔ entry ∈ (entries disk dir).filter (fun entry => entry.1 ≠ path) := by
    rw [List.mem_filter, mem_entries, mem_entries, decide_eq_true_eq]
    by_cases hpath : entry.1 = path
    . rw [hpath, AList.lookup_erase]
      simp
    . rw [AList.lookup_erase_ne hpath]
      simp [hpath]
  have hperm := (List.perm_ext_iff_of_nodup (nodup_entries disk (dir.erase path)).of_map
    ((nodup_entries disk dir).of_map.filter _)).mpr hmem
  apply hperm.eq_of_pairwise _ (sorted_entries disk _) ((sorted_entries disk dir).filter _)
  -- Two entries of a listing with the same name are the same.
  intro a b ha hb hab hba
  have hb := (hmem b).mpr hb
  rcases mem_entries.mp ha with ⟨file, hfile, hlen, _⟩
  rcases mem_entries.mp hb with ⟨file', hfile', hlen', _⟩
  have hname : a.1 = b.1 := le_antisymm hab hba
  rw [hname, hfile', Option.some.injEq] at hfile
  rw [← hfile, hlen'] at hlen
  exact Prod.ext hname hlen.symm

end Entries

/--
The oldest files are evicted, as many as are in the way: the others fit, and they would not with one file
more. What the operating system does not remove is passed over.
-/
structure Evicts (disk : Disk) (maxBytes : Nat) (dir dir' : Dir) (evicted : Nat) : Prop where
  remaining : entries disk dir'
    = ((entries disk dir).take evicted).filter (fun entry => !disk.removable entry.1)
      ++ (entries disk dir).drop evicted
  fits : total ((entries disk dir).drop evicted) ≤ maxBytes
  needed : ∀ fewer < evicted, maxBytes < total ((entries disk dir).drop fewer)

theorem entries_remove {disk : Disk} {dir : Dir} {path : String} {len : Nat}
    {kept files : List (String × Nat)} (h : entries disk dir = kept ++ (path, len) :: files)
    : entries disk (remove disk dir path)
        = kept ++ ([(path, len)].filter (fun entry => !disk.removable entry.1) ++ files) := by
  unfold remove
  split
  . next hremovable =>
    have hnodup := nodup_entries disk dir
    rw [h, List.map_append, List.map_cons, List.nodup_middle, List.nodup_cons, List.mem_append, not_or]
      at hnodup
    have hkept (entries : List (String × Nat)) (hmem : path ∉ entries.map Prod.fst)
        : entries.filter (fun entry => entry.1 ≠ path) = entries := by
      apply List.filter_eq_self.mpr
      intro entry hentry
      rw [decide_eq_true_eq]
      intro heq
      exact hmem (List.mem_map.mpr ⟨entry, hentry, heq⟩)
    rw [entries_erase, h, List.filter_append, List.filter_cons_of_neg (by simp), hkept _ hnodup.1.1,
      hkept _ hnodup.1.2, List.filter_cons_of_neg (by simp [hremovable])]
    rfl
  . next hremovable =>
    rw [h, List.filter_cons_of_pos (by simpa using hremovable)]
    rfl

-- The induction is on the files that are still there to evict. Those in front of them could not be removed.
theorem entries_evict {disk : Disk} {maxBytes : Nat} {dir : Dir} {kept files : List (String × Nat)}
    (h : entries disk dir = kept ++ files)
    : ∃ evicted, entries disk (evict disk maxBytes dir (total files) files)
          = kept ++ ((files.take evicted).filter (fun entry => !disk.removable entry.1)
            ++ files.drop evicted)
        ∧ total (files.drop evicted) ≤ maxBytes
        ∧ ∀ fewer < evicted, maxBytes < total (files.drop fewer) := by
  induction files generalizing dir kept with
  | nil => exact ⟨0, h, Nat.zero_le _, fun fewer hfewer => absurd hfewer (Nat.not_lt_zero _)⟩
  | cons file files ih =>
    rw [evict]
    split
    . next hfits => exact ⟨0, h, hfits, fun fewer hfewer => absurd hfewer (Nat.not_lt_zero _)⟩
    . next hfull =>
      have htotal : total (file :: files) - file.2 = total files := by
        simp [total]
      have hremoved := entries_remove h
      rw [← List.append_assoc] at hremoved
      rcases ih hremoved with ⟨evicted, hremaining, hfits, hneeded⟩
      rw [htotal]
      refine ⟨evicted + 1, ?_, hfits, ?_⟩
      . have hcons : (file :: files.take evicted).filter (fun entry => !disk.removable entry.1)
            = [file].filter (fun entry => !disk.removable entry.1)
              ++ (files.take evicted).filter (fun entry => !disk.removable entry.1) :=
          List.filter_append [file] _
        rw [hremaining, List.take_succ_cons, List.drop_succ_cons, hcons, List.append_assoc, List.append_assoc]
      . intro fewer hfewer
        cases fewer with
        | zero => exact Nat.lt_of_not_le hfull
        | succ fewer => exact hneeded fewer (Nat.lt_of_succ_lt_succ hfewer)

theorem enforceBudget_evicts (disk : Disk) (maxBytes : Nat) (dir : Dir)
    : ∃ evicted, Evicts disk maxBytes dir (enforceBudget disk maxBytes dir) evicted := by
  have hstart : entries disk dir = [] ++ entries disk dir := rfl
  rcases entries_evict hstart with ⟨evicted, hremaining, hfits, hneeded⟩
  exact ⟨evicted, hremaining, hfits, hneeded⟩

-- If the operating system removes every file, what is left is in the budget.
theorem Evicts.total_le {disk : Disk} {maxBytes : Nat} {dir dir' : Dir} {evicted : Nat}
    (h : Evicts disk maxBytes dir dir' evicted) (hremovable : ∀ path, disk.removable path = true)
    : total (entries disk dir') ≤ maxBytes := by
  rw [h.remaining, List.filter_eq_nil_iff.mpr (by simp [hremovable]), List.nil_append]
  exact h.fits

end Spool

end Vantyr
