import Vantyr.Server.Accounts.TwoFactorGuard

/-!
This module contains the single use of recovery codes. A request that matches a code reads the unused ones
first and marks the one that matched in a statement of its own, which does not look whether it is still
unused. A code authorises one request only as long as no other one marks it in between.
-/

namespace Vantyr

namespace TwoFactor

open Interleaving

structure Account.Unspent (s : Account) : Prop where
  single : s.marked.Nodup
  unused : ∀ {row}, row ∈ s.codes → row.used = false → row.id ∉ s.marked
  codes : ∀ {row}, row ∈ s.codes → row.id < s.nextId
  marked : ∀ {id}, id ∈ s.marked → id < s.nextId

-- The code that a request is about to mark, and the length of the history when it was read.
def Phase.marking : Phase → Option (RecoveryCode × Nat)
  | .mark row _ since => some (row, since)
  | _ => none

namespace Request

/--
No other request has marked the code since it was read.
-/
def Alone (s : Account) (r : Request) (a : Answer) : Prop :=
  ∀ entry ∈ r.phase.marking, a.fails = false → entry.1.id ∉ s.marked.drop entry.2

instance (s : Account) (r : Request) (a : Answer) : Decidable (Alone s r a) :=
  inferInstanceAs (Decidable (∀ entry ∈ r.phase.marking, _))

-- The code was not marked before it was read.
def Read (s : Account) (r : Request) : Prop :=
  ∀ entry ∈ r.phase.marking,
    entry.2 ≤ s.marked.length ∧ entry.1.id ∉ s.marked.take entry.2 ∧ entry.1.id < s.nextId

variable {verify : String → String → Nat → Bool} {verifyDashboardPassword : String → String → Bool}
  {s : Account} {r : Request} {a : Answer}

theorem Read.of_phase (h : r.phase.marking = none) : Read s r := by
  intro entry hentry
  rw [h] at hentry
  cases hentry

theorem marking_refuse (r : Request) : r.refuse.phase.marking = none := by
  unfold refuse
  split
  . rfl
  . rfl

-- The statements that touch the recovery codes.
inductive Spends (s : Account) (r : Request) (a : Answer) (s' : Account) : Prop where
  | same (hcodes : s'.codes = s.codes) (hid : s'.nextId = s.nextId) (hmarked : s'.marked = s.marked)
  | replace (heq : s' = s.recoveryCodesReplace a.hashes)
  | mark (row : RecoveryCode) (since : Nat) (hphase : r.phase.marking = some (row, since))
      (hfails : a.fails = false) (heq : s' = s.recoveryCodeMarkUsed row.id)
  | drop (heq : s' = s.totpDisable)

theorem act_spends (s : Account) (r : Request) (a : Answer)
    : Spends s r a (act verify verifyDashboardPassword s r a).1 := by
  unfold act
  split
  . split
    . exact .same rfl rfl rfl
    . split
      . exact .same rfl rfl rfl
      . unfold enable
        repeat' split
        all_goals exact .same rfl rfl rfl
      . next code hbody =>
        rw [(@disable_informed verify verifyDashboardPassword s r a code hbody).1]
        exact .same rfl rfl rfl
      . next totpCode hbody =>
        rw [(@login_informed verify verifyDashboardPassword s r a totpCode hbody).1]
        exact .same rfl rfl rfl
  . split
    . exact .same rfl rfl rfl
    . exact .same rfl rfl rfl
  . split
    . exact .same rfl rfl rfl
    . exact .replace rfl
  . split
    . exact .same rfl rfl rfl
    . split
      . exact .same rfl rfl rfl
      . exact .same rfl rfl rfl
  . next row code since hphase =>
    split
    . exact .same rfl rfl rfl
    . next hfails =>
      have hmarking : r.phase.marking = some (row, since) := by rw [hphase]; rfl
      have hfails := Bool.eq_false_of_not_eq_true hfails
      split
      . exact .mark row since hmarking hfails rfl
      . exact .mark row since hmarking hfails rfl
  . split
    . exact .same rfl rfl rfl
    . exact .drop rfl
  . exact .same rfl rfl rfl

-- A code that is about to be marked was unused when it was read.
theorem act_marking (hunspent : s.Unspent)
    : (act verify verifyDashboardPassword s r a).2.phase.marking = none
      ∨ ∃ row, (act verify verifyDashboardPassword s r a).2.phase.marking = some (row, s.marked.length)
        ∧ (act verify verifyDashboardPassword s r a).1 = s ∧ row.id ∉ s.marked ∧ row.id < s.nextId := by
  unfold act
  split
  . apply Or.inl
    split
    . rfl
    . split
      . rfl
      . unfold enable
        repeat' split
        all_goals first | rfl | exact marking_refuse r
      . unfold disable
        repeat' split
        all_goals rfl
      . unfold login
        dsimp only
        repeat' split
        all_goals rfl
  . split
    . exact .inl rfl
    . exact .inl rfl
  . split
    . exact .inl rfl
    . exact .inl rfl
  . split
    . exact .inl (marking_refuse r)
    . split
      . exact .inl (marking_refuse r)
      . next row hrow =>
        have hmatching := matching_unused hrow
        exact .inr ⟨row, rfl, rfl, hunspent.unused hmatching.1 hmatching.2.1, hunspent.codes hmatching.1⟩
  . split
    . exact .inl (marking_refuse r)
    . split
      . exact .inl rfl
      . exact .inl rfl
  . split
    . exact .inl rfl
    . exact .inl rfl
  . next hphase =>
    rw [hphase]
    exact .inl rfl

/-!
The codes that are kept, and the history.
-/

theorem mem_issued {nextId : Nat} {hashes : List String} {row : RecoveryCode}
    (h : row ∈ Account.issued nextId hashes) : nextId ≤ row.id ∧ row.id < nextId + hashes.length := by
  unfold Account.issued at h
  rw [List.mem_map] at h
  rcases h with ⟨⟨codeHash, i⟩, hmem, rfl⟩
  have hlt := (List.mem_zipIdx' hmem).1
  dsimp only
  omega

theorem Unspent.replace (h : s.Unspent) (hashes : List String)
    : (s.recoveryCodesReplace hashes).Unspent where
  single := h.single
  unused := by
    intro row hrow _ hmarked
    have := (mem_issued hrow).1
    have := h.marked hmarked
    omega
  codes := fun hrow => (mem_issued hrow).2
  marked := by
    intro id hid
    have := h.marked hid
    change id < s.nextId + hashes.length
    omega

theorem Unspent.drop (h : s.Unspent) : s.totpDisable.Unspent where
  single := h.single
  unused := by simp [Account.totpDisable]
  codes := by simp [Account.totpDisable]
  marked := h.marked

theorem mem_markUsed {id : Nat} {row : RecoveryCode} (h : row ∈ (s.recoveryCodeMarkUsed id).codes)
    : ∃ old ∈ s.codes, row.id = old.id ∧ (row.used = false → old.used = false ∧ row.id ≠ id) := by
  unfold Account.recoveryCodeMarkUsed at h
  rw [List.mem_map] at h
  rcases h with ⟨old, hold, rfl⟩
  split
  . exact ⟨old, hold, rfl, by simp⟩
  . next hne => exact ⟨old, hold, rfl, fun hunused => ⟨hunused, hne⟩⟩

theorem Unspent.markUsed (h : s.Unspent) {id : Nat} (hfresh : id ∉ s.marked) (hid : id < s.nextId)
    : (s.recoveryCodeMarkUsed id).Unspent where
  single := by
    change (s.marked ++ [id]).Nodup
    rw [List.nodup_append]
    refine ⟨h.single, List.nodup_singleton _, ?_⟩
    intro other hother last hlast heq
    rw [List.mem_singleton] at hlast
    rw [heq, hlast] at hother
    exact hfresh hother
  unused := by
    intro row hrow hunused hmarked
    rcases mem_markUsed hrow with ⟨old, hold, hid, himp⟩
    rcases himp hunused with ⟨holdUnused, hne⟩
    rcases List.mem_append.mp hmarked with hmarked | hmarked
    . rw [hid] at hmarked
      exact h.unused hold holdUnused hmarked
    . rw [List.mem_singleton] at hmarked
      exact hne hmarked
  codes := by
    intro row hrow
    rcases mem_markUsed hrow with ⟨old, hold, heq, _⟩
    rw [heq]
    exact h.codes hold
  marked := by
    intro other hother
    rcases List.mem_append.mp hother with hother | hother
    . exact h.marked hother
    . rw [List.mem_singleton] at hother
      rw [hother]
      exact hid

theorem Spends.grow {s' : Account} (h : Spends s r a s')
    : s.nextId ≤ s'.nextId ∧ s.marked <+: s'.marked := by
  cases h with
  | same hcodes hid hmarked =>
    rw [hid, hmarked]
    exact ⟨Nat.le_refl _, List.prefix_refl _⟩
  | replace heq =>
    rw [heq]
    exact ⟨Nat.le_add_right _ _, List.prefix_refl _⟩
  | mark row since hphase hfails heq =>
    rw [heq]
    exact ⟨Nat.le_refl _, List.prefix_append _ _⟩
  | drop heq =>
    rw [heq]
    exact ⟨Nat.le_refl _, List.prefix_refl _⟩

theorem Read.grow {s' : Account} (h : Read s r) (hid : s.nextId ≤ s'.nextId)
    (hmarked : s.marked <+: s'.marked) : Read s' r := by
  intro entry hentry
  rcases h entry hentry with ⟨hle, hfresh, hlt⟩
  rcases hmarked with ⟨more, hmore⟩
  have hlength : s.marked.length ≤ s'.marked.length := by
    rw [← hmore, List.length_append]
    omega
  refine ⟨by omega, ?_, by omega⟩
  rw [← hmore, List.take_append_of_le_length hle]
  exact hfresh

theorem not_marked {entry : RecoveryCode × Nat} (hread : entry.1.id ∉ s.marked.take entry.2)
    (halone : entry.1.id ∉ s.marked.drop entry.2) : entry.1.id ∉ s.marked := by
  rw [← List.take_append_drop entry.2 s.marked, List.mem_append]
  exact not_or.mpr ⟨hread, halone⟩

theorem act_marked {entry : RecoveryCode × Nat} (hphase : r.phase.marking = some entry)
    (hfails : a.fails = false)
    : (act verify verifyDashboardPassword s r a).1 = s.recoveryCodeMarkUsed entry.1.id := by
  unfold Phase.marking at hphase
  split at hphase
  . next row code since hmark =>
    cases hphase
    unfold act
    rw [hmark]
    simp only [hfails, Bool.false_eq_true, if_false]
    split
    . rfl
    . rfl
  . cases hphase

theorem stable_unspent
    : Stable (program verify verifyDashboardPassword) Alone Account.Unspent Read where
  starts := fun {_ r} _ hphase => Read.of_phase (by rw [show r.phase = .received from hphase]; rfl)
  own := by
    intro s r a hunspent hread halone
    change (act verify verifyDashboardPassword s r a).1.Unspent
      ∧ Read (act verify verifyDashboardPassword s r a).1 (act verify verifyDashboardPassword s r a).2
    constructor
    . cases @act_spends verify verifyDashboardPassword s r a with
      | same hcodes hid hmarked =>
        constructor
        . rw [hmarked]
          exact hunspent.single
        . rw [hcodes, hmarked]
          exact hunspent.unused
        . rw [hcodes, hid]
          exact hunspent.codes
        . rw [hmarked, hid]
          exact hunspent.marked
      | replace heq =>
        rw [heq]
        exact Unspent.replace hunspent _
      | mark row since hphase hfails heq =>
        rw [heq]
        have hread := hread (row, since) hphase
        exact Unspent.markUsed hunspent
          (@not_marked _ (row, since) hread.2.1 (halone (row, since) hphase hfails)) hread.2.2
      | drop heq =>
        rw [heq]
        exact Unspent.drop hunspent
    . rcases @act_marking verify verifyDashboardPassword s r a hunspent with
        hnone | ⟨row, hphase, hsame, hfresh, hlt⟩
      . exact .of_phase hnone
      . intro entry hentry
        rw [hphase] at hentry
        cases hentry
        rw [hsame, List.take_length]
        exact ⟨Nat.le_refl _, hfresh, hlt⟩
  others := by
    intro s t r a _ ht _ _
    have hgrow := (@act_spends verify verifyDashboardPassword s r a).grow
    exact ht.grow hgrow.1 hgrow.2

/--
No code authorises two requests, all along a run, if and only if every request that marks one does so
before any other request has marked it since it was read.
-/
theorem single_use_iff {s : Account} (hmarked : s.marked = []) (hcodes : ∀ row ∈ s.codes, row.id < s.nextId)
    {events : List (Event Request Answer)}
    (hrun : (program verify verifyDashboardPassword).Admits (fun _ _ _ => True)
      { shared := s, threads := [] } events)
    : (∀ n, ((program verify verifyDashboardPassword).exec { shared := s, threads := [] }
        (events.take n)).shared.marked.Nodup)
      ↔ (program verify verifyDashboardPassword).Admits Alone { shared := s, threads := [] } events := by
  have hunspent : s.Unspent := by
    refine ⟨?_, ?_, fun {row} => hcodes row, ?_⟩ <;> simp [hmarked]
  refine @Stable.always_iff _ _ _ _ _ _ _ _ _ (fun s : Account => s.marked.Nodup) stable_unspent
    (fun h => h.single) ?_ (.init hunspent) _ hrun
  intro s r a _ _ _ hshared hnodup
  simp only [Alone, not_forall] at hshared
  rcases hshared with ⟨entry, hentry, hfails, hmem⟩
  rw [not_not] at hmem
  have hact : (act verify verifyDashboardPassword s r a).1.marked = s.marked ++ [entry.1.id] := by
    rw [act_marked hentry hfails]
    rfl
  change (act verify verifyDashboardPassword s r a).1.marked.Nodup at hnodup
  rw [hact, List.nodup_append] at hnodup
  exact hnodup.2.2 _ (List.mem_of_mem_drop hmem) _ (List.mem_singleton_self _) rfl

def spent : RecoveryCode :=
  { id := 0, codeHash := "$argon2id$v=19$m=19456,t=2,p=1$", used := false }

-- The stored hash is one of this code only.
def verifySpent (hash code : String) : Bool :=
  hash = spent.codeHash && code = "k7mq-2fzx"

def enabled : Account :=
  {
    totpSecret := some "GEZDGNBVGY3TQOJQGEZDGNBVGY3TQOJQ"
    totpEnabled := true
    codes := [spent]
    nextId := 1
    verified := ["GEZDGNBVGY3TQOJQGEZDGNBVGY3TQOJQ"]
    marked := []
  }

-- Two logins read the unused codes before one of them marks the code that both were given.
def logins : List (Event Request Answer) :=
  [
    .start { body := .login (some "k7mq-2fzx"), phase := .received },
    .start { body := .login (some "k7mq-2fzx"), phase := .received },
    .move 0 answer, .move 1 answer, .move 0 answer, .move 1 answer, .move 0 answer, .move 1 answer
  ]

theorem logins_spend_twice
    : ¬∀ (s : Account) (events : List (Event Request Answer)), s.marked = [] →
        (∀ row ∈ s.codes, row.id < s.nextId) →
        (program verifyFirst verifySpent).Admits (fun _ _ _ => True)
          { shared := s, threads := [] } events →
        ((program verifyFirst verifySpent).exec { shared := s, threads := [] }
          events).shared.marked.Nodup := by
  intro h
  exact absurd (h enabled logins rfl (by decide) (by decide)) (by decide)

theorem single_use_iff_logins
    : ¬(program verifyFirst verifySpent).Admits Alone
        { shared := enabled, threads := [] } logins := by
  intro halone
  exact absurd ((single_use_iff rfl (by decide) (by decide)).mpr halone 8) (by decide)

end Request

end TwoFactor

end Vantyr
