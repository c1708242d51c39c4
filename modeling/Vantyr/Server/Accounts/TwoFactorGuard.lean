import Vantyr.Server.Accounts.TwoFactor

/-!
This module contains what guards the second factor of a user against requests that overlap: a request
that sets it up resets the row without asking for a code, and one that enables it relies on a secret it
read before. As long as neither meets a row that has changed, the second factor is turned off by a code
only, and its secret is one that a code was verified for.
-/

namespace Vantyr

namespace TwoFactor

open Interleaving

def Account.Guarded (s : Account) : Prop :=
  s.totpEnabled = true → ∃ secret ∈ s.verified, s.totpSecret = some secret

-- The secret that the code was verified for.
def Phase.enabling : Phase → Option String
  | .enable secret => some secret
  | _ => none

namespace Request

/--
The second factor is not set up while it is enabled, and it is enabled with the secret that the code was
verified for.
-/
structure Undisturbed (s : Account) (r : Request) (a : Answer) : Prop where
  setup : r.phase = .received → r.body = .setup → a.fails = false → s.totpEnabled = false
  enable : ∀ secret ∈ r.phase.enabling, a.fails = false → s.totpSecret = some secret

instance (s : Account) (r : Request) (a : Answer) : Decidable (Undisturbed s r a) :=
  decidable_of_iff
    ((r.phase = .received → r.body = .setup → a.fails = false → s.totpEnabled = false)
      ∧ ∀ secret ∈ r.phase.enabling, a.fails = false → s.totpSecret = some secret)
    ⟨fun h => ⟨h.1, h.2⟩, fun h => ⟨h.setup, h.enable⟩⟩

variable {verify : String → String → Nat → Bool} {verifyDashboardPassword : String → String → Bool}

-- What a request has found out so far.
structure Informed (verify : String → String → Nat → Bool)
    (verifyDashboardPassword : String → String → Bool) (s : Account) (r : Request) : Prop where
  enable : ∀ {secret}, r.phase = .enable secret → secret ∈ s.verified
  readCodes : ∀ {code given}, r.phase = .readCodes code → r.body = .disable given →
    code = Text.trim given
  mark : ∀ {row code since}, r.phase = .mark row code since →
    row.used = false ∧ verifyDashboardPassword row.codeHash code = true
      ∧ ∀ given, r.body = .disable given → code = Text.trim given
  drop : ∀ {proof}, r.phase = .drop proof →
    proof.Valid verify verifyDashboardPassword
      ∧ ∃ given, r.body = .disable given ∧ proof.code = Text.trim given

variable {s : Account} {r : Request} {a : Answer}

theorem Informed.done {response : Response} (h : r.phase = .done response)
    : Informed verify verifyDashboardPassword s r := by
  constructor <;> simp [h]

theorem Informed.received (h : r.phase = .received) : Informed verify verifyDashboardPassword s r := by
  constructor <;> simp [h]

theorem Informed.refuse (s : Account) (r : Request)
    : Informed verify verifyDashboardPassword s r.refuse := by
  unfold Request.refuse
  split
  . exact .done rfl
  . exact .done rfl

theorem Informed.weaken {s' : Account} (h : Informed verify verifyDashboardPassword s r)
    (hverified : s.verified ⊆ s'.verified) : Informed verify verifyDashboardPassword s' r where
  enable := fun hphase => hverified (h.enable hphase)
  readCodes := h.readCodes
  mark := h.mark
  drop := h.drop

theorem totpProof_valid {code : String} {now : Nat} {proof : Proof}
    (h : totpProof verify s code now = some proof)
    : proof.Valid verify verifyDashboardPassword ∧ proof.code = code := by
  unfold totpProof at h
  rw [Option.map_eq_some_iff] at h
  rcases h with ⟨secret, hsecret, rfl⟩
  rw [Option.filter_eq_some_iff] at hsecret
  exact ⟨hsecret.2, rfl⟩

/-!
The steps of the requests.
-/

theorem enable_informed (code : String)
    : s.verified ⊆ (enable verify s r code a).1.verified
      ∧ Informed verify verifyDashboardPassword (enable verify s r code a).1
        (enable verify s r code a).2 := by
  unfold enable
  split
  . exact ⟨List.Subset.refl _, .done rfl⟩
  . split
    . exact ⟨List.Subset.refl _, .done rfl⟩
    . split
      . refine ⟨List.subset_cons_self _ _, ?_⟩
        constructor <;> simp
      . exact ⟨List.Subset.refl _, .refuse s r⟩

theorem disable_informed {code : String} (hbody : r.body = .disable code)
    : (disable verify s r code a).1 = s
      ∧ Informed verify verifyDashboardPassword s (disable verify s r code a).2 := by
  unfold disable
  split
  . exact ⟨rfl, .done rfl⟩
  . split
    . next proof hproof =>
      refine ⟨rfl, ?_⟩
      have hvalid := @totpProof_valid verify verifyDashboardPassword s _ _ _ hproof
      constructor <;> simp [hvalid, hbody]
    . refine ⟨rfl, ?_⟩
      constructor <;> simp [hbody]

theorem login_informed {totpCode : Option String} (hbody : r.body = .login totpCode)
    : (login verify s r totpCode a).1 = s
      ∧ Informed verify verifyDashboardPassword s (login verify s r totpCode a).2 := by
  unfold login
  dsimp only
  split
  . exact ⟨rfl, .done rfl⟩
  . split
    . exact ⟨rfl, .done rfl⟩
    . split
      . exact ⟨rfl, .done rfl⟩
      . refine ⟨rfl, ?_⟩
        constructor <;> simp [hbody]

theorem matching_unused {code : String} {offset : Nat} {row : RecoveryCode}
    (h : matchingRecoveryCode verifyDashboardPassword (s.recoveryCodesUnused.rotate offset) code
      = some row)
    : row ∈ s.codes ∧ row.used = false ∧ verifyDashboardPassword row.codeHash code = true := by
  unfold matchingRecoveryCode at h
  have hmatch := List.find?_some h
  have hmem := List.mem_of_find?_eq_some h
  rw [List.mem_rotate, Account.recoveryCodesUnused, List.mem_filter, Bool.not_eq_true'] at hmem
  exact ⟨hmem.1, hmem.2, hmatch⟩

theorem act_informed (h : Informed verify verifyDashboardPassword s r)
    : s.verified ⊆ (act verify verifyDashboardPassword s r a).1.verified
      ∧ Informed verify verifyDashboardPassword (act verify verifyDashboardPassword s r a).1
        (act verify verifyDashboardPassword s r a).2 := by
  unfold act
  split
  . split
    . exact ⟨List.Subset.refl _, .done rfl⟩
    . split
      . exact ⟨List.Subset.refl _, .done rfl⟩
      . next code _ => exact enable_informed code
      . next code hbody =>
        have hdisable := @disable_informed verify verifyDashboardPassword s r a code hbody
        rw [hdisable.1]
        exact ⟨List.Subset.refl _, hdisable.2⟩
      . next totpCode hbody =>
        have hlogin := @login_informed verify verifyDashboardPassword s r a totpCode hbody
        rw [hlogin.1]
        exact ⟨List.Subset.refl _, hlogin.2⟩
  . split
    . exact ⟨List.Subset.refl _, .done rfl⟩
    . refine ⟨List.Subset.refl _, ?_⟩
      constructor <;> simp
  . split
    . exact ⟨List.Subset.refl _, .done rfl⟩
    . exact ⟨List.Subset.refl _, .done rfl⟩
  . next code hphase =>
    split
    . exact ⟨List.Subset.refl _, .refuse s r⟩
    . split
      . exact ⟨List.Subset.refl _, .refuse s r⟩
      . next row hrow =>
        refine ⟨List.Subset.refl _, ?_⟩
        have hmatching := matching_unused hrow
        have hgiven := fun given => @h.readCodes code given hphase
        constructor
        . simp
        . simp
        . intro row' code' since heq
          cases heq
          exact ⟨hmatching.2.1, hmatching.2.2, hgiven⟩
        . simp
  . next row code since hphase =>
    split
    . exact ⟨List.Subset.refl _, .refuse s r⟩
    . split
      . next given hbody =>
        refine ⟨List.Subset.refl _, ?_⟩
        rcases h.mark hphase with ⟨hunused, hmatches, hcode⟩
        constructor
        . simp
        . simp
        . simp
        . intro proof heq
          cases heq
          exact ⟨⟨hunused, hmatches⟩, given, hbody, hcode given hbody⟩
      . exact ⟨List.Subset.refl _, .done rfl⟩
  . split
    . exact ⟨List.Subset.refl _, .done rfl⟩
    . exact ⟨List.Subset.refl _, .done rfl⟩
  . exact ⟨List.Subset.refl _, h⟩

-- The statements that touch the row of the user.
theorem act_row (s : Account) (r : Request) (a : Answer)
    : ((act verify verifyDashboardPassword s r a).1.totpEnabled = s.totpEnabled
        ∧ (act verify verifyDashboardPassword s r a).1.totpSecret = s.totpSecret)
      ∨ (r.phase = .received ∧ r.body = .setup ∧ a.fails = false
        ∧ (act verify verifyDashboardPassword s r a).1.totpEnabled = false)
      ∨ (∃ secret, r.phase = .enable secret ∧ a.fails = false
        ∧ (act verify verifyDashboardPassword s r a).1 = s.totpEnable)
      ∨ ∃ proof, r.phase = .drop proof
        ∧ (act verify verifyDashboardPassword s r a).1.totpEnabled = false := by
  unfold act
  split
  . next hphase =>
    split
    . exact .inl ⟨rfl, rfl⟩
    . next hfails =>
      split
      . next hbody => exact .inr (.inl ⟨hphase, hbody, Bool.eq_false_of_not_eq_true hfails, rfl⟩)
      . apply Or.inl
        unfold enable
        repeat' split
        all_goals exact ⟨rfl, rfl⟩
      . next code hbody =>
        rw [(@disable_informed verify verifyDashboardPassword s r a code hbody).1]
        exact .inl ⟨rfl, rfl⟩
      . next totpCode hbody =>
        rw [(@login_informed verify verifyDashboardPassword s r a totpCode hbody).1]
        exact .inl ⟨rfl, rfl⟩
  . next secret hphase =>
    split
    . exact .inl ⟨rfl, rfl⟩
    . next hfails =>
      exact .inr (.inr (.inl ⟨secret, hphase, Bool.eq_false_of_not_eq_true hfails, rfl⟩))
  . split
    . exact .inl ⟨rfl, rfl⟩
    . exact .inl ⟨rfl, rfl⟩
  . split
    . exact .inl ⟨rfl, rfl⟩
    . split
      . exact .inl ⟨rfl, rfl⟩
      . exact .inl ⟨rfl, rfl⟩
  . split
    . exact .inl ⟨rfl, rfl⟩
    . split
      . exact .inl ⟨rfl, rfl⟩
      . exact .inl ⟨rfl, rfl⟩
  . next proof hphase =>
    split
    . exact .inl ⟨rfl, rfl⟩
    . exact .inr (.inr (.inr ⟨proof, hphase, rfl⟩))
  . exact .inl ⟨rfl, rfl⟩

theorem stable_guarded : Stable (program verify verifyDashboardPassword) Undisturbed Account.Guarded
    (Informed verify verifyDashboardPassword) where
  starts := fun _ hphase => .received hphase
  own := by
    intro s r a hguarded hinformed hundisturbed
    have hact := @act_informed verify verifyDashboardPassword s r a hinformed
    refine ⟨?_, hact.2⟩
    change (act verify verifyDashboardPassword s r a).1.Guarded
    intro henabled
    rcases @act_row verify verifyDashboardPassword s r a with
      ⟨hsame, hsecret⟩ | ⟨_, _, _, hoff⟩ | ⟨secret, hphase, hfails, heq⟩ | ⟨_, _, hoff⟩
    . rw [hsame] at henabled
      rcases hguarded henabled with ⟨secret, hmem, hstored⟩
      exact ⟨secret, hact.1 hmem, hsecret.trans hstored⟩
    . rw [hoff] at henabled
      cases henabled
    . refine ⟨secret, hact.1 (hinformed.enable hphase), ?_⟩
      rw [heq]
      exact hundisturbed.enable secret (by rw [hphase]; rfl) hfails
    . rw [hoff] at henabled
      cases henabled
  others := fun {_ _ u _} _ ht hu _ =>
    ht.weaken (@act_informed verify verifyDashboardPassword _ u _ hu).1

-- The request that an event moves turns the second factor off, after it has shown a proof.
def ShownBy (verify : String → String → Nat → Bool) (verifyDashboardPassword : String → String → Bool)
    (c : Config Account Request) (event : Event Request Answer) : Prop :=
  ∃ i a r given proof, event = .move i a ∧ c.threads[i]? = some r ∧ r.body = .disable given
    ∧ r.phase = .drop proof ∧ proof.code = Text.trim given ∧ proof.Valid verify verifyDashboardPassword

/--
As long as no request is disturbed, the secret of an enabled second factor is one that a code was
verified for, and a step that turns it off is one of a request to disable it that has shown a code.
-/
theorem guarded_of_undisturbed {s : Account} (hguarded : s.Guarded) {events : List (Event Request Answer)}
    (hrun : (program verify verifyDashboardPassword).Admits Undisturbed { shared := s, threads := [] }
      events)
    : (∀ n, ((program verify verifyDashboardPassword).exec { shared := s, threads := [] }
        (events.take n)).shared.Guarded)
      ∧ ∀ before event after, events = before ++ event :: after →
        let c := (program verify verifyDashboardPassword).exec { shared := s, threads := [] } before
        c.shared.totpEnabled = true →
        ((program verify verifyDashboardPassword).step c event).shared.totpEnabled = false →
        ShownBy verify verifyDashboardPassword c event := by
  have hinit : Holds Account.Guarded (Informed verify verifyDashboardPassword)
      { shared := s, threads := [] } := .init hguarded
  constructor
  . intro n
    rw [← List.take_append_drop n events, Program.Admits.append_iff] at hrun
    exact (stable_guarded.exec hinit hrun.1).shared
  . intro before event after heq c henabled hoff
    rw [heq, Program.Admits.append_iff] at hrun
    have hholds := stable_guarded.exec hinit hrun.1
    have hallows := hrun.2.1
    cases event with
    | start r => exact absurd (henabled.symm.trans hoff) (by decide)
    | move i a =>
      unfold Program.step at hoff
      dsimp only at hoff
      cases ht : c.threads[i]? with
      | none =>
        rw [ht] at hoff
        exact absurd (henabled.symm.trans hoff) (by decide)
      | some r =>
        rw [ht] at hoff
        have hundisturbed : Undisturbed c.shared r a := hallows r ht
        have hinformed := hholds.threads (List.mem_of_getElem? ht)
        rcases @act_row verify verifyDashboardPassword c.shared r a with
          ⟨hsame, _⟩ | ⟨hphase, hbody, hfails, _⟩ | ⟨secret, _, _, hon⟩ | ⟨proof, hphase, _⟩
        . exact absurd ((henabled.symm.trans hsame.symm).trans hoff) (by decide)
        . rw [hundisturbed.setup hphase hbody hfails] at henabled
          cases henabled
        . change (act verify verifyDashboardPassword c.shared r a).1.totpEnabled = false at hoff
          rw [hon] at hoff
          cases hoff
        . rcases hinformed.drop hphase with ⟨hvalid, given, hbody, hcode⟩
          exact ⟨i, a, r, given, proof, rfl, ht, hbody, hphase, hcode, hvalid⟩

-- The first code of a secret of ASCII digits, which is good for two periods of 30 seconds.
def verifyFirst (secret code : String) (now : Nat) : Bool :=
  secret = "GEZDGNBVGY3TQOJQGEZDGNBVGY3TQOJQ" && code = "755224" && now < 60

def answer : Answer :=
  { now := 0, fails := false, secret := "GEZDGNBVGY3TQOJQGEZDGNBVGY3TQOJQ", hashes := [], offset := 0 }

def empty : Account :=
  { totpSecret := none, totpEnabled := false, codes := [], nextId := 0, verified := [], marked := [] }

def enabling : List (Event Request Answer) :=
  [
    .start { body := .setup, phase := .received }, .move 0 answer,
    .start { body := .enable "755224", phase := .received }, .move 1 answer, .move 1 answer
  ]

def disabling : List (Event Request Answer) :=
  enabling ++ [.start { body := .disable " 755224", phase := .received }, .move 2 answer]

theorem guarded_of_undisturbed_disabling
    : ShownBy verifyFirst (fun _ _ => false)
        ((program verifyFirst (fun _ _ => false)).exec { shared := empty, threads := [] } disabling)
        (.move 2 answer) := by
  have hguarded : empty.Guarded := by
    intro h
    cases h
  have hrun : (program verifyFirst (fun _ _ => false)).Admits Undisturbed
      { shared := empty, threads := [] } (disabling ++ [.move 2 answer]) := by
    decide
  exact (guarded_of_undisturbed hguarded hrun).2 disabling _ [] rfl (by decide) (by decide)

-- Without a code, a second setup turns the second factor off.
theorem setup_disables
    : ¬∀ (s : Account) (events : List (Event Request Answer)), s.Guarded →
        (program verifyFirst (fun _ _ => false)).Admits (fun _ _ _ => True)
          { shared := s, threads := [] } events →
        (∀ n, ((program verifyFirst (fun _ _ => false)).exec { shared := s, threads := [] }
          (events.take n)).shared.Guarded)
        ∧ ∀ before event after, events = before ++ event :: after →
          let c := (program verifyFirst (fun _ _ => false)).exec { shared := s, threads := [] } before
          c.shared.totpEnabled = true →
          ((program verifyFirst (fun _ _ => false)).step c event).shared.totpEnabled = false →
          ShownBy verifyFirst (fun _ _ => false) c event := by
  intro h
  have hguarded : empty.Guarded := by
    intro h
    cases h
  have hrun := h empty (enabling ++ [.start { body := .setup, phase := .received }, .move 2 answer])
    hguarded (by decide)
  rcases hrun.2 (enabling ++ [.start { body := .setup, phase := .received }]) (.move 2 answer) [] rfl
    (by decide) (by decide) with ⟨i, a, r, given, proof, hevent, hthread, hbody, _⟩
  cases hevent
  have hsetup : r = { body := .setup, phase := .received } := by
    have hlast : ((program verifyFirst (fun _ _ => false)).exec { shared := empty, threads := [] }
        (enabling ++ [.start { body := .setup, phase := .received }])).threads[2]?
        = some { body := .setup, phase := .received } := by
      decide
    exact Option.some.inj (hthread.symm.trans hlast)
  rw [hsetup] at hbody
  cases hbody

end Request

end TwoFactor

end Vantyr
