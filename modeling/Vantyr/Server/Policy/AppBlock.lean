import Vantyr.Data.Runs
import Vantyr.Data.Text
import Vantyr.Server.Policy.Rules

/-!
This module contains the rules that block applications: the requests that create, change and delete them
(`server/src/policy/app_block/api.rs` and `db/rules.rs`), and the agent that matches the names of
programs with them (`agent/src/policy/app_block/mod.rs`). The main result is that no rule matches a
protected program as long as a rule that is switched to the match mode `contains` without a new pattern
has a pattern that would pass the check in this mode.
-/

namespace Vantyr

namespace AppBlock

open Policy

def protectedExes : List String :=
  [ "explorer.exe", "winlogon.exe", "lsass.exe", "csrss.exe", "svchost.exe", "services.exe",
    "wininit.exe", "smss.exe", "dwm.exe", "taskmgr.exe", "conhost.exe", "spoolsv.exe", "audiodg.exe",
    "ntoskrnl.exe", "system", "registry", "vantyr-agent.exe", "vantyr-agent" ]

structure Rule where
  id : Nat
  name : String
  exePattern : String
  matchMode : String
  enabled : Bool
  scopes : List RuleScope
  schedules : List RuleSchedule
  deriving DecidableEq, Repr

structure Database where
  rules : List Rule
  nextId : Nat
  deriving DecidableEq, Repr

structure CreateBody where
  name : String := ""
  exePattern : String
  matchMode : String := "contains"
  scopes : List RuleScope
  schedules : List RuleSchedule := []

structure UpdateBody where
  enabled : Option Bool := none
  name : Option String := none
  exePattern : Option String := none
  matchMode : Option String := none
  scopes : Option (List RuleScope) := none
  schedules : Option (List RuleSchedule) := none

structure UpdateOpts where
  name : Option String
  exePattern : Option String
  matchMode : Option String
  enabled : Option Bool
  scopes : Option (List RuleScope)
  schedules : Option (List RuleSchedule)

inductive Response where
  | created (id : Nat)
  | ok
  | badRequest (message : String)
  | unprocessableEntity (message : String)
  | notFound (message : String)
  | internalError
  deriving DecidableEq, Repr

def normalizeMode (matchMode : String) : String :=
  if matchMode = "exact" then "exact" else "contains"

-- The checks of the tables.
def checks (scopes : List RuleScope) (schedules : List RuleSchedule) : Bool :=
  scopes.all RuleScope.check && schedules.all RuleSchedule.check

namespace Database

def create (db : Database) (name exePattern matchMode : String) (scopes : List RuleScope)
    (schedules : List RuleSchedule) : Database where
  rules := db.rules ++ [{ id := db.nextId, name, exePattern, matchMode, enabled := true, scopes, schedules }]
  nextId := db.nextId + 1

def hasRule (db : Database) (id : Nat) : Bool :=
  db.rules.any (fun rule => rule.id = id)

end Database

-- `COALESCE` of what was sent and what is stored.
def UpdateOpts.merge (opts : UpdateOpts) (rule : Rule) : Rule where
  id := rule.id
  name := opts.name.getD rule.name
  exePattern := opts.exePattern.getD rule.exePattern
  matchMode := opts.matchMode.getD rule.matchMode
  enabled := opts.enabled.getD rule.enabled
  scopes := opts.scopes.getD rule.scopes
  schedules := opts.schedules.getD rule.schedules

def UpdateOpts.checks (opts : UpdateOpts) : Bool :=
  AppBlock.checks (opts.scopes.getD []) (opts.schedules.getD [])

namespace Database

def update (db : Database) (id : Nat) (opts : UpdateOpts) : Database :=
  { db with rules := db.rules.map (fun rule => if rule.id = id then opts.merge rule else rule) }

def delete (db : Database) (id : Nat) : Database :=
  { db with rules := db.rules.filter (fun rule => rule.id ≠ id) }

end Database

def UpdateBody.opts (body : UpdateBody) : UpdateOpts where
  name := body.name
  exePattern := (body.exePattern.map Text.trim).filter (fun pattern => pattern ≠ "")
  matchMode := body.matchMode.map normalizeMode
  enabled := body.enabled
  scopes := body.scopes
  schedules := body.schedules

def protectedMessage (hit : String) : Response :=
  .unprocessableEntity ("'" ++ hit ++ "' is a protected system process and cannot be blocked.")

-- `str::to_lowercase`
variable (toLowercase : String → String)

def protects (matchMode pattern exe : String) : Bool :=
  if matchMode = "exact" then pattern = exe else Text.contains exe pattern

def checkProtected (exePattern matchMode : String) : Option String :=
  protectedExes.find? (protects matchMode (toLowercase (Text.trim exePattern)))

-- `fails` tells that a statement fails in the database.
def appBlockRulesCreate (db : Database) (body : CreateBody) (fails : Bool) : Response × Database :=
  if Text.trim body.exePattern = "" then
    (.badRequest "exe_pattern is required", db)
  else
    let matchMode := normalizeMode body.matchMode
    match checkProtected toLowercase (Text.trim body.exePattern) matchMode with
    | some hit => (protectedMessage hit, db)
    | none =>
      if fails ∨ !checks body.scopes body.schedules then
        (.internalError, db)
      else
        let created :=
          db.create body.name (Text.trim body.exePattern) matchMode body.scopes body.schedules
        (.created db.nextId, created)

-- A pattern that is sent is checked with the mode that is sent, or the default one.
def UpdateBody.hit (body : UpdateBody) : Option String :=
  body.exePattern.bind (fun pattern =>
    checkProtected toLowercase (Text.trim pattern) (body.opts.matchMode.getD "contains"))

def appBlockRulesUpdate (db : Database) (id : Nat) (body : UpdateBody) (fails : Bool)
    : Response × Database :=
  match body.hit toLowercase with
  | some hit => (protectedMessage hit, db)
  | none =>
    if fails then
      (.internalError, db)
    else if !db.hasRule id then
      (.notFound "Not found", db)
    else if !body.opts.checks then
      (.internalError, db)
    else
      (.ok, db.update id body.opts)

def appBlockRulesDelete (db : Database) (id : Nat) (fails : Bool) : Response × Database :=
  if fails then
    (.internalError, db)
  else if !db.hasRule id then
    (.notFound "Not found", db)
  else
    (.ok, db.delete id)

inductive Request where
  | create (body : CreateBody) (fails : Bool)
  | update (id : Nat) (body : UpdateBody) (fails : Bool)
  | delete (id : Nat) (fails : Bool)

def handle (db : Database) : Request → Response × Database
  | .create body fails => appBlockRulesCreate toLowercase db body fails
  | .update id body fails => appBlockRulesUpdate toLowercase db id body fails
  | .delete id fails => appBlockRulesDelete db id fails

def step (db : Database) (r : Request) : Database :=
  (handle toLowercase db r).2

def emptyDatabase : Database where
  rules := []
  nextId := 1

/-!
The agent reads the rules back.
-/

inductive MatchMode where
  | exact
  | contains
  deriving DecidableEq, Repr

def MatchMode.ofName : String → Option MatchMode
  | "exact" => some .exact
  | "contains" => some .contains
  | _ => none

structure BlockRule where
  id : Nat
  exePattern : String
  matchMode : MatchMode
  deriving DecidableEq, Repr

-- A rule that does not deserialize is dropped.
def Rule.toBlockRule (rule : Rule) : Option BlockRule :=
  (MatchMode.ofName rule.matchMode).map (fun matchMode =>
    { id := rule.id, exePattern := rule.exePattern, matchMode })

def BlockRule.matches_ (rule : BlockRule) (exe : String) : Bool :=
  let exeLower := toLowercase exe
  let pat := toLowercase rule.exePattern
  match rule.matchMode with
  | .exact => exeLower = pat
  | .contains => Text.contains exeLower pat

-- No stored rule matches the name of a protected program, in any letter case.
def NeverBlocked (db : Database) : Prop :=
  ∀ rule ∈ db.rules, ∀ b ∈ rule.toBlockRule, ∀ exe, toLowercase exe ∈ protectedExes →
    b.matches_ toLowercase exe = false

/--
A rule that is switched to the mode `contains` without a new pattern has one that the check accepts in
this mode. A request that the database refuses switches nothing.
-/
def Rechecked (db : Database) : Request → Prop
  | .update id body fails =>
    body.exePattern = none → body.matchMode.map normalizeMode = some "contains" → fails = false →
      body.opts.checks = true → ∀ rule ∈ db.rules, rule.id = id →
        checkProtected toLowercase rule.exePattern "contains" = none
  | _ => True

/-!
The check of the server and the match of the agent.
-/

variable {toLowercase}

theorem checkProtected_none {pattern matchMode : String}
    : checkProtected toLowercase pattern matchMode = none
      ↔ ∀ p ∈ protectedExes, protects matchMode (toLowercase (Text.trim pattern)) p = false := by
  simp [checkProtected]

-- What contains no protected name in it is no protected name.
theorem checkProtected_exact {pattern : String} (h : checkProtected toLowercase pattern "contains" = none)
    : checkProtected toLowercase pattern "exact" = none := by
  rw [checkProtected_none] at h ⊢
  intro p hp
  have hcontains := h p hp
  by_contra hexact
  have heq : toLowercase (Text.trim pattern) = p := by
    simpa [protects] using hexact
  rw [heq] at hcontains
  simp [protects, Text.contains_self] at hcontains

theorem normalizeMode_cases (matchMode : String)
    : normalizeMode matchMode = "exact" ∨ normalizeMode matchMode = "contains" := by
  unfold normalizeMode
  split
  . exact Or.inl rfl
  . exact Or.inr rfl

-- What the requests ensure of a stored rule.
structure Rule.Checked (toLowercase : String → String) (rule : Rule) : Prop where
  mode : rule.matchMode = "exact" ∨ rule.matchMode = "contains"
  trimmed : Text.trim rule.exePattern = rule.exePattern
  passes : checkProtected toLowercase rule.exePattern rule.matchMode = none

theorem Rule.Checked.exact {rule : Rule} (h : rule.Checked toLowercase)
    : checkProtected toLowercase rule.exePattern "exact" = none := by
  rcases h.mode with hmode | hmode
  . rw [← hmode]
    exact h.passes
  . apply checkProtected_exact
    rw [← hmode]
    exact h.passes

theorem Rule.Checked.not_matches {rule : Rule} (h : rule.Checked toLowercase) {b : BlockRule}
    (hb : b ∈ rule.toBlockRule) {exe : String} (hexe : toLowercase exe ∈ protectedExes)
    : b.matches_ toLowercase exe = false := by
  have hpasses := checkProtected_none.mp h.passes _ hexe
  rw [h.trimmed] at hpasses
  rcases h.mode with hmode | hmode
  . rw [Rule.toBlockRule, hmode] at hb
    cases hb
    rw [hmode] at hpasses
    have hne : toLowercase rule.exePattern ≠ toLowercase exe := by
      simpa [protects] using hpasses
    simpa [BlockRule.matches_] using hne.symm
  . rw [Rule.toBlockRule, hmode] at hb
    cases hb
    rw [hmode] at hpasses
    simpa [protects, BlockRule.matches_] using hpasses

/-!
What an update makes of a rule.
-/

-- The pattern that an update stores has passed the check with the mode of the request.
theorem UpdateBody.stored {body : UpdateBody} (hhit : body.hit toLowercase = none) {pattern : String}
    (hpattern : body.opts.exePattern = some pattern)
    : Text.trim pattern = pattern
      ∧ checkProtected toLowercase pattern (body.opts.matchMode.getD "contains") = none := by
  rcases Option.filter_eq_some_iff.mp hpattern with ⟨hmap, _⟩
  rcases Option.map_eq_some_iff.mp hmap with ⟨sent, hsent, rfl⟩
  rw [UpdateBody.hit, hsent] at hhit
  exact ⟨Text.trim_trim sent, hhit⟩

theorem UpdateBody.mode_cases (body : UpdateBody)
    : body.opts.matchMode = none ∨ body.opts.matchMode = some "exact"
      ∨ body.opts.matchMode = some "contains" := by
  cases hmode : body.matchMode with
  | none => simp [UpdateBody.opts, hmode]
  | some matchMode =>
    rcases normalizeMode_cases matchMode with h | h
    . simp [UpdateBody.opts, hmode, h]
    . simp [UpdateBody.opts, hmode, h]

-- A blank pattern is refused in the mode `contains`.
theorem UpdateBody.not_blank (hempty : toLowercase "" = "") {body : UpdateBody}
    (hhit : body.hit toLowercase = none) (hmode : body.opts.matchMode = some "contains")
    (hpattern : body.opts.exePattern = none) : body.exePattern = none := by
  cases hsent : body.exePattern with
  | none => rfl
  | some sent =>
    have hblank : Text.trim sent = "" := by
      simpa [UpdateBody.opts, hsent] using hpattern
    rw [UpdateBody.hit, hsent, Option.bind_some, hmode, hblank, Option.getD_some, checkProtected_none]
      at hhit
    have hsystem := hhit "system" (by decide)
    have htrim : Text.trim "" = "" := by decide +kernel
    rw [htrim, hempty] at hsystem
    simp [protects, Text.contains_empty] at hsystem

theorem UpdateOpts.merge_checked {body : UpdateBody} {rule : Rule} (h : rule.Checked toLowercase)
    (hhit : body.hit toLowercase = none)
    (hswitch : body.opts.exePattern = none → body.opts.matchMode = some "contains"
      → checkProtected toLowercase rule.exePattern "contains" = none)
    : (body.opts.merge rule).Checked toLowercase := by
  have hmode : (body.opts.merge rule).matchMode = body.opts.matchMode.getD rule.matchMode := rfl
  have hpattern : (body.opts.merge rule).exePattern = body.opts.exePattern.getD rule.exePattern := rfl
  cases hstored : body.opts.exePattern with
  | none =>
    rw [hstored, Option.getD_none] at hpattern
    rcases body.mode_cases with hm | hm | hm
    . rw [hm, Option.getD_none] at hmode
      exact ⟨by rw [hmode]; exact h.mode, by rw [hpattern]; exact h.trimmed,
        by rw [hmode, hpattern]; exact h.passes⟩
    . rw [hm, Option.getD_some] at hmode
      exact ⟨Or.inl hmode, by rw [hpattern]; exact h.trimmed, by rw [hmode, hpattern]; exact h.exact⟩
    . rw [hm, Option.getD_some] at hmode
      exact ⟨Or.inr hmode, by rw [hpattern]; exact h.trimmed,
        by rw [hmode, hpattern]; exact hswitch hstored hm⟩
  | some pattern =>
    rw [hstored, Option.getD_some] at hpattern
    rcases UpdateBody.stored hhit hstored with ⟨htrimmed, hpasses⟩
    rcases body.mode_cases with hm | hm | hm
    . rw [hm, Option.getD_none] at hmode hpasses
      refine ⟨by rw [hmode]; exact h.mode, by rw [hpattern]; exact htrimmed, ?_⟩
      rw [hmode, hpattern]
      rcases h.mode with hold | hold
      . rw [hold]
        exact checkProtected_exact hpasses
      . rw [hold]
        exact hpasses
    . rw [hm, Option.getD_some] at hmode hpasses
      exact ⟨Or.inl hmode, by rw [hpattern]; exact htrimmed, by rw [hmode, hpattern]; exact hpasses⟩
    . rw [hm, Option.getD_some] at hmode hpasses
      exact ⟨Or.inr hmode, by rw [hpattern]; exact htrimmed, by rw [hmode, hpattern]; exact hpasses⟩

/-!
The steps of the server.
-/

def AllChecked (toLowercase : String → String) (db : Database) : Prop :=
  ∀ rule ∈ db.rules, rule.Checked toLowercase

theorem AllChecked.neverBlocked {db : Database} (h : AllChecked toLowercase db)
    : NeverBlocked toLowercase db := by
  intro rule hrule b hb exe hexe
  exact (h rule hrule).not_matches hb hexe

theorem AllChecked.create {db : Database} (h : AllChecked toLowercase db) (body : CreateBody) (fails : Bool)
    : AllChecked toLowercase (appBlockRulesCreate toLowercase db body fails).2 := by
  unfold appBlockRulesCreate
  split
  . exact h
  . dsimp only
    split
    . exact h
    . next hpasses =>
      split
      . exact h
      . intro rule hrule
        rcases List.mem_append.mp hrule with hrule | hrule
        . exact h rule hrule
        . cases List.mem_singleton.mp hrule
          exact ⟨normalizeMode_cases body.matchMode, Text.trim_trim _, hpasses⟩

theorem AllChecked.update (hempty : toLowercase "" = "") {db : Database} (h : AllChecked toLowercase db)
    {id : Nat} {body : UpdateBody} {fails : Bool}
    (hrechecked : Rechecked toLowercase db (.update id body fails))
    : AllChecked toLowercase (appBlockRulesUpdate toLowercase db id body fails).2 := by
  unfold appBlockRulesUpdate
  split
  . exact h
  . next hhit =>
    split
    . exact h
    . next hfails =>
      split
      . exact h
      . split
        . exact h
        . next hchecks =>
          intro rule hrule
          rcases List.mem_map.mp hrule with ⟨old, hold, rfl⟩
          split
          . next hid =>
            apply UpdateOpts.merge_checked (h old hold) hhit
            intro hpattern hmode
            have hsent := UpdateBody.not_blank hempty hhit hmode hpattern
            rw [Bool.not_eq_true] at hfails
            rw [Bool.not_eq_eq_eq_not, Bool.not_true, Bool.not_eq_false] at hchecks
            exact hrechecked hsent hmode hfails hchecks old hold hid
          . exact h old hold

theorem AllChecked.delete {db : Database} (h : AllChecked toLowercase db) (id : Nat) (fails : Bool)
    : AllChecked toLowercase (appBlockRulesDelete db id fails).2 := by
  unfold appBlockRulesDelete
  split
  . exact h
  . split
    . exact h
    . intro rule hrule
      exact h rule (List.mem_of_mem_filter hrule)

theorem AllChecked.step (hempty : toLowercase "" = "") {db : Database} (h : AllChecked toLowercase db)
    {r : Request} (hrechecked : Rechecked toLowercase db r)
    : AllChecked toLowercase (step toLowercase db r) :=
  match r with
  | .create body fails => h.create body fails
  | .update _ _ _ => h.update hempty hrechecked
  | .delete id fails => h.delete id fails

theorem protectedExes_ascii
    : ∀ p ∈ protectedExes, (∀ c ∈ p.toList, c.toNat < 128) ∧ Text.toAsciiLowercase p = p := by
  intro p hp
  constructor
  -- `List.all` runs over the characters of a name only.
  . have hall : protectedExes.all (fun q => q.toList.all fun c => decide (c.toNat < 128)) = true := by
      decide +kernel
    simpa using List.all_eq_true.mp hall p hp
  . have hlower : ∀ q ∈ protectedExes, Text.toAsciiLowercase q = q := by decide +kernel
    exact hlower p hp

-- Otherwise the rule that is switched matches the name that the check would have found.
theorem not_neverBlocked_of_switch
    (hascii : ∀ text : String,
      (∀ c ∈ text.toList, c.toNat < 128) → toLowercase text = Text.toAsciiLowercase text)
    {db : Database} (h : AllChecked toLowercase db) {r : Request} (hnot : ¬Rechecked toLowercase db r)
    : ¬NeverBlocked toLowercase (step toLowercase db r) := by
  cases r with
  | create body fails => exact absurd trivial hnot
  | delete id fails => exact absurd trivial hnot
  | update id body fails =>
    simp only [Rechecked, not_forall] at hnot
    rcases hnot with ⟨hsent, hmode, hfails, hchecks, rule, hrule, hid, hhit⟩
    have hexists : db.hasRule id = true := by
      rw [Database.hasRule, List.any_eq_true]
      exact ⟨rule, hrule, decide_eq_true hid⟩
    have hstep : step toLowercase db (.update id body fails) = db.update id body.opts := by
      have hnohit : body.hit toLowercase = none := by
        rw [UpdateBody.hit, hsent, Option.bind_none]
      simp [step, handle, appBlockRulesUpdate, hnohit, hfails, hexists, hchecks]
    rcases Option.ne_none_iff_exists'.mp hhit with ⟨p, hp⟩
    have hmem := List.mem_of_find?_eq_some hp
    have hfound := List.find?_some hp
    rw [(h rule hrule).trimmed] at hfound
    have hlower : toLowercase p = p := by
      rw [hascii p (protectedExes_ascii p hmem).1]
      exact (protectedExes_ascii p hmem).2
    have hupdated : body.opts.merge rule ∈ (db.update id body.opts).rules :=
      List.mem_map.mpr ⟨rule, hrule, if_pos hid⟩
    have hblock : { id := rule.id, exePattern := rule.exePattern, matchMode := .contains }
        ∈ (body.opts.merge rule).toBlockRule := by
      have hcontains : (body.opts.merge rule).matchMode = "contains" := by
        change body.opts.matchMode.getD rule.matchMode = "contains"
        rw [show body.opts.matchMode = some "contains" from hmode, Option.getD_some]
      have hpattern : (body.opts.merge rule).exePattern = rule.exePattern := by
        change body.opts.exePattern.getD rule.exePattern = rule.exePattern
        simp [UpdateBody.opts, hsent]
      rw [Rule.toBlockRule, hcontains, hpattern]
      rfl
    intro hnever
    rw [hstep] at hnever
    have hfalse := hnever _ hupdated _ hblock p (by rw [hlower]; exact hmem)
    have htrue : Text.contains p (toLowercase rule.exePattern) = true := by
      simpa [protects] using hfound
    rw [BlockRule.matches_] at hfalse
    dsimp only at hfalse
    rw [hlower, htrue] at hfalse
    cases hfalse

/--
The stored rules never match a protected program if and only if no rule is switched to the mode
`contains` that has a pattern the check refuses in this mode.
-/
theorem neverBlocked_iff
    (hascii : ∀ text : String,
      (∀ c ∈ text.toList, c.toNat < 128) → toLowercase text = Text.toAsciiLowercase text)
    (requests : List Request)
    : (∀ n, NeverBlocked toLowercase (Runs.exec (step toLowercase) emptyDatabase (requests.take n)))
      ↔ Runs.Admits (step toLowercase) (Rechecked toLowercase) emptyDatabase requests := by
  have hempty : toLowercase "" = "" := by
    rw [hascii "" (by simp)]
    rfl
  apply Runs.always_iff (I := AllChecked toLowercase)
  . intro db r h hrechecked
    exact h.step hempty hrechecked
  . intro db h
    exact h.neverBlocked
  . intro db r h hnot
    exact not_neverBlocked_of_switch hascii h hnot
  . intro rule hrule
    cases hrule

-- The rule for the program `sys` is harmless until it is switched to the other mode.
def switched : List Request :=
  [
    .create { exePattern := "sys", matchMode := "exact", scopes := [⟨"all", none, none⟩] } false,
    .update 1 { matchMode := some "contains" } false
  ]

theorem switched_blocks_system
    : ¬NeverBlocked Text.toAsciiLowercase
        (Runs.exec (step Text.toAsciiLowercase) emptyDatabase switched) := by
  intro h
  have hrule : Rule.mk 1 "" "sys" "contains" true [⟨"all", none, none⟩] []
      ∈ (Runs.exec (step Text.toAsciiLowercase) emptyDatabase switched).rules := by
    decide +kernel
  exact absurd (h _ hrule _ rfl "System" (by decide +kernel)) (by decide +kernel)

theorem neverBlocked_iff_switched
    : ¬Runs.Admits (step Text.toAsciiLowercase) (Rechecked Text.toAsciiLowercase) emptyDatabase
        switched := by
  intro hadmits
  exact switched_blocks_system ((neverBlocked_iff (fun _ _ => rfl) switched).mpr hadmits 2)

end AppBlock

end Vantyr
