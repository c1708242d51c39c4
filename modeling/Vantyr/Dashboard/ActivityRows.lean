import Vantyr.Dashboard.ActivitySessions

/-!
This module contains the rows that a session of the activity is shown as (`buildMergedActivityTimeline` and
`mergeWindowUrlAtSameInstant` in `frontend/src/features/activity/sessionTimeline.ts`): windows, URLs and
alerts, the latest first, where a window and the only URL of the same instant are one row. The parser of
timestamps is a parameter.
-/

namespace Vantyr

namespace Activity

inductive MergedActivityRow where
  | window (time : Int) (window : WindowEvent)
  | url (time : Int) (url : URLEvent)
  | page (time : Int) (window : WindowEvent) (url : URLEvent)
  | alert (time : Int) (alert : SessionAlertEvent)
  deriving DecidableEq, Repr

namespace MergedActivityRow

def time : MergedActivityRow → Int
  | .window t _ | .url t _ | .page t _ _ | .alert t _ => t

-- The alerts of an instant come first, then the windows and then the URLs.
def kindOrder : MergedActivityRow → Int
  | .alert _ _ => 0
  | .window _ _ => 1
  | .url _ _ => 2
  | .page _ _ _ => 1

def rowStableId : MergedActivityRow → Int
  | .window _ w => w.id
  | .url _ u => u.id
  | .page _ w u => w.id * 1000000 + u.id
  | .alert _ ev => ev.id

-- The comparison of `rows.sort`.
def compare (a b : MergedActivityRow) : Int :=
  if a.time ≠ b.time then
    b.time - a.time
  else if a.kindOrder - b.kindOrder ≠ 0 then
    a.kindOrder - b.kindOrder
  else
    b.rowStableId - a.rowStableId

def isAlert : MergedActivityRow → Bool
  | .alert _ _ => true
  | _ => false

def isPage : MergedActivityRow → Bool
  | .page _ _ _ => true
  | _ => false

def windows : MergedActivityRow → List WindowEvent
  | .window _ w | .page _ w _ => [w]
  | _ => []

def urls : MergedActivityRow → List URLEvent
  | .url _ u | .page _ _ u => [u]
  | _ => []

def alerts : MergedActivityRow → List SessionAlertEvent
  | .alert _ ev => [ev]
  | _ => []

-- The rows of one kind in a group.
def window? : MergedActivityRow → Option WindowEvent
  | .window _ w => some w
  | _ => none

def url? : MergedActivityRow → Option URLEvent
  | .url _ u => some u
  | _ => none

end MergedActivityRow

open MergedActivityRow

-- The rows of an instant. The only URL is paired with the last window.
def mergeGroup (t : Int) (group : List MergedActivityRow) : List MergedActivityRow :=
  match group.filterMap url?, (group.filterMap window?).getLast? with
  | [u], some lastWin =>
    group.filter isAlert ++ (group.filterMap window?).dropLast.map (window t) ++ [page t lastWin u]
  | _, _ => group

def mergeWindowUrlAtSameInstant : List MergedActivityRow → List MergedActivityRow
  | [] => []
  | r :: rows =>
    mergeGroup r.time (r :: rows.takeWhile (fun other => other.time = r.time))
      ++ mergeWindowUrlAtSameInstant (rows.dropWhile (fun other => other.time = r.time))
termination_by rows => rows.length
decreasing_by exact Nat.lt_succ_of_le (List.dropWhile_suffix _).length_le

section

variable (parseTimestamp : String → Option Int)

-- The loop over the events of one kind, which leaves out those without a valid time.
def stampedRows {β : Type} (keep : β → Bool) (stamp : β → String) (row : Int → β → MergedActivityRow)
    (events : List β) : List MergedActivityRow :=
  events.filterMap (fun ev => if keep ev then (parseTimestamp (stamp ev)).map (fun t => row t ev) else none)

def hasTitle (w : WindowEvent) : Bool :=
  Multipart.trimSpace w.windowTitle.toList ≠ []

def unsortedRows (session : Session) : List MergedActivityRow :=
  stampedRows parseTimestamp hasTitle WindowEvent.timestamp window session.windows
    ++ stampedRows parseTimestamp (fun _ => true) URLEvent.timestamp url session.urls
    ++ stampedRows parseTimestamp (fun _ => true) SessionAlertEvent.createdAt alert
      (session.alertEvents.getD [])

def sortedRows (session : Session) : List MergedActivityRow :=
  (unsortedRows parseTimestamp session).insertionSort (fun a b => a.compare b ≤ 0)

def buildMergedActivityTimeline (session : Session) : List MergedActivityRow :=
  mergeWindowUrlAtSameInstant (sortedRows parseTimestamp session)

end

/-!
The rows before they are merged.
-/

section

variable {parseTimestamp : String → Option Int} {β γ : Type} {keep : β → Bool} {stamp : β → String}
  {row : Int → β → MergedActivityRow}

theorem stampedRows_shown (shown : MergedActivityRow → List β) (htime : ∀ t ev, (row t ev).time = t)
    (hshown : ∀ t ev, shown (row t ev) = [ev]) (p : Int → Bool) (events : List β)
    : ((stampedRows parseTimestamp keep stamp row events).filter (fun r => p r.time)).flatMap shown
      = events.filter (fun ev => keep ev && (parseTimestamp (stamp ev)).any p) := by
  unfold stampedRows
  induction events with
  | nil => rfl
  | cons ev events ih =>
    rw [List.filterMap_cons, List.filter_cons]
    cases hkeep : keep ev with
    | false => exact ih
    | true =>
      cases hstamp : parseTimestamp (stamp ev) with
      | none => exact ih
      | some t =>
        simp only [if_true, Option.map_some, List.filter_cons, htime, Option.any_some, Bool.true_and]
        split
        . rw [List.flatMap_cons, hshown, ih]
          rfl
        . exact ih

theorem stampedRows_other (shown : MergedActivityRow → List γ) (hshown : ∀ t ev, shown (row t ev) = [])
    (p : MergedActivityRow → Bool) (events : List β)
    : ((stampedRows parseTimestamp keep stamp row events).filter p).flatMap shown = [] := by
  rw [List.flatMap_eq_nil_iff]
  intro r hr
  rcases List.mem_filterMap.mp (List.mem_filter.mp hr).1 with ⟨ev, _, hev⟩
  split at hev
  . rcases Option.map_eq_some_iff.mp hev with ⟨t, _, rfl⟩
    exact hshown t ev
  . cases hev

theorem stampedRows_not_page (hpage : ∀ t ev, (row t ev).isPage = false) (events : List β)
    : ∀ r ∈ stampedRows parseTimestamp keep stamp row events, r.isPage = false := by
  intro r hr
  rcases List.mem_filterMap.mp hr with ⟨ev, _, hev⟩
  split at hev
  . rcases Option.map_eq_some_iff.mp hev with ⟨t, _, rfl⟩
    exact hpage t ev
  . cases hev

end

theorem compare_le_iff {a b : MergedActivityRow}
    : a.compare b ≤ 0
      ↔ b.time < a.time
        ∨ a.time = b.time ∧ (a.kindOrder < b.kindOrder
          ∨ a.kindOrder = b.kindOrder ∧ b.rowStableId ≤ a.rowStableId) := by
  unfold MergedActivityRow.compare
  split
  . omega
  . split
    . omega
    . omega

theorem pairwise_sortedRows (parseTimestamp : String → Option Int) (session : Session)
    : (sortedRows parseTimestamp session).Pairwise (fun a b => b.time ≤ a.time) := by
  let before (a b : MergedActivityRow) := a.compare b ≤ 0
  have htotal : Std.Total before := by
    constructor
    intro a b
    change a.compare b ≤ 0 ∨ b.compare a ≤ 0
    rw [compare_le_iff, compare_le_iff]
    omega
  have htrans : IsTrans MergedActivityRow before := by
    constructor
    intro a b c hab hbc
    change a.compare b ≤ 0 at hab
    change b.compare c ≤ 0 at hbc
    change a.compare c ≤ 0
    rw [compare_le_iff] at hab hbc ⊢
    omega
  refine (List.pairwise_insertionSort before (unsortedRows parseTimestamp session)).imp ?_
  intro a b hab
  rcases compare_le_iff.mp hab with h | h
  . exact h.le
  . exact h.1.ge

/-!
The rows of an instant.
-/

section

variable {t : Int} {group : List MergedActivityRow}

theorem flatMap_eq_filterMap {β : Type} {shown : MergedActivityRow → List β}
    {read : MergedActivityRow → Option β}
    (hread : ∀ r, r.isPage = false → shown r = (read r).toList) (h : ∀ r ∈ group, r.isPage = false)
    : group.flatMap shown = group.filterMap read := by
  rw [List.filterMap_eq_flatMap_toList]
  exact List.flatMap_congr (fun r hr => hread r (h r hr))

theorem flatMap_windows (h : ∀ r ∈ group, r.isPage = false)
    : group.flatMap windows = group.filterMap window? := by
  refine flatMap_eq_filterMap (fun r hpage => ?_) h
  cases r with
  | page _ _ _ => cases hpage
  | _ => rfl

theorem flatMap_urls (h : ∀ r ∈ group, r.isPage = false)
    : group.flatMap urls = group.filterMap url? := by
  refine flatMap_eq_filterMap (fun r hpage => ?_) h
  cases r with
  | page _ _ _ => cases hpage
  | _ => rfl

theorem flatMap_filter_isAlert (group : List MergedActivityRow)
    : (group.filter isAlert).flatMap windows = [] ∧ (group.filter isAlert).flatMap urls = []
      ∧ (group.filter isAlert).flatMap alerts = group.flatMap alerts := by
  induction group with
  | nil => exact ⟨rfl, rfl, rfl⟩
  | cons r group ih =>
    rw [List.filter_cons]
    cases r with
    | alert _ ev =>
      refine ⟨ih.1, ih.2.1, ?_⟩
      show ev :: (group.filter isAlert).flatMap alerts = ev :: group.flatMap alerts
      rw [ih.2.2]
    | window _ _ => exact ih
    | url _ _ => exact ih
    | page _ _ _ => exact ih

theorem flatMap_map_window (t : Int) (ws : List WindowEvent)
    : (ws.map (window t)).flatMap windows = ws ∧ (ws.map (window t)).flatMap urls = []
      ∧ (ws.map (window t)).flatMap alerts = [] := by
  induction ws with
  | nil => exact ⟨rfl, rfl, rfl⟩
  | cons w ws ih =>
    refine ⟨?_, ih.2.1, ih.2.2⟩
    show w :: (ws.map (window t)).flatMap windows = w :: ws
    rw [ih.1]

-- Either a page row takes the place of the URL and the last window, or the rows stay as they are.
theorem mergeGroup_cases (t : Int) (group : List MergedActivityRow)
    : (∃ u front lastWin, group.filterMap url? = [u] ∧ group.filterMap window? = front ++ [lastWin]
        ∧ mergeGroup t group = group.filter isAlert ++ front.map (window t) ++ [page t lastWin u])
      ∨ ¬((group.filterMap url?).length = 1 ∧ 0 < (group.filterMap window?).length)
        ∧ mergeGroup t group = group := by
  unfold mergeGroup
  split
  . next u lastWin hurls hlast =>
    rcases List.getLast?_eq_some_iff.mp hlast with ⟨front, hfront⟩
    refine .inl ⟨u, front, lastWin, hurls, hfront, ?_⟩
    rw [hfront, List.dropLast_concat]
  . next hnone =>
    refine .inr ⟨?_, rfl⟩
    rintro ⟨hone, hsome⟩
    rcases List.length_eq_one_iff.mp hone with ⟨u, hu⟩
    have hne : group.filterMap window? ≠ [] := List.ne_nil_of_length_pos hsome
    exact hnone u _ hu (List.getLast?_eq_some_getLast hne)

-- A merged group holds the events of its rows.
theorem mergeGroup_perm (t : Int) (h : ∀ r ∈ group, r.isPage = false)
    : ((mergeGroup t group).flatMap windows).Perm (group.flatMap windows)
      ∧ ((mergeGroup t group).flatMap urls).Perm (group.flatMap urls)
      ∧ ((mergeGroup t group).flatMap alerts).Perm (group.flatMap alerts) := by
  rcases mergeGroup_cases t group with ⟨u, front, lastWin, hurl, hwindow, heq⟩ | ⟨_, heq⟩
  . rcases flatMap_filter_isAlert group with ⟨hw, hu, ha⟩
    rcases flatMap_map_window t front with ⟨hw', hu', ha'⟩
    rw [heq, flatMap_windows h, flatMap_urls h, hurl, hwindow]
    simp only [List.flatMap_append, hw, hu, ha, hw', hu', ha', List.nil_append, List.append_nil]
    exact ⟨List.Perm.refl _, List.Perm.refl _, List.append_nil _ ▸ List.Perm.refl _⟩
  . rw [heq]
    exact ⟨List.Perm.refl _, List.Perm.refl _, List.Perm.refl _⟩

theorem time_mergeGroup (h : ∀ r ∈ group, r.time = t) : ∀ r ∈ mergeGroup t group, r.time = t := by
  rcases mergeGroup_cases t group with ⟨u, front, lastWin, _, _, heq⟩ | ⟨_, heq⟩
  . rw [heq]
    intro r hr
    rcases List.mem_append.mp hr with hr | hr
    . rcases List.mem_append.mp hr with hr | hr
      . exact h r (List.mem_filter.mp hr).1
      . rcases List.mem_map.mp hr with ⟨w, _, rfl⟩
        rfl
    . rw [List.mem_singleton.mp hr]
      rfl
  . rw [heq]
    exact h

theorem length_pages_mergeGroup (t : Int) (h : ∀ r ∈ group, r.isPage = false)
    : ((mergeGroup t group).filter isPage).length
      = if (group.flatMap urls).length = 1 ∧ 0 < (group.flatMap windows).length then 1 else 0 := by
  have hnone : ∀ {rows : List MergedActivityRow}, (∀ r ∈ rows, r.isPage = false)
      → rows.filter isPage = [] := by
    intro rows hrows
    rw [List.filter_eq_nil_iff]
    intro r hr
    rw [hrows r hr]
    exact Bool.false_ne_true
  rw [flatMap_windows h, flatMap_urls h]
  rcases mergeGroup_cases t group with ⟨u, front, lastWin, hurl, hwindow, heq⟩ | ⟨hother, heq⟩
  . have halerts : ∀ r ∈ group.filter isAlert, r.isPage = false :=
      fun r hr => h r (List.mem_filter.mp hr).1
    have hwindows : ∀ r ∈ front.map (window t), r.isPage = false := by
      intro r hr
      rcases List.mem_map.mp hr with ⟨w, _, rfl⟩
      rfl
    rw [heq, hurl, hwindow, List.filter_append, List.filter_append, hnone halerts, hnone hwindows]
    rw [if_pos ⟨rfl, by rw [List.length_append]; exact Nat.succ_pos _⟩]
    rfl
  . rw [heq, hnone h, if_neg hother]
    rfl

end

/-!
The rows of all instants.
-/

section

variable {r : MergedActivityRow} {rows : List MergedActivityRow}

theorem not_page_takeWhile (p : MergedActivityRow → Bool) (h : ∀ other ∈ r :: rows, other.isPage = false)
    : (∀ other ∈ r :: rows.takeWhile p, other.isPage = false)
      ∧ ∀ other ∈ rows.dropWhile p, other.isPage = false := by
  rw [List.forall_mem_cons] at h
  refine ⟨List.forall_mem_cons.mpr ⟨h.1, ?_⟩, ?_⟩
  . exact fun other hmem => h.2 other ((List.takeWhile_subset p) hmem)
  . exact fun other hmem => h.2 other ((List.dropWhile_subset p) hmem)

theorem cons_eq_group_append (r : MergedActivityRow) (rows : List MergedActivityRow)
    (p : MergedActivityRow → Bool) : r :: rows = (r :: rows.takeWhile p) ++ rows.dropWhile p := by
  rw [List.cons_append, List.takeWhile_append_dropWhile]

-- What every group keeps is kept as a whole.
theorem mergeWindowUrlAtSameInstant_perm {β : Type} {shown : MergedActivityRow → List β}
    (hgroup : ∀ t group, (∀ r ∈ group, r.isPage = false)
      → ((mergeGroup t group).flatMap shown).Perm (group.flatMap shown))
    (h : ∀ r ∈ rows, r.isPage = false)
    : ((mergeWindowUrlAtSameInstant rows).flatMap shown).Perm (rows.flatMap shown) := by
  induction rows using mergeWindowUrlAtSameInstant.induct with
  | case1 =>
    rw [mergeWindowUrlAtSameInstant]
  | case2 r rows ih =>
    rcases not_page_takeWhile _ h with ⟨hfirst, hrest⟩
    rw [mergeWindowUrlAtSameInstant, List.flatMap_append]
    rw [cons_eq_group_append r rows (fun other => other.time = r.time), List.flatMap_append]
    exact (hgroup r.time _ hfirst).append (ih hrest)

-- In sorted rows those of the first instant stand in front of all earlier ones.
theorem time_dropWhile_lt (h : (r :: rows).Pairwise (fun a b => b.time ≤ a.time))
    : ∀ other ∈ rows.dropWhile (fun other => other.time = r.time), other.time < r.time := by
  rw [List.pairwise_cons] at h
  rcases h with ⟨hle, hsorted⟩
  induction rows with
  | nil => exact fun other hmem => absurd hmem List.not_mem_nil
  | cons other rows ih =>
    rw [List.pairwise_cons] at hsorted
    rw [List.forall_mem_cons] at hle
    rw [List.dropWhile_cons]
    split
    . exact ih hle.2 hsorted.2
    . next hne =>
      have hlt : other.time < r.time := lt_of_le_of_ne hle.1 (fun heq => hne (decide_eq_true heq))
      rw [List.forall_mem_cons]
      exact ⟨hlt, fun last hmem => (hsorted.1 last hmem).trans_lt hlt⟩

theorem time_takeWhile (r : MergedActivityRow) (rows : List MergedActivityRow)
    : ∀ other ∈ r :: rows.takeWhile (fun other => other.time = r.time), other.time = r.time := by
  rw [List.forall_mem_cons]
  refine ⟨rfl, fun other hmem => ?_⟩
  have hother := List.mem_takeWhile_imp hmem
  exact of_decide_eq_true hother

theorem pairwise_dropWhile (p : MergedActivityRow → Bool)
    (h : (r :: rows).Pairwise (fun a b => b.time ≤ a.time))
    : (rows.dropWhile p).Pairwise (fun a b => b.time ≤ a.time) :=
  (List.pairwise_cons.mp h).2.sublist (List.dropWhile_sublist p)

theorem filter_time_eq_self {group : List MergedActivityRow} {t : Int} (h : ∀ r ∈ group, r.time = t)
    : group.filter (fun r => r.time = t) = group := by
  rw [List.filter_eq_self]
  exact fun r hr => decide_eq_true (h r hr)

theorem filter_time_eq_nil {group : List MergedActivityRow} {t : Int} (h : ∀ r ∈ group, r.time ≠ t)
    : group.filter (fun r => r.time = t) = [] := by
  rw [List.filter_eq_nil_iff]
  exact fun r hr => by
    rw [decide_eq_true_iff]
    exact h r hr

-- What is shown of an instant is its group of rows, merged.
theorem filter_mergeWindowUrlAtSameInstant (h : rows.Pairwise (fun a b => b.time ≤ a.time)) (t : Int)
    : (mergeWindowUrlAtSameInstant rows).filter (fun r => r.time = t)
      = mergeGroup t (rows.filter (fun r => r.time = t)) := by
  induction rows using mergeWindowUrlAtSameInstant.induct with
  | case1 =>
    rw [mergeWindowUrlAtSameInstant]
    rfl
  | case2 r rows ih =>
    have hlt := time_dropWhile_lt h
    have hgroup := time_takeWhile r rows
    have hrest := pairwise_dropWhile (fun other => other.time = r.time) h
    rw [mergeWindowUrlAtSameInstant, List.filter_append, ih hrest]
    rw [cons_eq_group_append r rows (fun other => other.time = r.time), List.filter_append]
    by_cases ht : r.time = t
    . subst ht
      have hnone : (rows.dropWhile (fun other => other.time = r.time)).filter (·.time = r.time)
          = [] :=
        filter_time_eq_nil (fun other hmem => (hlt other hmem).ne)
      rw [filter_time_eq_self (time_mergeGroup hgroup), filter_time_eq_self hgroup, hnone, List.append_nil]
      exact List.append_nil _
    . have hother : ∀ other ∈ r :: rows.takeWhile (fun other => other.time = r.time), other.time ≠ t := by
        intro other hmem
        rw [hgroup other hmem]
        exact ht
      have hmerged : ∀ other ∈ mergeGroup r.time (r :: rows.takeWhile (fun other => other.time = r.time)),
          other.time ≠ t := by
        intro other hmem
        rw [time_mergeGroup hgroup other hmem]
        exact ht
      rw [filter_time_eq_nil hmerged, filter_time_eq_nil hother]
      rfl

theorem exists_time_of_mem_merge (h : rows.Pairwise (fun a b => b.time ≤ a.time))
    (hmem : r ∈ mergeWindowUrlAtSameInstant rows)
    : ∃ other ∈ rows, other.time = r.time := by
  have hr : r ∈ (mergeWindowUrlAtSameInstant rows).filter (fun other => other.time = r.time) :=
    List.mem_filter.mpr ⟨hmem, decide_eq_true rfl⟩
  rw [filter_mergeWindowUrlAtSameInstant h] at hr
  by_contra hnone
  push Not at hnone
  rw [filter_time_eq_nil hnone] at hr
  cases hr

theorem pairwise_mergeWindowUrlAtSameInstant (h : rows.Pairwise (fun a b => b.time ≤ a.time))
    : (mergeWindowUrlAtSameInstant rows).Pairwise (fun a b => b.time ≤ a.time) := by
  induction rows using mergeWindowUrlAtSameInstant.induct with
  | case1 =>
    rw [mergeWindowUrlAtSameInstant]
    exact List.Pairwise.nil
  | case2 r rows ih =>
    have hgroup := time_mergeGroup (time_takeWhile r rows)
    have hrest := pairwise_dropWhile (fun other => other.time = r.time) h
    rw [mergeWindowUrlAtSameInstant, List.pairwise_append]
    refine ⟨List.pairwise_of_forall_mem_list ?_, ih hrest, ?_⟩
    . intro a ha b hb
      exact ((hgroup b hb).trans (hgroup a ha).symm).le
    . intro a ha b hb
      rcases exists_time_of_mem_merge hrest hb with ⟨other, hother, heq⟩
      rw [hgroup a ha, ← heq]
      exact (time_dropWhile_lt h other hother).le

end

/-!
The events that a session is shown with.
-/

section

variable (parseTimestamp : String → Option Int) (session : Session)

theorem flatMap_sortedRows_perm {β : Type} (shown : MergedActivityRow → List β) (p : MergedActivityRow → Bool)
    : let windowRows := stampedRows parseTimestamp hasTitle WindowEvent.timestamp window session.windows
      let urlRows := stampedRows parseTimestamp (fun _ => true) URLEvent.timestamp url session.urls
      let alertRows := stampedRows parseTimestamp (fun _ => true) SessionAlertEvent.createdAt alert
        (session.alertEvents.getD [])
      (((sortedRows parseTimestamp session).filter p).flatMap shown).Perm
        ((windowRows.filter p).flatMap shown ++ (urlRows.filter p).flatMap shown
          ++ (alertRows.filter p).flatMap shown) := by
  have hperm : ((sortedRows parseTimestamp session).filter p).Perm
      ((unsortedRows parseTimestamp session).filter p) :=
    (List.perm_insertionSort _ _).filter _
  refine (hperm.flatMap_right shown).trans (.of_eq ?_)
  unfold unsortedRows
  rw [List.filter_append, List.filter_append, List.flatMap_append, List.flatMap_append]

-- The events whose rows are at a time that `p` holds of.
theorem sortedRows_perm (p : Int → Bool)
    : (((sortedRows parseTimestamp session).filter (fun r => p r.time)).flatMap windows).Perm
        (session.windows.filter (fun w => hasTitle w && (parseTimestamp w.timestamp).any p))
      ∧ (((sortedRows parseTimestamp session).filter (fun r => p r.time)).flatMap urls).Perm
        (session.urls.filter (fun u => (parseTimestamp u.timestamp).any p))
      ∧ (((sortedRows parseTimestamp session).filter (fun r => p r.time)).flatMap alerts).Perm
        ((session.alertEvents.getD []).filter (fun ev => (parseTimestamp ev.createdAt).any p)) := by
  refine ⟨(flatMap_sortedRows_perm parseTimestamp session windows _).trans (.of_eq ?_),
    (flatMap_sortedRows_perm parseTimestamp session urls _).trans (.of_eq ?_),
    (flatMap_sortedRows_perm parseTimestamp session alerts _).trans (.of_eq ?_)⟩
  . rw [stampedRows_shown windows (fun _ _ => rfl) (fun _ _ => rfl)]
    rw [stampedRows_other windows (fun _ _ => rfl), stampedRows_other windows (fun _ _ => rfl)]
    rw [List.append_nil, List.append_nil]
  . rw [stampedRows_shown urls (fun _ _ => rfl) (fun _ _ => rfl)]
    rw [stampedRows_other urls (fun _ _ => rfl), stampedRows_other urls (fun _ _ => rfl)]
    rw [List.append_nil, List.nil_append]
    exact List.filter_congr (fun _ _ => Bool.true_and _)
  . rw [stampedRows_shown alerts (fun _ _ => rfl) (fun _ _ => rfl)]
    rw [stampedRows_other alerts (fun _ _ => rfl), stampedRows_other alerts (fun _ _ => rfl)]
    rw [List.nil_append, List.nil_append]
    exact List.filter_congr (fun _ _ => Bool.true_and _)

theorem sortedRows_not_page : ∀ r ∈ sortedRows parseTimestamp session, r.isPage = false := by
  intro r hr
  have hmem : r ∈ unsortedRows parseTimestamp session := (List.perm_insertionSort _ _).subset hr
  unfold unsortedRows at hmem
  rcases List.mem_append.mp hmem with hmem | hmem
  . rcases List.mem_append.mp hmem with hmem | hmem
    . exact stampedRows_not_page (fun _ _ => rfl) _ r hmem
    . exact stampedRows_not_page (fun _ _ => rfl) _ r hmem
  . exact stampedRows_not_page (fun _ _ => rfl) _ r hmem

theorem filter_sortedRows_not_page (p : MergedActivityRow → Bool)
    : ∀ r ∈ (sortedRows parseTimestamp session).filter p, r.isPage = false :=
  fun r hr => sortedRows_not_page parseTimestamp session r (List.mem_filter.mp hr).1

-- The events that the rows of one instant show are those of this instant.
theorem filter_buildMergedActivityTimeline_perm (t : Int)
    : (((buildMergedActivityTimeline parseTimestamp session).filter (·.time = t)).flatMap windows).Perm
        (session.windows.filter (fun w => hasTitle w && (parseTimestamp w.timestamp).any (· = t)))
      ∧ (((buildMergedActivityTimeline parseTimestamp session).filter (·.time = t)).flatMap urls).Perm
        (session.urls.filter (fun u => (parseTimestamp u.timestamp).any (· = t)))
      ∧ (((buildMergedActivityTimeline parseTimestamp session).filter (·.time = t)).flatMap alerts).Perm
        ((session.alertEvents.getD []).filter (fun ev => (parseTimestamp ev.createdAt).any (· = t))) := by
  unfold buildMergedActivityTimeline
  rw [filter_mergeWindowUrlAtSameInstant (pairwise_sortedRows parseTimestamp session)]
  rcases mergeGroup_perm t (filter_sortedRows_not_page parseTimestamp session (fun r => r.time = t))
    with ⟨hwindows, hurls, halerts⟩
  rcases sortedRows_perm parseTimestamp session (fun time => time = t) with ⟨hwindows', hurls', halerts'⟩
  exact ⟨hwindows.trans hwindows', hurls.trans hurls', halerts.trans halerts'⟩

theorem any_eq_true_iff {stamp : Option Int} {t : Int} : stamp.any (· = t) = true ↔ stamp = some t := by
  cases stamp with
  | none => exact ⟨fun h => absurd h Bool.false_ne_true, fun h => nomatch h⟩
  | some time =>
    rw [Option.any_some, decide_eq_true_iff, Option.some_inj]

-- A row stands at the time of each event that it shows.
theorem time_of_shown {r : MergedActivityRow} (hr : r ∈ buildMergedActivityTimeline parseTimestamp session)
    : (∀ w ∈ r.windows, parseTimestamp w.timestamp = some r.time)
      ∧ (∀ u ∈ r.urls, parseTimestamp u.timestamp = some r.time)
      ∧ ∀ ev ∈ r.alerts, parseTimestamp ev.createdAt = some r.time := by
  have hmem : r ∈ (buildMergedActivityTimeline parseTimestamp session).filter (·.time = r.time) :=
    List.mem_filter.mpr ⟨hr, decide_eq_true rfl⟩
  rcases filter_buildMergedActivityTimeline_perm parseTimestamp session r.time with ⟨hwindows, hurls, halerts⟩
  refine ⟨fun w hw => ?_, fun u hu => ?_, fun ev hev => ?_⟩
  . have hshown := List.mem_filter.mp (hwindows.subset (List.mem_flatMap.mpr ⟨r, hmem, hw⟩))
    exact any_eq_true_iff.mp (Bool.and_eq_true_iff.mp hshown.2).2
  . have hshown := List.mem_filter.mp (hurls.subset (List.mem_flatMap.mpr ⟨r, hmem, hu⟩))
    exact any_eq_true_iff.mp hshown.2
  . have hshown := List.mem_filter.mp (halerts.subset (List.mem_flatMap.mpr ⟨r, hmem, hev⟩))
    exact any_eq_true_iff.mp hshown.2

theorem buildMergedActivityTimeline_perm
    : ((buildMergedActivityTimeline parseTimestamp session).flatMap windows).Perm
        (session.windows.filter (fun w => hasTitle w && (parseTimestamp w.timestamp).isSome))
      ∧ ((buildMergedActivityTimeline parseTimestamp session).flatMap urls).Perm
        (session.urls.filter (fun u => (parseTimestamp u.timestamp).isSome))
      ∧ ((buildMergedActivityTimeline parseTimestamp session).flatMap alerts).Perm
        ((session.alertEvents.getD []).filter (fun ev => (parseTimestamp ev.createdAt).isSome)) := by
  have hall : (sortedRows parseTimestamp session).filter (fun _ => true)
      = sortedRows parseTimestamp session :=
    List.filter_eq_self.mpr (fun _ _ => rfl)
  have hany : ∀ stamp : Option Int, stamp.any (fun _ => true) = stamp.isSome := by
    intro stamp
    cases stamp <;> rfl
  have hpages := sortedRows_not_page parseTimestamp session
  rcases sortedRows_perm parseTimestamp session (fun _ => true) with ⟨hwindows, hurls, halerts⟩
  simp only [hall, hany] at hwindows hurls halerts
  refine ⟨?_, ?_, ?_⟩
  . exact (mergeWindowUrlAtSameInstant_perm (fun t _ h => (mergeGroup_perm t h).1) hpages).trans hwindows
  . exact (mergeWindowUrlAtSameInstant_perm (fun t _ h => (mergeGroup_perm t h).2.1) hpages).trans hurls
  . exact (mergeWindowUrlAtSameInstant_perm (fun t _ h => (mergeGroup_perm t h).2.2) hpages).trans halerts

-- The pages of an instant: one if it has one URL and at least one window, else none.
theorem length_pages (t : Int)
    : ((buildMergedActivityTimeline parseTimestamp session).filter (fun r => r.isPage && r.time = t)).length
      = if (session.urls.filter (fun u => (parseTimestamp u.timestamp).any (· = t))).length = 1
          ∧ 0 < (session.windows.filter
            (fun w => hasTitle w && (parseTimestamp w.timestamp).any (· = t))).length then 1 else 0 := by
  rcases sortedRows_perm parseTimestamp session (fun time => time = t) with ⟨hwindows, hurls, _⟩
  rw [← List.filter_filter]
  unfold buildMergedActivityTimeline
  rw [filter_mergeWindowUrlAtSameInstant (pairwise_sortedRows parseTimestamp session),
    length_pages_mergeGroup t (filter_sortedRows_not_page parseTimestamp session (fun r => r.time = t)),
    hwindows.length_eq, hurls.length_eq]

end

section

variable (parseTimestamp : String → Option Int)

-- Every event that has a valid time is in one row, at this time. Windows also have to have a title.
theorem rows_lose_nothing (session : Session)
    : ((buildMergedActivityTimeline parseTimestamp session).flatMap windows).Perm
        (session.windows.filter (fun w => hasTitle w && (parseTimestamp w.timestamp).isSome))
      ∧ ((buildMergedActivityTimeline parseTimestamp session).flatMap urls).Perm
        (session.urls.filter (fun u => (parseTimestamp u.timestamp).isSome))
      ∧ ((buildMergedActivityTimeline parseTimestamp session).flatMap alerts).Perm
        ((session.alertEvents.getD []).filter (fun ev => (parseTimestamp ev.createdAt).isSome))
      ∧ (∀ r ∈ buildMergedActivityTimeline parseTimestamp session,
        (∀ w ∈ r.windows, parseTimestamp w.timestamp = some r.time)
          ∧ (∀ u ∈ r.urls, parseTimestamp u.timestamp = some r.time)
          ∧ ∀ ev ∈ r.alerts, parseTimestamp ev.createdAt = some r.time)
      ∧ (buildMergedActivityTimeline parseTimestamp session).Pairwise (fun a b => b.time ≤ a.time)
      ∧ ∀ t,
        ((buildMergedActivityTimeline parseTimestamp session).filter (fun r => r.isPage && r.time = t)).length
        = if (session.urls.filter (fun u => (parseTimestamp u.timestamp).any (· = t))).length = 1
            ∧ 0 < (session.windows.filter
              (fun w => hasTitle w && (parseTimestamp w.timestamp).any (· = t))).length then 1 else 0 := by
  rcases buildMergedActivityTimeline_perm parseTimestamp session with ⟨hwindows, hurls, halerts⟩
  refine ⟨hwindows, hurls, halerts, ?_, ?_, length_pages parseTimestamp session⟩
  . exact fun r hr => time_of_shown parseTimestamp session hr
  . exact pairwise_mergeWindowUrlAtSameInstant (pairwise_sortedRows parseTimestamp session)

end

-- A session with an alert that came without a time.
def untimedSession : Session where
  id := "1"
  user := none
  appName := "app.exe"
  appDisplayName := "app"
  windowTitle := "Document"
  startTime := 0
  endTime := 1000
  duration := 1
  keystrokeCount := 0
  urls := []
  keystrokes := []
  windows := []
  hasKeystrokes := false
  hasUrls := false
  alertEvents := some
    [{ id := 7, ruleName := "rule", channel := "url", snippet := "", createdAt := "",
       hasScreenshot := false, screenshotRequested := false }]

-- A parser of timestamps that reads the one of the epoch.
def parseEpoch (ts : String) : Option Int :=
  if ts = "1970-01-01T00:00:00Z" then some 0 else none

-- An alert without a valid time is in no row.
theorem untimed_alert_in_no_row
    : (untimedSession.alertEvents.getD []).length = 1
      ∧ ((buildMergedActivityTimeline parseEpoch untimedSession).flatMap alerts).length = 0 := by
  have hnone : sortedRows parseEpoch untimedSession = [] := by decide
  refine ⟨rfl, ?_⟩
  unfold buildMergedActivityTimeline
  rw [hnone, mergeWindowUrlAtSameInstant]
  rfl

end Activity

end Vantyr
