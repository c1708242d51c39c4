import Mathlib.Data.List.Perm.Basic
import Mathlib.Logic.Function.Basic
import Vantyr.Data.Text

/-!
This module contains the lookups of the category of a URL (`categorize_url_now` in
`server/src/web_activity/url_categorization/engine.rs` and the queries of
`server/src/web_activity/url_categorization/db/lookup.rs`). The rows of a table are listed in the order in
which the database returns them. The conversion of a host to its ASCII form, the parser of URLs and the lower
case of Unicode text are parameters.
-/

namespace Vantyr

namespace CategoryLookup

-- What a pattern of the operator `LIKE` is made of: `%`, `_` and the characters that stand for themselves.
inductive LikeItem where
  | anyText
  | anyCharacter
  | literal (c : Char)
  deriving DecidableEq, Repr

namespace LikeItem

-- A pattern that ends with the escape character is an error, the queries have none that does.
def parse : List Char → List LikeItem
  | [] => []
  | c :: rest =>
    if c = '\\' then
      match rest with
      | [] => [literal c]
      | c :: rest => literal c :: parse rest
    else if c = '%' then anyText :: parse rest
    else if c = '_' then anyCharacter :: parse rest
    else literal c :: parse rest

def Matches : List LikeItem → List Char → Bool
  | [], text => text.isEmpty
  | anyText :: items, text => text.tails.any (Matches items)
  | anyCharacter :: _, [] => false
  | anyCharacter :: items, _ :: text => Matches items text
  | literal _ :: _, [] => false
  | literal c :: items, c' :: text => c = c' && Matches items text

-- The shortest text of a pattern.
def sample (items : List LikeItem) : List Char :=
  items.flatMap fun
    | anyText => []
    | anyCharacter => ['a']
    | literal c => [c]

theorem matches_sample (items : List LikeItem) : Matches items (sample items) = true := by
  induction items with
  | nil => rfl
  | cons item items ih =>
    cases item with
    | anyText => exact List.any_eq_true.mpr ⟨_, (List.mem_tails _ _).mpr List.suffix_rfl, ih⟩
    | anyCharacter => exact ih
    | literal c =>
      show (decide (c = c) && Matches items (sample items)) = true
      rw [ih, decide_eq_true rfl]
      rfl

theorem matches_append_anyText (cs text : List Char)
    : Matches (cs.map literal ++ [anyText]) text = true ↔ cs <+: text := by
  induction cs generalizing text with
  | nil =>
    refine iff_of_true (List.any_eq_true.mpr ⟨[], (List.mem_tails _ _).mpr List.nil_suffix, rfl⟩) ?_
    exact List.nil_prefix
  | cons c cs ih =>
    cases text with
    | nil => simp [Matches]
    | cons c' text =>
      show (decide (c = c') && Matches (cs.map literal ++ [anyText]) text) = true ↔ _
      rw [Bool.and_eq_true, decide_eq_true_eq, ih, List.cons_prefix_cons]

end LikeItem

-- `text LIKE pattern`
def like (text pattern : String) : Bool :=
  LikeItem.Matches (LikeItem.parse pattern.toList) text.toList

-- None of the characters that are special in a pattern.
def Plain (cs : List Char) : Prop :=
  ∀ c ∈ cs, c ≠ '%' ∧ c ≠ '_' ∧ c ≠ '\\'

instance (cs : List Char) : Decidable (Plain cs) :=
  inferInstanceAs (Decidable (∀ c ∈ cs, c ≠ '%' ∧ c ≠ '_' ∧ c ≠ '\\'))

namespace LikeItem

theorem parse_cons {c : Char} (h : c ≠ '\\') (rest : List Char)
    : parse (c :: rest)
      = (if c = '%' then anyText else if c = '_' then anyCharacter else literal c) :: parse rest := by
  rw [parse.eq_def]
  dsimp only
  rw [if_neg h]
  split
  . rfl
  . split <;> rfl

theorem parse_plain {cs : List Char} (h : Plain cs)
    : parse (cs ++ ['%']) = cs.map literal ++ [anyText] := by
  induction cs with
  | nil => rfl
  | cons c cs ih =>
    rcases h c List.mem_cons_self with ⟨hpercent, hunderscore, hbackslash⟩
    rw [List.cons_append, parse_cons hbackslash, if_neg hpercent, if_neg hunderscore]
    rw [ih (fun c hc => h c (List.mem_cons_of_mem _ hc))]
    rfl

theorem length_sample_le : (cs : List Char) → (sample (parse (cs ++ ['%']))).length ≤ cs.length
  | [] => Nat.le_refl _
  | c :: rest => by
    by_cases hbackslash : c = '\\'
    . subst hbackslash
      match rest with
      | [] => exact Nat.le_refl _
      | c :: rest =>
        have ih := length_sample_le rest
        show (sample (parse (rest ++ ['%']))).length + 1 ≤ rest.length + 1 + 1
        omega
    . have ih := length_sample_le rest
      rw [List.cons_append, parse_cons hbackslash]
      split
      . exact Nat.le_succ_of_le ih
      . split
        . exact Nat.succ_le_succ ih
        . exact Nat.succ_le_succ ih

-- The shortest text is shorter than the pattern or differs from it at the first special character.
theorem plain_of_sample_eq : (cs : List Char) → sample (parse (cs ++ ['%'])) = cs → Plain cs
  | [] => fun _ _ hc => by cases hc
  | c :: rest => by
    intro h
    by_cases hbackslash : c = '\\'
    . subst hbackslash
      match rest with
      | [] => cases h
      | c :: rest =>
        have hlength : (sample (parse (rest ++ ['%']))).length + 1 = rest.length + 1 + 1 :=
          congrArg List.length h
        have := length_sample_le rest
        omega
    . rw [List.cons_append, parse_cons hbackslash] at h
      split at h
      . have hlength : (sample (parse (rest ++ ['%']))).length = rest.length + 1 := congrArg List.length h
        have := length_sample_le rest
        omega
      . next hpercent =>
        split at h
        . next hunderscore =>
          have hhead : 'a' = c := (List.cons.inj h).1
          rw [hunderscore] at hhead
          cases hhead
        . next hunderscore =>
          have ih := plain_of_sample_eq rest (List.cons.inj h).2
          intro c' hc'
          rcases List.mem_cons.mp hc' with rfl | hc'
          . exact ⟨hpercent, hunderscore, hbackslash⟩
          . exact ih c' hc'

end LikeItem

theorem like_plain {pre : String} (h : Plain pre.toList) (text : String)
    : like text (pre ++ "%") = true ↔ pre.toList <+: text.toList := by
  unfold like
  rw [String.toList_append]
  show LikeItem.Matches (LikeItem.parse (pre.toList ++ ['%'])) text.toList = true ↔ _
  rw [LikeItem.parse_plain h, LikeItem.matches_append_anyText]

theorem like_literal_iff (pre : String)
    : (∀ text, like text (pre ++ "%") = true ↔ pre.toList <+: text.toList) ↔ Plain pre.toList := by
  constructor
  . intro h
    have hsample := (h (String.ofList (LikeItem.sample (LikeItem.parse (pre.toList ++ ['%']))))).mp (by
      unfold like
      rw [String.toList_ofList, String.toList_append]
      exact LikeItem.matches_sample _)
    rw [String.toList_ofList] at hsample
    exact LikeItem.plain_of_sample_eq _
      (hsample.eq_of_length_le (LikeItem.length_sample_le _)).symm
  . exact like_plain

-- `url_category_overrides_domain`, `url_category_overrides_url`, `url_category_domain_entries` and
-- `url_category_url_entries`.
inductive Table where
  | overridesDomain
  | overridesUrl
  | domainEntries
  | urlEntries
  deriving DecidableEq, Repr

-- The value is the domain or the prefix of URLs.
structure Row where
  categoryId : Int
  value : String
  deriving DecidableEq, Repr

structure Category where
  key : String
  enabled : Bool
  deriving DecidableEq, Repr

structure Database where
  categories : Int → Option Category
  tables : Table → List Row

namespace Database

-- `JOIN url_categories c ON c.id = category_id`, where `c.enabled = true`
def join (db : Database) (row : Row) : Option (Int × String) :=
  match db.categories row.categoryId with
  | some c => if c.enabled then some (row.categoryId, c.key) else none
  | none => none

def selected (db : Database) (t : Table) (p : String → Bool) : List Row :=
  (db.tables t).filter (fun row => (db.join row).isSome && p row.value)

-- `LIMIT 1`
def limitOne (db : Database) (t : Table) (p : String → Bool) : Option (Int × String) :=
  (db.selected t p).head?.bind db.join

-- `domain = ANY(suffixes)`
def anyOf (suffixes : List String) (domain : String) : Bool :=
  suffixes.contains domain

-- `url_norm LIKE (url_prefix || '%')`
def prefixOf (urlNorm pre : String) : Bool :=
  like urlNorm (pre ++ "%")

def overrideDomainMatch (db : Database) (suffixes : List String) : Option (Int × String) :=
  db.limitOne .overridesDomain (anyOf suffixes)

def overrideUrlMatch (db : Database) (urlNorm : String) : Option (Int × String) :=
  db.limitOne .overridesUrl (prefixOf urlNorm)

def domainEntryMatch (db : Database) (suffixes : List String) : Option (Int × String) :=
  db.limitOne .domainEntries (anyOf suffixes)

def urlEntryMatch (db : Database) (urlNorm : String) : Option (Int × String) :=
  db.limitOne .urlEntries (prefixOf urlNorm)

end Database

section Engine

-- `str::to_lowercase`, `idna::domain_to_ascii` and `url::Url::parse` with `to_string`
variable (lower : String → String) (domainToAscii parseUrl : String → Option String)

def normalizeHostname (host : String) : String :=
  let raw := lower (String.ofList ((Text.trim host).toList.rdropWhile (· = '.')))
  if raw = "" then "" else (domainToAscii raw).getD raw

-- From the host itself to its last label.
def suffixCandidates (hostname : String) : List String :=
  let parts := (hostname.toList.splitOn '.').filter (· ≠ [])
  (parts.tails.filter (· ≠ [])).map (fun parts => String.ofList (List.intercalate ['.'] parts))

def normalizeUrlForPrefixMatch (url : String) : String :=
  match parseUrl url with
  | some url => url
  | none =>
    if "http://".toList.isPrefixOf (lower url).toList || "https://".toList.isPrefixOf (lower url).toList then
      url
    else
      "https://" ++ url

namespace Database

def categorizeOverride (db : Database) (hostname url : String) : Option (Int × String) :=
  let host := normalizeHostname lower domainToAscii hostname
  match if host ≠ "" then db.overrideDomainMatch (suffixCandidates host) else none with
  | some hit => some hit
  | none => db.overrideUrlMatch (normalizeUrlForPrefixMatch lower parseUrl url)

def categorizeUrlNow (db : Database) (hostname url : String) : Option (Int × String) :=
  match db.categorizeOverride lower domainToAscii parseUrl hostname url with
  | some hit => some hit
  | none =>
    let host := normalizeHostname lower domainToAscii hostname
    if host = "" then
      none
    else
      match db.domainEntryMatch (suffixCandidates host) with
      | some hit => some hit
      | none => db.urlEntryMatch (normalizeUrlForPrefixMatch lower parseUrl url)

end Database

end Engine

namespace Database

variable {db db' : Database}

theorem join_congr {row row' : Row} (h : row.categoryId = row'.categoryId) : db.join row = db.join row' := by
  unfold join
  rw [h]

theorem categoryId_of_join {row : Row} {hit : Int × String} (h : db.join row = some hit)
    : hit.1 = row.categoryId := by
  unfold join at h
  split at h
  . split at h
    . cases h
      rfl
    . cases h
  . cases h

theorem join_of_mem_selected {t : Table} {p : String → Bool} {row : Row} (h : row ∈ db.selected t p)
    : ∃ hit, db.join row = some hit := by
  have hselected := (List.mem_filter.mp h).2
  rw [Bool.and_eq_true] at hselected
  exact Option.isSome_iff_exists.mp hselected.1

-- The rows of a table whose prefix the URL starts with.
def literalRows (db : Database) (t : Table) (urlNorm : String) : List Row :=
  (db.tables t).filter (fun row => (db.join row).isSome && row.value.toList.isPrefixOf urlNorm.toList)

theorem selected_prefixOf_iff (db : Database) (t : Table)
    : (∀ urlNorm, db.selected t (prefixOf urlNorm) = db.literalRows t urlNorm)
      ↔ ∀ row ∈ db.tables t, (db.join row).isSome = true → Plain row.value.toList := by
  constructor
  . intro h row hrow henabled
    rw [← like_literal_iff]
    intro text
    have hmem : row ∈ db.selected t (prefixOf text) ↔ row ∈ db.literalRows t text := by rw [h text]
    unfold selected literalRows at hmem
    rw [List.mem_filter, List.mem_filter, henabled, Bool.true_and, Bool.true_and,
      List.isPrefixOf_iff_prefix] at hmem
    exact (and_congr_right_iff.mp hmem) hrow
  . intro h urlNorm
    refine List.filter_congr fun row hrow => ?_
    cases henabled : (db.join row).isSome with
    | false => rfl
    | true =>
      rw [Bool.true_and, Bool.true_and, Bool.eq_iff_iff, List.isPrefixOf_iff_prefix]
      exact like_plain (h row hrow henabled) urlNorm

end Database

/--
The rows that apply to a URL are those of the prefixes that it starts with, for every URL, if and only if the
prefixes of the table have none of the characters that are special in a pattern.
-/
theorem url_prefixes_literal_iff (db : Database)
    : (∀ t, (∀ urlNorm, db.selected t (Database.prefixOf urlNorm) = db.literalRows t urlNorm)
        ↔ ∀ row ∈ db.tables t, (db.join row).isSome = true → Plain row.value.toList)
      ∧ ∀ (lower : String → String) (parseUrl : String → Option String) (url : String),
        (∀ t ∈ [Table.overridesUrl, .urlEntries], ∀ row ∈ db.tables t,
          (db.join row).isSome = true → Plain row.value.toList)
        → let urlNorm := normalizeUrlForPrefixMatch lower parseUrl url
          db.overrideUrlMatch urlNorm = (db.literalRows .overridesUrl urlNorm).head?.bind db.join
          ∧ db.urlEntryMatch urlNorm = (db.literalRows .urlEntries urlNorm).head?.bind db.join := by
  refine ⟨db.selected_prefixOf_iff, ?_⟩
  intro lower parseUrl url h urlNorm
  have hoverrides := (db.selected_prefixOf_iff .overridesUrl).mpr (h _ List.mem_cons_self) urlNorm
  have hentries := (db.selected_prefixOf_iff .urlEntries).mpr
    (h _ (List.mem_cons_of_mem _ List.mem_cons_self)) urlNorm
  unfold Database.overrideUrlMatch Database.urlEntryMatch Database.limitOne
  rw [hoverrides, hentries]
  exact ⟨rfl, rfl⟩

-- An underscore of a stored prefix stands for any character of the URL.
theorem underscore_matches_other
    : let db : Database := {
        categories := fun _ => some { key := "adult", enabled := true }
        tables := fun
          | .urlEntries => [{ categoryId := 1, value := "https://example.com/a_b" }]
          | _ => []
      }
      db.urlEntryMatch (normalizeUrlForPrefixMatch id some "https://example.com/axb") = some (1, "adult")
      ∧ db.literalRows .urlEntries "https://example.com/axb" = [] := by
  decide +kernel

-- The same rows in another order.
def Database.Reordered (db db' : Database) : Prop :=
  db'.categories = db.categories ∧ ∀ t, (db.tables t).Perm (db'.tables t)

-- A query is the table with what it asks of the domain or prefix.
abbrev Query := Table × (String → Bool)

-- The queries for a URL in the order in which they are made.
def queries (lower : String → String) (domainToAscii parseUrl : String → Option String)
    (hostname url : String) : List Query :=
  let host := normalizeHostname lower domainToAscii hostname
  let urlNorm := normalizeUrlForPrefixMatch lower parseUrl url
  if host = "" then
    [(.overridesUrl, Database.prefixOf urlNorm)]
  else
    [
      (.overridesDomain, Database.anyOf (suffixCandidates host)),
      (.overridesUrl, Database.prefixOf urlNorm),
      (.domainEntries, Database.anyOf (suffixCandidates host)),
      (.urlEntries, Database.prefixOf urlNorm)
    ]

namespace Database

variable {db db' : Database}

def firstHit (db : Database) (qs : List Query) : Option (Int × String) :=
  qs.findSome? (fun q => db.limitOne q.1 q.2)

-- The rows of the first query that selects any.
def deciding (db : Database) : List Query → List Row
  | [] => []
  | q :: qs => if db.selected q.1 q.2 = [] then db.deciding qs else db.selected q.1 q.2

theorem categorizeUrlNow_eq (lower : String → String) (domainToAscii parseUrl : String → Option String)
    (db : Database) (hostname url : String)
    : db.categorizeUrlNow lower domainToAscii parseUrl hostname url
      = db.firstHit (queries lower domainToAscii parseUrl hostname url) := by
  unfold categorizeUrlNow categorizeOverride firstHit queries
  by_cases hhost : normalizeHostname lower domainToAscii hostname = ""
  . simp only [hhost, ne_eq, not_true_eq_false, if_true, if_false, List.findSome?_cons, List.findSome?_nil]
    unfold overrideUrlMatch
    cases db.limitOne .overridesUrl (prefixOf (normalizeUrlForPrefixMatch lower parseUrl url)) with
    | some hit => rfl
    | none => rfl
  . simp only [hhost, ne_eq, not_false_eq_true, if_true, if_false, List.findSome?_cons, List.findSome?_nil]
    unfold overrideDomainMatch overrideUrlMatch domainEntryMatch urlEntryMatch
    cases db.limitOne .overridesDomain
      (anyOf (suffixCandidates (normalizeHostname lower domainToAscii hostname))) with
    | some hit => rfl
    | none =>
      cases db.limitOne .overridesUrl (prefixOf (normalizeUrlForPrefixMatch lower parseUrl url)) with
      | some hit => rfl
      | none =>
        cases db.limitOne .domainEntries
          (anyOf (suffixCandidates (normalizeHostname lower domainToAscii hostname))) with
        | some hit => rfl
        | none =>
          dsimp only
          cases db.limitOne .urlEntries (prefixOf (normalizeUrlForPrefixMatch lower parseUrl url)) with
          | some hit => rfl
          | none => rfl

theorem firstHit_eq (db : Database) (qs : List Query)
    : db.firstHit qs = (db.deciding qs).head?.bind db.join := by
  induction qs with
  | nil => rfl
  | cons q qs ih =>
    unfold firstHit deciding
    rw [List.findSome?_cons]
    cases hrows : db.selected q.1 q.2 with
    | nil =>
      have hnone : db.limitOne q.1 q.2 = none := by
        unfold limitOne
        rw [hrows]
        rfl
      rw [hnone, if_pos rfl]
      exact ih
    | cons row rows =>
      rcases join_of_mem_selected (hrows ▸ List.mem_cons_self) with ⟨hit, hhit⟩
      have hsome : db.limitOne q.1 q.2 = some hit := by
        unfold limitOne
        rw [hrows]
        exact hhit
      rw [hsome, if_neg (List.cons_ne_nil _ _)]
      exact hhit.symm

theorem join_of_mem_deciding {qs : List Query} {row : Row} (h : row ∈ db.deciding qs)
    : ∃ hit, db.join row = some hit := by
  induction qs with
  | nil => cases h
  | cons q qs ih =>
    unfold deciding at h
    split at h
    . exact ih h
    . exact join_of_mem_selected h

namespace Reordered

variable (h : db.Reordered db')

include h

theorem join_eq (row : Row) : db'.join row = db.join row := by
  unfold join
  rw [h.1]

theorem selected (t : Table) (p : String → Bool) : (db.selected t p).Perm (db'.selected t p) := by
  unfold Database.selected
  simp only [h.join_eq]
  exact (h.2 t).filter _

theorem deciding (qs : List Query) : (db.deciding qs).Perm (db'.deciding qs) := by
  induction qs with
  | nil => exact List.Perm.nil
  | cons q qs ih =>
    have hselected := h.selected q.1 q.2
    unfold Database.deciding
    by_cases hrows : db.selected q.1 q.2 = []
    . rw [if_pos hrows, if_pos (List.Perm.nil_eq (hrows ▸ hselected)).symm]
      exact ih
    . have hrows' : db'.selected q.1 q.2 ≠ [] := by
        intro hnil
        rw [hnil] at hselected
        exact hrows hselected.eq_nil
      rw [if_neg hrows, if_neg hrows']
      exact hselected

end Reordered

-- Any of the rows that decide can be the first one.
theorem exists_reordered {qs : List Query} {row : Row} (hrow : row ∈ db.deciding qs)
    : ∃ db', db.Reordered db' ∧ db'.firstHit qs = db.join row := by
  induction qs with
  | nil => cases hrow
  | cons q qs ih =>
    unfold deciding at hrow
    split at hrow
    . next hnil =>
      rcases ih hrow with ⟨db', hreordered, hhit⟩
      refine ⟨db', hreordered, ?_⟩
      have hnil' : db'.selected q.1 q.2 = [] := (List.Perm.nil_eq (hnil ▸ hreordered.selected q.1 q.2)).symm
      rw [firstHit_eq] at hhit ⊢
      unfold deciding
      rw [if_pos hnil']
      exact hhit
    . have htable := (List.mem_filter.mp hrow).1
      let db' := {
        db with
        tables := Function.update db.tables q.1 (row :: (db.tables q.1).erase row)
      }
      have hreordered : db.Reordered db' := by
        refine ⟨rfl, ?_⟩
        intro t
        show (db.tables t).Perm (Function.update db.tables q.1 (row :: (db.tables q.1).erase row) t)
        by_cases ht : t = q.1
        . subst ht
          rw [Function.update_self]
          exact List.perm_cons_erase htable
        . rw [Function.update_of_ne ht]
      refine ⟨db', hreordered, ?_⟩
      have hselected : db'.selected q.1 q.2
          = row :: ((db.tables q.1).erase row).filter (fun row => (db.join row).isSome && q.2 row.value) := by
        show (Function.update db.tables q.1 (row :: (db.tables q.1).erase row) q.1).filter _ = _
        rw [Function.update_self]
        exact List.filter_cons_of_pos (List.mem_filter.mp hrow).2
      rw [firstHit_eq]
      unfold deciding
      rw [hselected, if_neg (List.cons_ne_nil _ _)]
      exact hreordered.join_eq row

-- The rows that decide are of one category.
def Unanimous (db : Database) (qs : List Query) : Prop :=
  ∀ row ∈ db.deciding qs, ∀ row' ∈ db.deciding qs, row.categoryId = row'.categoryId

instance (db : Database) (qs : List Query) : Decidable (db.Unanimous qs) :=
  inferInstanceAs (Decidable (∀ row ∈ db.deciding qs, ∀ row' ∈ db.deciding qs, _))

theorem Unanimous.firstHit {qs : List Query} (h : db.Unanimous qs) {row : Row}
    (hrow : row ∈ db.deciding qs) : db.firstHit qs = db.join row := by
  rw [firstHit_eq]
  cases hrows : db.deciding qs with
  | nil =>
    rw [hrows] at hrow
    cases hrow
  | cons first rows => exact join_congr (h first (hrows ▸ List.mem_cons_self) row hrow)

theorem unanimous_iff {qs : List Query}
    : db.Unanimous qs ↔ ∀ db', db.Reordered db' → db'.firstHit qs = db.firstHit qs := by
  constructor
  . intro h db' hreordered
    have hperm := hreordered.deciding qs
    rw [firstHit_eq db']
    cases hrows : db'.deciding qs with
    | nil =>
      rw [hrows] at hperm
      rw [firstHit_eq, hperm.eq_nil]
      rfl
    | cons row rows =>
      rw [h.firstHit (hperm.mem_iff.mpr (hrows ▸ List.mem_cons_self))]
      exact hreordered.join_eq row
  . intro h row hrow row' hrow'
    have hall : ∀ row ∈ db.deciding qs, db.firstHit qs = db.join row := by
      intro row hrow
      rcases exists_reordered hrow with ⟨db', hreordered, hhit⟩
      rw [← h db' hreordered, hhit]
    rcases join_of_mem_deciding hrow with ⟨hit, hhit⟩
    have hhit' : db.join row' = some hit := (hall row' hrow').symm.trans ((hall row hrow).trans hhit)
    rw [← categoryId_of_join hhit, ← categoryId_of_join hhit']

end Database

-- The row of the longest domain.
def MostSpecific (rows : List Row) (row : Row) : Prop :=
  row ∈ rows ∧ ∀ other ∈ rows, other.value.length ≤ row.value.length

theorem exists_mostSpecific {rows : List Row} (h : rows ≠ []) : ∃ row, MostSpecific rows row := by
  induction rows with
  | nil => exact absurd rfl h
  | cons first rows ih =>
    by_cases hrows : rows = []
    . subst hrows
      refine ⟨first, List.mem_cons_self, ?_⟩
      intro other hother
      rw [List.mem_singleton.mp hother]
    . rcases ih hrows with ⟨row, hmem, hlongest⟩
      rcases Nat.le_total first.value.length row.value.length with hle | hle
      . exact ⟨row, List.mem_cons_of_mem _ hmem, List.forall_mem_cons.mpr ⟨hle, hlongest⟩⟩
      . refine ⟨first, List.mem_cons_self, List.forall_mem_cons.mpr ⟨Nat.le_refl _, ?_⟩⟩
        exact fun other hother => (hlongest other hother).trans hle

theorem Database.selected_anyOf_nil (db : Database) (t : Table) : db.selected t (Database.anyOf []) = [] := by
  unfold Database.selected
  rw [List.filter_eq_nil_iff]
  intro row _
  rw [Bool.and_eq_true]
  exact fun h => Bool.false_ne_true h.2

theorem suffixCandidates_empty : suffixCandidates "" = [] := by
  decide +kernel

section

variable {lower : String → String} {domainToAscii parseUrl : String → Option String}
  {db : Database} {hostname url : String}

theorem deciding_overridesDomain
    (h : db.selected .overridesDomain
      (Database.anyOf (suffixCandidates (normalizeHostname lower domainToAscii hostname))) ≠ [])
    : db.deciding (queries lower domainToAscii parseUrl hostname url)
      = db.selected .overridesDomain
        (Database.anyOf (suffixCandidates (normalizeHostname lower domainToAscii hostname))) := by
  unfold queries
  dsimp only
  split
  . next hhost =>
    rw [hhost, suffixCandidates_empty, Database.selected_anyOf_nil] at h
    exact absurd rfl h
  . exact if_neg h

theorem deciding_overridesUrl
    (hdomain : db.selected .overridesDomain
      (Database.anyOf (suffixCandidates (normalizeHostname lower domainToAscii hostname))) = [])
    (h : db.selected .overridesUrl
      (Database.prefixOf (normalizeUrlForPrefixMatch lower parseUrl url)) ≠ [])
    : db.deciding (queries lower domainToAscii parseUrl hostname url)
      = db.selected .overridesUrl
        (Database.prefixOf (normalizeUrlForPrefixMatch lower parseUrl url)) := by
  unfold queries
  dsimp only
  split
  . exact if_neg h
  . exact (if_pos hdomain).trans (if_neg h)

theorem deciding_domainEntries
    (hdomain : db.selected .overridesDomain
      (Database.anyOf (suffixCandidates (normalizeHostname lower domainToAscii hostname))) = [])
    (hurl : db.selected .overridesUrl
      (Database.prefixOf (normalizeUrlForPrefixMatch lower parseUrl url)) = [])
    (h : db.selected .domainEntries
      (Database.anyOf (suffixCandidates (normalizeHostname lower domainToAscii hostname))) ≠ [])
    : db.deciding (queries lower domainToAscii parseUrl hostname url)
      = db.selected .domainEntries
        (Database.anyOf (suffixCandidates (normalizeHostname lower domainToAscii hostname))) := by
  unfold queries
  dsimp only
  split
  . next hhost =>
    rw [hhost, suffixCandidates_empty, Database.selected_anyOf_nil] at h
    exact absurd rfl h
  . exact (if_pos hdomain).trans ((if_pos hurl).trans (if_neg h))

end

/--
The category of a URL is the same in every order of the rows, that of an override when there is one, and that
of the most specific domain, if and only if the rows of the first table that has any for it are of one
category.
-/
theorem row_order_irrelevant_iff (lower : String → String) (domainToAscii parseUrl : String → Option String)
    (db : Database) (hostname url : String)
    : let qs := queries lower domainToAscii parseUrl hostname url
      let domains t := db.selected t
        (Database.anyOf (suffixCandidates (normalizeHostname lower domainToAscii hostname)))
      let urls t := db.selected t (Database.prefixOf (normalizeUrlForPrefixMatch lower parseUrl url))
      let overrides := domains .overridesDomain ++ urls .overridesUrl
      let category (db : Database) := db.categorizeUrlNow lower domainToAscii parseUrl hostname url
      ((∀ db', db.Reordered db' → category db' = category db)
        ∧ (overrides ≠ [] → ∃ row ∈ overrides, category db = db.join row)
        ∧ (domains .overridesDomain ≠ [] →
          ∃ row, MostSpecific (domains .overridesDomain) row ∧ category db = db.join row)
        ∧ (overrides = [] → domains .domainEntries ≠ [] →
          ∃ row, MostSpecific (domains .domainEntries) row ∧ category db = db.join row))
      ↔ db.Unanimous qs := by
  intro qs domains urls overrides category
  have hcategory : ∀ db, category db = db.firstHit qs := fun db =>
    db.categorizeUrlNow_eq lower domainToAscii parseUrl hostname url
  constructor
  . intro h
    rw [Database.unanimous_iff]
    intro db' hreordered
    rw [← hcategory, ← hcategory]
    exact h.1 db' hreordered
  . intro h
    have hreordered : ∀ db', db.Reordered db' → category db' = category db := by
      intro db' hreordered
      rw [hcategory, hcategory]
      exact Database.unanimous_iff.mp h db' hreordered
    refine ⟨hreordered, ?_, ?_, ?_⟩
    . intro hoverrides
      by_cases hdomain : domains .overridesDomain = []
      . have hurl : urls .overridesUrl ≠ [] := by
          intro hurl
          exact hoverrides (List.append_eq_nil_iff.mpr ⟨hdomain, hurl⟩)
        rcases List.exists_mem_of_ne_nil _ hurl with ⟨row, hrow⟩
        refine ⟨row, List.mem_append_right _ hrow, ?_⟩
        rw [hcategory]
        exact h.firstHit (deciding_overridesUrl hdomain hurl ▸ hrow)
      . rcases List.exists_mem_of_ne_nil _ hdomain with ⟨row, hrow⟩
        refine ⟨row, List.mem_append_left _ hrow, ?_⟩
        rw [hcategory]
        exact h.firstHit (deciding_overridesDomain hdomain ▸ hrow)
    . intro hdomain
      rcases exists_mostSpecific hdomain with ⟨row, hrow⟩
      refine ⟨row, hrow, ?_⟩
      rw [hcategory]
      exact h.firstHit (deciding_overridesDomain hdomain ▸ hrow.1)
    . intro hoverrides hentries
      rcases List.append_eq_nil_iff.mp hoverrides with ⟨hdomain, hurl⟩
      rcases exists_mostSpecific hentries with ⟨row, hrow⟩
      refine ⟨row, hrow, ?_⟩
      rw [hcategory]
      exact h.firstHit (deciding_domainEntries hdomain hurl hentries ▸ hrow.1)

-- A parent domain of the one list is returned before the domain itself of the other.
theorem less_specific_wins
    : let categories : Int → Option Category := fun
        | 1 => some { key := "shopping", enabled := true }
        | 2 => some { key := "webmail", enabled := true }
        | _ => none
      let db : Database := {
        categories
        tables := fun
          | .domainEntries =>
            [{ categoryId := 1, value := "example.com" }, { categoryId := 2, value := "mail.example.com" }]
          | _ => []
      }
      let db' : Database := {
        categories
        tables := fun
          | .domainEntries =>
            [{ categoryId := 2, value := "mail.example.com" }, { categoryId := 1, value := "example.com" }]
          | _ => []
      }
      db.Reordered db'
      ∧ db.categorizeUrlNow id some some "mail.example.com" "https://mail.example.com/" = some (1, "shopping")
      ∧ db'.categorizeUrlNow id some some "mail.example.com" "https://mail.example.com/"
        = some (2, "webmail") := by
  intro categories db db'
  refine ⟨⟨rfl, ?_⟩, ?_⟩
  . intro t
    cases t with
    | domainEntries => exact List.Perm.swap _ _ _
    | overridesDomain => exact List.Perm.nil
    | overridesUrl => exact List.Perm.nil
    | urlEntries => exact List.Perm.nil
  . decide +kernel

end CategoryLookup

end Vantyr
