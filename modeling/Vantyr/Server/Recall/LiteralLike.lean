import Vantyr.Server.Recall.Pages

/-!
This module contains the escaping of the text of a filter (`literal_like` in `server/src/recall/context.rs`)
and that the patterns which the search makes of it match this text only.
-/

namespace Vantyr

namespace Recall

-- `str::replace` of one character.
def replaceChar (c : Char) (replacement : List Char) (cs : List Char) : List Char :=
  cs.flatMap (fun d => if d = c then replacement else [d])

def replacedLike (text : String) : String :=
  let escaped := replaceChar '\\' ['\\', '\\'] text.toList
  let escaped := replaceChar '%' ['\\', '%'] escaped
  String.ofList (replaceChar '_' ['\\', '_'] escaped)

-- The later replacements meet none of the backslashes that the earlier ones write.
theorem replacedLike_eq (text : String) : replacedLike text = literalLike text := by
  unfold replacedLike literalLike replaceChar
  dsimp only
  rw [List.flatMap_assoc, List.flatMap_assoc]
  congr 2
  funext c
  by_cases hbackslash : c = '\\'
  . subst hbackslash
    rfl
  . by_cases hpercent : c = '%'
    . subst hpercent
      rfl
    . by_cases hunderscore : c = '_'
      . subst hunderscore
        rfl
      . simp [hbackslash, hpercent, hunderscore]

theorem toList_literalLike (text : String)
    : (literalLike text).toList
      = text.toList.flatMap (fun c => if c = '\\' ∨ c = '%' ∨ c = '_' then ['\\', c] else [c]) :=
  String.toList_ofList

theorem match_first (c : Char) (pattern text : List Char)
    : (match text with
        | [] => false
        | d :: text => decide (c = d) && like pattern text) = true
      ↔ ∃ more, text = c :: more ∧ like pattern more = true := by
  cases text with
  | nil => exact iff_of_false Bool.false_ne_true (fun h => nomatch h)
  | cons d text =>
    dsimp only
    rw [Bool.and_eq_true, decide_eq_true_eq]
    constructor
    . rintro ⟨rfl, h⟩
      exact ⟨text, rfl, h⟩
    . rintro ⟨more, heq, h⟩
      cases heq
      exact ⟨rfl, h⟩

theorem like_literal {c : Char} (h : ¬(c = '\\' ∨ c = '%' ∨ c = '_')) (pattern text : List Char)
    : like (c :: pattern) text = true ↔ ∃ more, text = c :: more ∧ like pattern more = true := by
  rw [not_or, not_or] at h
  have hunfold : like (c :: pattern) text
      = match text with
        | [] => false
        | d :: text => c = d && like pattern text := by
    rw [like.eq_def]
    split
    . next heq => cases heq
    . next heq => exact absurd (List.cons.inj heq).1 h.1
    . next heq => exact absurd (List.cons.inj heq).1 h.2.1
    . next heq => exact absurd (List.cons.inj heq).1 h.2.2
    . next heq =>
      cases heq
      rfl
  rw [hunfold]
  exact match_first c pattern text

theorem like_escaped (c : Char) (pattern text : List Char)
    : like ('\\' :: c :: pattern) text = true ↔ ∃ more, text = c :: more ∧ like pattern more = true := by
  rw [like.eq_def]
  exact match_first c pattern text

theorem like_percent (pattern text : List Char)
    : like ('%' :: pattern) text = true ↔ ∃ more, more <:+ text ∧ like pattern more = true := by
  rw [like, List.any_eq_true]
  simp only [List.mem_tails]

-- Text that is escaped matches itself, whatever follows.
theorem like_escape_append (cs pattern text : List Char)
    : like (cs.flatMap (fun c => if c = '\\' ∨ c = '%' ∨ c = '_' then ['\\', c] else [c]) ++ pattern) text
        = true
      ↔ ∃ more, text = cs ++ more ∧ like pattern more = true := by
  induction cs generalizing text with
  | nil => simp
  | cons c cs ih =>
    rw [List.flatMap_cons]
    have hhead : ∀ rest : List Char,
        like ((if c = '\\' ∨ c = '%' ∨ c = '_' then ['\\', c] else [c]) ++ rest) text = true
          ↔ ∃ more, text = c :: more ∧ like rest more = true := by
      intro rest
      split
      . exact like_escaped c rest text
      . next h => exact like_literal h rest text
    rw [List.append_assoc, hhead]
    constructor
    . rintro ⟨more, rfl, hmore⟩
      rcases (ih more).mp hmore with ⟨last, rfl, hlast⟩
      exact ⟨last, rfl, hlast⟩
    . rintro ⟨more, rfl, hmore⟩
      exact ⟨cs ++ more, rfl, (ih _).mpr ⟨more, rfl, hmore⟩⟩

theorem like_anyText (text : List Char) : like ['%'] text = true :=
  (like_percent [] text).mpr ⟨[], List.nil_suffix, rfl⟩

theorem asciiLower_special (c : Char)
    : (Text.asciiLower c = '\\' ∨ Text.asciiLower c = '%' ∨ Text.asciiLower c = '_')
      ↔ (c = '\\' ∨ c = '%' ∨ c = '_') := by
  unfold Text.asciiLower
  split
  . next h =>
    have hlow : 65 ≤ c.toNat := h.1
    have hhigh : c.toNat ≤ 90 := h.2
    have hlower := Text.toNat_ofAscii (show c.toNat + 32 < 128 by omega)
    constructor
    . rintro (heq | heq | heq) <;> rw [heq] at hlower <;> simp at hlower <;> omega
    . rintro (rfl | rfl | rfl) <;> simp at hlow hhigh
  . rfl

-- The escaped text in lower case is the text in lower case, escaped.
theorem map_lower_escape (cs : List Char)
    : (cs.flatMap (fun c => if c = '\\' ∨ c = '%' ∨ c = '_' then ['\\', c] else [c])).map Text.asciiLower
      = (cs.map Text.asciiLower).flatMap
        (fun c => if c = '\\' ∨ c = '%' ∨ c = '_' then ['\\', c] else [c]) := by
  rw [List.map_flatMap, List.flatMap_map]
  congr 1
  funext c
  by_cases h : c = '\\' ∨ c = '%' ∨ c = '_'
  . rw [if_pos h, if_pos ((asciiLower_special c).mpr h)]
    rfl
  . rw [if_neg h, if_neg (fun hlower => h ((asciiLower_special c).mp hlower))]
    rfl

/--
A pattern for the begin of a value matches the values that begin with the text of the filter, and one for a
part of it, up to the case of ASCII letters, those that contain it.
-/
theorem filters_literal (text value : String)
    : (like (replacedLike text ++ "%").toList value.toList = true ↔ text.toList <+: value.toList)
      ∧ (ilike ("%" ++ replacedLike text ++ "%") value = true
        ↔ text.toList.map Text.asciiLower <:+: value.toList.map Text.asciiLower) := by
  rw [replacedLike_eq]
  constructor
  . rw [String.toList_append, toList_literalLike, like_escape_append]
    constructor
    . rintro ⟨more, heq, _⟩
      exact ⟨more, heq.symm⟩
    . rintro ⟨more, heq⟩
      exact ⟨more, heq.symm, like_anyText more⟩
  . unfold ilike
    rw [String.toList_append, String.toList_append, toList_literalLike, List.map_append, List.map_append,
      map_lower_escape]
    have hpercent : List.map Text.asciiLower "%".toList = ['%'] := rfl
    rw [hpercent, List.append_assoc, List.singleton_append, like_percent]
    constructor
    . rintro ⟨tail, ⟨front, hfront⟩, htail⟩
      rcases (like_escape_append _ _ _).mp htail with ⟨more, rfl, _⟩
      exact ⟨front, more, by rw [List.append_assoc, hfront]⟩
    . rintro ⟨front, more, heq⟩
      refine ⟨_, ⟨front, (List.append_assoc ..).symm.trans heq⟩, ?_⟩
      exact (like_escape_append _ _ _).mpr ⟨more, rfl, like_anyText more⟩

-- The search shows the frames of applications whose name begins with the text of the filter.
theorem matchesApp_prefix {filters : Filters} {wanted : String} (happ : filters.app = some wanted)
    (hmode : filters.appMode = "prefix") (app : Option String)
    : matchesApp filters app = true ↔ ∃ name ∈ app, wanted.toList <+: name.toList := by
  unfold matchesApp
  rw [happ]
  dsimp only
  rw [if_pos hmode, Option.any_eq_true]
  have hmatches := fun name => (filters_literal wanted name).1
  rw [replacedLike_eq] at hmatches
  simp only [Option.mem_def, hmatches]

end Recall

end Vantyr
