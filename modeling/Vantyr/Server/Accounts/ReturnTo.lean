import Vantyr.Data.Text

/-!
This module contains the page that a single sign-on returns to (`sanitize_return_to` and `oidc_login` in
`server/src/auth/oidc/handlers.rs`), and how a browser resolves it against the URL of the dashboard: the basic
URL parser of the WHATWG with a base of a special scheme. The parser of an authority and that of URLs with a
scheme of their own are parameters.
-/

namespace Vantyr

namespace ReturnTo

def sanitizeReturnTo (raw : String) : String :=
  let t := Text.trim raw
  if t = "" then
    "/"
  -- Only relative paths, neither protocol-relative URLs nor anything with a scheme.
  else if !(['/'].isPrefixOf t.toList) || ['/', '/'].isPrefixOf t.toList || Text.contains t "://" then
    "/"
  else if t.toList.any Text.isControl then
    "/"
  else
    t

-- The query parameter, or else the header.
def oidcLoginReturnTo (query header : Option String) : String :=
  sanitizeReturnTo (Text.trim (query.getD (header.getD "/")))

structure Origin where
  scheme : String
  host : String
  port : Nat
  deriving DecidableEq, Repr

section Browser

def isC0ControlOrSpace (c : Char) : Bool :=
  c.toNat ≤ 0x20

def isTabOrNewline (c : Char) : Bool :=
  c = '\t' || c = '\n' || c = '\r'

-- A backslash is treated as a slash when the scheme is special.
def isSlash (c : Char) : Bool :=
  c = '/' || c = '\\'

def stripped (input : String) : List Char :=
  let cs := (input.toList.dropWhile isC0ControlOrSpace).rdropWhile isC0ControlOrSpace
  cs.filter (fun c => !isTabOrNewline c)

def isAsciiAlpha (c : Char) : Bool :=
  'a' ≤ c ∧ c ≤ 'z' ∨ 'A' ≤ c ∧ c ≤ 'Z'

def hasScheme (cs : List Char) : Bool :=
  cs.head?.any isAsciiAlpha
    && (cs.dropWhile (fun c => Text.isAsciiAlphanumeric c || c = '+' || c = '-' || c = '.')).head? = some ':'

-- What follows any number of slashes, up to the path, the query or the fragment.
def authority (cs : List Char) : List Char :=
  (cs.dropWhile isSlash).takeWhile (fun c => !(isSlash c || c = '?' || c = '#'))

variable (parseAbsolute : List Char → Option Origin) (parseAuthority : List Char → Option (String × Nat))

-- The origin of the resolved URL, nothing when the parser fails.
def resolve (base : Origin) (input : String) : Option Origin :=
  let cs := stripped input
  if hasScheme cs then
    parseAbsolute cs
  else
    match cs with
    -- relative slash state
    | c :: c' :: _ =>
      if isSlash c && isSlash c' then
        (parseAuthority (authority cs)).map (fun (host, port) => { base with host, port })
      else
        some base
    | _ => some base

end Browser

theorem isControl_of_stripped {c : Char} (h : isC0ControlOrSpace c = true)
    : Text.isControl c = true ∨ Text.isWhitespace c = true := by
  unfold isC0ControlOrSpace at h
  unfold Text.isControl Text.isWhitespace
  simp only [Bool.or_eq_true, Bool.and_eq_true, decide_eq_true_eq] at h ⊢
  omega

theorem isControl_of_isTabOrNewline {c : Char} (h : isTabOrNewline c = true) : Text.isControl c = true := by
  unfold isTabOrNewline at h
  simp only [Bool.or_eq_true, decide_eq_true_eq] at h
  rcases h with (rfl | rfl) | rfl <;> rfl

-- The browser strips nothing of what is trimmed and has no control characters.
theorem stripped_trim {raw : String} (hcontrol : ∀ c ∈ (Text.trim raw).toList, Text.isControl c = false)
    : stripped (Text.trim raw) = (Text.trim raw).toList := by
  have hstrip : Strip.strip isC0ControlOrSpace (Text.trim raw).toList = (Text.trim raw).toList := by
    apply Strip.strip_of_imp (Text.strip_trim raw)
    intro c hc hstripped
    rcases isControl_of_stripped hstripped with h | h
    . rw [hcontrol c hc] at h
      cases h
    . exact h
  have hboth : ((Text.trim raw).toList.dropWhile isC0ControlOrSpace).rdropWhile isC0ControlOrSpace
      = (Text.trim raw).toList := hstrip
  unfold stripped
  rw [hboth]
  refine List.filter_eq_self.mpr fun c hc => ?_
  cases h : isTabOrNewline c with
  | false => rfl
  | true =>
    have := isControl_of_isTabOrNewline h
    rw [hcontrol c hc] at this
    cases this

section

variable (parseAbsolute : List Char → Option Origin) (parseAuthority : List Char → Option (String × Nat))
  (base : Origin)

theorem resolve_slash : resolve parseAbsolute parseAuthority base "/" = some base := by
  have hstripped : stripped "/" = ['/'] := by decide +kernel
  unfold resolve
  rw [hstripped]
  rfl

theorem hasScheme_slash (rest : List Char) : hasScheme ('/' :: rest) = false := rfl

-- The filter passes only text that begins with one slash.
theorem sanitizeReturnTo_cases (raw : String)
    : sanitizeReturnTo raw = "/"
        ∧ ¬(['/', '\\'] <+: (Text.trim raw).toList ∧ Text.contains (Text.trim raw) "://" = false
          ∧ ∀ c ∈ (Text.trim raw).toList, Text.isControl c = false)
      ∨ sanitizeReturnTo raw = Text.trim raw
        ∧ (∃ rest, (Text.trim raw).toList = '/' :: rest ∧ rest.head? ≠ some '/')
        ∧ Text.contains (Text.trim raw) "://" = false
        ∧ ∀ c ∈ (Text.trim raw).toList, Text.isControl c = false := by
  unfold sanitizeReturnTo
  dsimp only
  split
  . next hempty =>
    refine .inl ⟨rfl, ?_⟩
    rintro ⟨hslashes, _⟩
    rw [hempty] at hslashes
    exact absurd hslashes (by decide)
  . split
    . next hrelative =>
      refine .inl ⟨rfl, ?_⟩
      rintro ⟨⟨rest, hrest⟩, hscheme, _⟩
      rw [hscheme, ← hrest] at hrelative
      revert hrelative
      exact Bool.false_ne_true
    . next hrelative =>
      simp only [Bool.or_eq_true, Bool.not_eq_true', not_or] at hrelative
      rcases hrelative with ⟨⟨hfirst, hsecond⟩, hscheme⟩
      split
      . next hcontrol =>
        refine .inl ⟨rfl, ?_⟩
        rintro ⟨_, _, hnone⟩
        rcases List.any_eq_true.mp hcontrol with ⟨c, hc, hcontrol⟩
        rw [hnone c hc] at hcontrol
        cases hcontrol
      . next hcontrol =>
        refine .inr ⟨rfl, ?_, Bool.eq_false_iff.mpr hscheme, ?_⟩
        . rcases List.isPrefixOf_iff_prefix.mp (Bool.of_not_eq_false hfirst) with ⟨rest, hrest⟩
          refine ⟨rest, hrest.symm, ?_⟩
          intro hhead
          apply hsecond
          rcases List.head?_eq_some_iff.mp hhead with ⟨more, rfl⟩
          rw [← hrest]
          rfl
        . intro c hc
          rw [Bool.eq_false_iff]
          exact fun h => hcontrol (List.any_eq_true.mpr ⟨c, hc, h⟩)

theorem resolve_trim {raw : String} {rest : List Char} (hrest : (Text.trim raw).toList = '/' :: rest)
    (hsecond : rest.head? ≠ some '/')
    (hcontrol : ∀ c ∈ (Text.trim raw).toList, Text.isControl c = false)
    : resolve parseAbsolute parseAuthority base (Text.trim raw)
      = if ['/', '\\'] <+: (Text.trim raw).toList then
          (parseAuthority (authority (Text.trim raw).toList)).map
            (fun (host, port) => { base with host, port })
        else
          some base := by
  unfold resolve
  rw [stripped_trim hcontrol, hrest]
  dsimp only
  rw [hasScheme_slash, if_neg Bool.false_ne_true]
  cases rest with
  | nil =>
    rw [if_neg (by decide)]
  | cons c more =>
    have hne : c ≠ '/' := fun h => hsecond (congrArg some h)
    by_cases hc : c = '\\'
    . subst hc
      have hslashes : ['/', '\\'] <+: '/' :: '\\' :: more := List.prefix_append ['/', '\\'] more
      rw [if_pos hslashes]
      rfl
    . have hslashes : ¬['/', '\\'] <+: '/' :: c :: more := by
        intro h
        rw [List.cons_prefix_cons, List.cons_prefix_cons] at h
        exact hc h.2.1.symm
      have hslash : (isSlash '/' && isSlash c) = false := by
        unfold isSlash
        rw [decide_eq_false hne, decide_eq_false hc]
        rfl
      rw [if_neg hslashes]
      dsimp only
      rw [hslash]
      rfl

/--
The page that a sign-on returns to is on the origin of the dashboard if and only if it does not begin with a
slash and a backslash, is rejected for another reason, or names no other host and port after them.
-/
theorem stays_iff (raw : String)
    : (∀ origin, resolve parseAbsolute parseAuthority base (sanitizeReturnTo raw) = some origin
        → origin = base)
      ↔ ¬(['/', '\\'] <+: (Text.trim raw).toList
        ∧ Text.contains (Text.trim raw) "://" = false
        ∧ (∀ c ∈ (Text.trim raw).toList, Text.isControl c = false)
        ∧ ∃ target, parseAuthority (authority (Text.trim raw).toList) = some target
          ∧ target ≠ (base.host, base.port)) := by
  rcases sanitizeReturnTo_cases raw
    with ⟨hslash, hrejected⟩ | ⟨htrim, ⟨rest, hrest, hsecond⟩, hscheme, hcontrol⟩
  . rw [hslash, resolve_slash]
    constructor
    . rintro _ ⟨hslashes, hscheme, hcontrol, _⟩
      exact hrejected ⟨hslashes, hscheme, hcontrol⟩
    . rintro _ origin ⟨⟩
      rfl
  . rw [htrim, resolve_trim parseAbsolute parseAuthority base hrest hsecond hcontrol]
    by_cases hslashes : ['/', '\\'] <+: (Text.trim raw).toList
    . rw [if_pos hslashes]
      constructor
      . rintro h ⟨_, _, _, target, htarget, hother⟩
        rw [htarget] at h
        have hbase := h _ rfl
        exact hother (Prod.ext (congrArg Origin.host hbase) (congrArg Origin.port hbase))
      . intro h origin horigin
        rcases Option.map_eq_some_iff.mp horigin with ⟨target, htarget, rfl⟩
        by_cases hsame : target = (base.host, base.port)
        . rw [hsame]
        . exact absurd ⟨hslashes, hscheme, hcontrol, target, htarget, hsame⟩ h
    . rw [if_neg hslashes]
      constructor
      . rintro _ ⟨hslashes', _⟩
        exact hslashes hslashes'
      . rintro _ origin ⟨⟩
        rfl

-- The login sanitizes the query parameter.
theorem oidcLoginReturnTo_query (raw : String) (header : Option String)
    : oidcLoginReturnTo (some raw) header = sanitizeReturnTo raw := by
  unfold oidcLoginReturnTo sanitizeReturnTo
  rw [Option.getD_some, Text.trim_trim]

-- The filter lets a backslash in the place of the second slash pass.
theorem backslash_leaves
    : let base := { scheme := "https", host := "dashboard.example", port := 443 : Origin }
      let parseAuthority := fun cs => if cs = [] then none else some (String.ofList cs, 443)
      resolve (fun _ => none) parseAuthority base (sanitizeReturnTo "/\\evil.example")
        = some { scheme := "https", host := "evil.example", port := 443 } := by
  decide +kernel

end

end ReturnTo

end Vantyr
