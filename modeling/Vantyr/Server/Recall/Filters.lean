import Vantyr.Data.Text

/-!
This module contains the filters by which frames are searched for, and the normal form of the host
names in them.
-/

namespace Vantyr

namespace Recall

/--
The parts of host names that are read by other libraries: `parseIp` reads an IP address and prints it,
`domainToAscii` is the function of that name of the `idna` crate, and `urlHost` is the host of
`https://<host>/` as the `url` crate parses it.
-/
structure HostSyntax where
  parseIp : String → Option String
  domainToAscii : String → Option String
  urlHost : String → Option String

-- The text between a pair of brackets.
def unbracket (raw : String) : String :=
  match raw.toList with
  | '[' :: rest => if rest.getLast? = some ']' then String.ofList rest.dropLast else raw
  | _ => raw

def stripDot (raw : String) : String :=
  if raw.toList.getLast? = some '.' then String.ofList raw.toList.dropLast else raw

def validLabel (label : List Char) : Bool :=
  !label.isEmpty
    && label.length ≤ 63
    && label.head? ≠ some '-'
    && label.getLast? ≠ some '-'
    && label.all (fun c => Text.isAsciiAlphanumeric c || c = '-')

def normalizeHost (hosts : HostSyntax) (raw : String) : Except String String :=
  if raw = ""
      || 1024 < raw.utf8ByteSize
      || Text.trim raw ≠ raw
      || raw.toList.any Text.isControl then
    .error "invalid url_host"
  else
    match hosts.parseIp (unbracket raw) with
    | some ip => .ok ip
    | none =>
      if raw.toList.any ("/:?#@\\%[]".toList.contains ·) || raw.toList.any Text.isWhitespace then
        .error "url_host must be a host literal without scheme, path or port"
      else
        match hosts.domainToAscii (stripDot raw) with
        | none => .error "invalid url_host"
        | some ascii =>
          let host := Text.toAsciiLowercase ascii
          if host = ""
              || 253 < host.utf8ByteSize
              || !(host.toList.splitOn '.').all validLabel then
            .error "invalid url_host"
          else
            match hosts.urlHost host with
            | none => .error "invalid url_host"
            | some host => .ok (String.ofList (host.toList.rdropWhile (· = '.')))

theorem normalizeHost_ok {hosts : HostSyntax} {raw host : String}
    (h : normalizeHost hosts raw = .ok host)
    : raw ≠ "" ∧ raw.utf8ByteSize ≤ 1024 ∧ Text.trim raw = raw := by
  unfold normalizeHost at h
  split at h
  . contradiction
  . next hraw =>
    simp only [Bool.or_eq_true, decide_eq_true_eq, not_or, not_not, Nat.not_lt] at hraw
    exact ⟨hraw.1.1.1, hraw.1.1.2, hraw.1.2⟩

structure Filters where
  app : Option String
  appMode : String
  title : Option String
  urlHost : Option String
  context : String
  deriving DecidableEq, Repr

namespace Filters

def default : Filters where
  app := none
  appMode := "exact"
  title := none
  urlHost := none
  context := "all"

def active (f : Filters) : Bool :=
  f.app.isSome || f.title.isSome || f.urlHost.isSome || f.context ≠ "all"

def validValue (text : Option String) (max : Nat) : Bool :=
  text.all (fun s => s ≠ "" && s.utf8ByteSize ≤ max && !s.toList.any Text.isControl)

def validate (hosts : HostSyntax) (f : Filters) : Except String Unit := do
  if ! ["exact", "prefix"].contains f.appMode
      || ! ["all", "known", "unknown"].contains f.context
      || f.app = none && f.appMode ≠ "exact" then
    throw "invalid context filters"
  if !validValue f.app 256 then
    throw "invalid context filter value"
  if !validValue f.title 1024 then
    throw "invalid context filter value"
  if f.app.any (fun app => app ≠ Text.toAsciiLowercase app) then
    throw "invalid app filter"
  if let some host := f.urlHost then
    let normal ← normalizeHost hosts host
    if normal ≠ host then
      throw "invalid host filter"
  if f.context = "unknown" && (f.app.isSome || f.title.isSome || f.urlHost.isSome) then
    throw "context=unknown cannot combine with value filters"

structure Valid (hosts : HostSyntax) (f : Filters) : Prop where
  appMode : f.appMode = "exact" ∨ f.appMode = "prefix"
  context : f.context = "all" ∨ f.context = "known" ∨ f.context = "unknown"
  app : validValue f.app 256 = true
  title : validValue f.title 1024 = true
  lower : ∀ app ∈ f.app, Text.toAsciiLowercase app = app
  host : ∀ host ∈ f.urlHost, normalizeHost hosts host = .ok host

theorem valid_of_validate {hosts : HostSyntax} {f : Filters} (h : f.validate hosts = .ok ())
    : Valid hosts f := by
  simp only [validate, bind, Except.bind, throw, throwThe, MonadExceptOf.throw, pure, Except.pure]
    at h
  split at h
  . contradiction
  . next hmode =>
    split at h
    . contradiction
    . next happ =>
      split at h
      . contradiction
      . next htitle =>
        split at h
        . contradiction
        . next hlower =>
          simp only [Bool.or_eq_true, Bool.not_eq_true', not_or, Bool.not_eq_false] at hmode
          exact {
            appMode := by simpa using hmode.1.1
            context := by simpa using hmode.1.2
            app := by simpa using happ
            title := by simpa using htitle
            lower := by
              intro app hmem
              rw [Option.mem_def] at hmem
              rw [hmem] at hlower
              have : app = Text.toAsciiLowercase app := by simpa using hlower
              exact this.symm
            host := by
              intro host hmem
              rw [Option.mem_def] at hmem
              simp only [hmem] at h
              split at h
              . contradiction
              . next normal hnormal =>
                split at h
                . contradiction
                . next heq =>
                  rw [not_not] at heq
                  rw [hnormal, heq]
          }

end Filters

def literalLike (text : String) : String :=
  String.ofList (text.toList.flatMap (fun c =>
    if c = '\\' ∨ c = '%' ∨ c = '_' then ['\\', c] else [c]))

end Recall

end Vantyr
