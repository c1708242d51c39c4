import Vantyr.Data.IpAddress

/-!
This module contains the client address that the lockout and the rate limits count by
(`server/src/http/trusted_proxy.rs`, `server/src/auth/lockout.rs`), and the chain of proxies that a
request comes through. The address does not depend on what the client supplies exactly if the peer is
not a trusted proxy, when it is the address of the peer.
-/

namespace Vantyr

open IpAddr

def trimChars (text : List Char) : List Char :=
  (text.dropWhile Text.isWhitespace).rdropWhile Text.isWhitespace

-- Reads a `u8`.
def parseU8 (text : List Char) : Option Nat :=
  let digits := if text.head? = some '+' then text.tail else text
  if digits = [] ∨ ¬ digits.all (·.isDigit) then
    none
  else
    (some (Nat.ofDigitChars 10 digits 0)).filter (· < 256)

-- The length of a prefix is at most that of the address.
structure Cidr where
  base : IpAddr
  prefixLen : Nat
  valid : prefixLen ≤ if base.isIpv4 then 32 else 128

def Cidr.ofPrefix (base : IpAddr) (prefixLen : Nat) : Option Cidr :=
  if h : prefixLen ≤ if base.isIpv4 then 32 else 128 then
    some { base, prefixLen, valid := h }
  else
    none

def Cidr.ofHost (base : IpAddr) : Cidr where
  base
  prefixLen := if base.isIpv4 then 32 else 128
  valid := Nat.le_refl _

def Cidr.parse (text : List Char) : Option Cidr :=
  let text := trimChars text
  if text = [] then
    none
  else if '/' ∈ text then do
    let base ← IpAddr.parse (trimChars (text.takeWhile (· ≠ '/')))
    let prefixLen ← parseU8 (trimChars (text.dropWhile (· ≠ '/')).tail)
    Cidr.ofPrefix base prefixLen
  else
    (IpAddr.parse text).map Cidr.ofHost

-- Shifting out all bits leaves none.
def maskedEq {w : Nat} (a b : BitVec w) (prefixLen : Nat) : Bool :=
  let mask := BitVec.allOnes w <<< (w - prefixLen)
  a &&& mask = b &&& mask

def Cidr.contains (cidr : Cidr) (ip : IpAddr) : Bool :=
  match cidr.base, ip with
  | .v4 base, .v4 ip => maskedEq base ip cidr.prefixLen
  | .v6 base, .v6 ip => maskedEq base ip cidr.prefixLen
  | _, _ => false

structure TrustedProxies where
  cidrs : List Cidr

-- The parsed set, and the tokens that could not be parsed.
def TrustedProxies.parseList (text : List Char) : TrustedProxies × List (List Char) :=
  let separators := [',', ' ', '\n', '\t', '\r']
  let tokens := ((text.splitOnP (· ∈ separators)).map trimChars).filter (· ≠ [])
  (
    { cidrs := tokens.filterMap Cidr.parse },
    tokens.filter (fun token => (Cidr.parse token).isNone)
  )

def TrustedProxies.isTrusted (proxies : TrustedProxies) (ip : IpAddr) : Bool :=
  proxies.cidrs.any (·.contains ip)

-- The lines of the two headers of a request. A value is a list of bytes, each a character below 256.
structure Headers where
  xForwardedFor : List (List Char)
  xRealIp : List (List Char)
  deriving DecidableEq, Repr

def isVisibleAscii (c : Char) : Bool :=
  32 ≤ c.toNat && c.toNat < 127 || c = '\t'

def toStr (value : List Char) : Option (List Char) :=
  if value.all isVisibleAscii then some value else none

-- The first one of the lines that a header has.
def getStr (lines : List (List Char)) : Option (List Char) :=
  lines.head?.bind toStr

def forwardedClientIp (headers : Headers) : Option IpAddr :=
  let forwarded := (getStr headers.xForwardedFor).bind
    (fun v => (v.splitOnP (· = ',')).findSome? (fun s => IpAddr.parse (trimChars s)))
  let real := (getStr headers.xRealIp).bind (fun v => IpAddr.parse (trimChars v))
  forwarded.or real

def TrustedProxies.clientIp (proxies : TrustedProxies) (headers : Headers) (peer : SocketAddr)
    : IpAddr :=
  if proxies.isTrusted peer.ip then
    (forwardedClientIp headers).getD peer.ip
  else
    peer.ip

def loginClientKey (proxies : TrustedProxies) (headers : Headers) (addr : SocketAddr) : String :=
  String.ofList (proxies.clientIp headers addr).display

-- How a proxy appends to the lines that it received.
inductive Appending where
  | joined
  | lastLine
  | newLine
  deriving DecidableEq, Repr

-- A proxy appends the address that it saw, and may also set the other header to it.
structure Proxy where
  saw : IpAddr
  appending : Appending
  setsRealIp : Bool
  deriving DecidableEq, Repr

def Appending.append (appending : Appending) (text : List Char) (lines : List (List Char))
    : List (List Char) :=
  match appending with
  | .joined => [[',', ' '].intercalate (lines ++ [text])]
  | .lastLine =>
    match lines.getLast? with
    | none => [text]
    | some line => lines.dropLast ++ [line ++ [',', ' '] ++ text]
  | .newLine => lines ++ [text]

def Proxy.forward (proxy : Proxy) (headers : Headers) : Headers where
  xForwardedFor := proxy.appending.append proxy.saw.display headers.xForwardedFor
  xRealIp := if proxy.setsRealIp then [proxy.saw.display] else headers.xRealIp

-- The headers that reach the server, the first proxy being the one that the client talks to.
def forwardAll (chain : List Proxy) (supplied : Headers) : Headers :=
  chain.foldl (fun headers proxy => proxy.forward headers) supplied

-- The first line starts with `text`, which a comma or the end follows, and all of it is visible.
def Leads (text : List Char) (lines : List (List Char)) : Prop :=
  ∃ rest lines', lines = (text ++ rest) :: lines'
    ∧ (rest = [] ∨ ∃ more, rest = ',' :: more)
    ∧ ∀ line ∈ lines, ∀ c ∈ line, isVisibleAscii c = true

theorem isVisibleAscii_of_isDisplayed {c : Char} (h : isDisplayed c = true)
    : isVisibleAscii c = true := by
  unfold isDisplayed at h
  rw [decide_eq_true_eq] at h
  exact List.all_eq_true.mp (by decide) c h

theorem isVisibleAscii_display (ip : IpAddr) : ∀ c ∈ ip.display, isVisibleAscii c = true :=
  fun c hc => isVisibleAscii_of_isDisplayed (isDisplayed_display ip c hc)

theorem isVisibleAscii_comma : ∀ c ∈ [',', ' '], isVisibleAscii c = true :=
  List.all_eq_true.mp rfl

theorem isVisibleAscii_intercalate {lines : List (List Char)}
    (h : ∀ line ∈ lines, ∀ c ∈ line, isVisibleAscii c = true)
    : ∀ c ∈ [',', ' '].intercalate lines, isVisibleAscii c = true := by
  induction lines with
  | nil => simp
  | cons line lines ih =>
    rw [List.forall_mem_cons] at h
    by_cases hnil : lines = []
    . rw [hnil, List.intercalate_singleton]
      exact h.1
    . rw [List.intercalate_cons_of_ne_nil hnil, List.forall_mem_append, List.forall_mem_append]
      exact ⟨⟨h.1, isVisibleAscii_comma⟩, ih h.2⟩

namespace Leads

variable {text : List Char} {lines : List (List Char)}

theorem append (h : Leads text lines) (appending : Appending) {seen : List Char}
    (hseen : ∀ c ∈ seen, isVisibleAscii c = true)
    : Leads text (appending.append seen lines) := by
  rcases h with ⟨rest, lines', rfl, hrest, hvisible⟩
  have hall : ∀ line ∈ (text ++ rest) :: lines' ++ [seen], ∀ c ∈ line, isVisibleAscii c = true := by
    rw [List.forall_mem_append]
    exact ⟨hvisible, by simpa using hseen⟩
  cases appending with
  | newLine => exact ⟨rest, lines' ++ [seen], rfl, hrest, hall⟩
  | joined =>
    have hne : lines' ++ [seen] ≠ [] := by simp
    have heq : [',', ' '].intercalate ((text ++ rest) :: lines' ++ [seen])
        = text ++ (rest ++ ',' :: ' ' :: [',', ' '].intercalate (lines' ++ [seen])) := by
      rw [List.cons_append, List.intercalate_cons_of_ne_nil hne]
      simp
    refine ⟨rest ++ ',' :: ' ' :: [',', ' '].intercalate (lines' ++ [seen]), [], ?_, ?_, ?_⟩
    . rw [Appending.append, heq]
    . right
      rcases hrest with rfl | ⟨more, rfl⟩
      . exact ⟨_, rfl⟩
      . exact ⟨_, rfl⟩
    . simp only [Appending.append, List.forall_mem_singleton]
      exact isVisibleAscii_intercalate hall
  | lastLine =>
    simp only [Appending.append]
    rcases List.eq_nil_or_concat lines' with rfl | ⟨lines'', last, rfl⟩
    . refine ⟨rest ++ ([',', ' '] ++ seen), [], by simp, ?_, ?_⟩
      . right
        rcases hrest with rfl | ⟨more, rfl⟩
        . exact ⟨_, rfl⟩
        . exact ⟨_, rfl⟩
      . rw [List.forall_mem_cons] at hvisible
        simp only [List.getLast?_singleton, List.dropLast_singleton, List.nil_append,
          List.forall_mem_singleton, List.forall_mem_append]
        exact ⟨⟨List.forall_mem_append.mp hvisible.1, isVisibleAscii_comma⟩, hseen⟩
    . have hlast : ((text ++ rest) :: lines''.concat last).getLast? = some last := by
        rw [List.concat_eq_append, ← List.cons_append, List.getLast?_append]
        rfl
      rw [hlast]
      refine ⟨rest, lines'' ++ [last ++ [',', ' '] ++ seen], ?_, hrest, ?_⟩
      . simp [List.dropLast_cons_of_ne_nil]
      . intro line hline
        simp only [List.mem_append, List.mem_singleton] at hline
        rcases hline with hline | rfl
        . exact hvisible line (List.dropLast_subset _ hline)
        . rw [List.forall_mem_append, List.forall_mem_append]
          exact ⟨⟨hvisible last (by simp), isVisibleAscii_comma⟩, hseen⟩

theorem forwardAll {supplied : Headers} (h : Leads text supplied.xForwardedFor) (chain : List Proxy)
    : Leads text (forwardAll chain supplied).xForwardedFor := by
  induction chain generalizing supplied with
  | nil => exact h
  | cons proxy chain ih => exact ih (h.append proxy.appending (isVisibleAscii_display proxy.saw))

-- What leads is what the server takes, if it is an address.
theorem forwardedClientIp {headers : Headers} (h : Leads text headers.xForwardedFor) {ip : IpAddr}
    (hcomma : ',' ∉ text) (hip : IpAddr.parse (trimChars text) = some ip)
    : forwardedClientIp headers = some ip := by
  rcases h with ⟨rest, lines', heq, hrest, hvisible⟩
  have hget : getStr headers.xForwardedFor = some (text ++ rest) := by
    have : (text ++ rest).all isVisibleAscii = true := by
      rw [List.all_eq_true]
      apply hvisible
      rw [heq]
      exact List.mem_cons_self
    simp [getStr, toStr, heq, this]
  have hsplit : ∃ others, (text ++ rest).splitOnP (· = ',') = text :: others := by
    have hnone : ∀ c ∈ text, decide (c = ',') = false := by
      intro c hc
      rw [decide_eq_false_iff_not]
      rintro rfl
      exact hcomma hc
    rcases hrest with rfl | ⟨more, rfl⟩
    . rw [List.append_nil]
      exact ⟨[], List.splitOnP_eq_singleton hnone⟩
    . exact ⟨_, List.splitOnP_append_cons_of_forall_mem hnone ',' (by simp) more⟩
  rcases hsplit with ⟨others, hsplit⟩
  simp [Vantyr.forwardedClientIp, hget, hsplit, hip]

end Leads

namespace TrustedProxies

variable {proxies : TrustedProxies} {peer : SocketAddr}

theorem clientIp_untrusted (h : proxies.isTrusted peer.ip = false) (headers : Headers)
    : proxies.clientIp headers peer = peer.ip := by
  simp [clientIp, h]

theorem clientIp_supplied (h : proxies.isTrusted peer.ip = true) (chain : List Proxy)
    {supplied : Headers} {text : List Char} (hleads : Leads text supplied.xForwardedFor) {ip : IpAddr}
    (hcomma : ',' ∉ text) (hip : IpAddr.parse (trimChars text) = some ip)
    : proxies.clientIp (forwardAll chain supplied) peer = ip := by
  simp [clientIp, h, (hleads.forwardAll chain).forwardedClientIp hcomma hip]

-- Two requests that claim different addresses.
def claimsOnes : Headers where
  xForwardedFor := [['1', '.', '1', '.', '1', '.', '1']]
  xRealIp := []

def claimsTwos : Headers where
  xForwardedFor := [['2', '.', '2', '.', '2', '.', '2']]
  xRealIp := []

theorem leads_claimsOnes : Leads ['1', '.', '1', '.', '1', '.', '1'] claimsOnes.xForwardedFor :=
  ⟨[], [], rfl, Or.inl rfl, List.forall_mem_singleton.mpr (List.all_eq_true.mp rfl)⟩

theorem leads_claimsTwos : Leads ['2', '.', '2', '.', '2', '.', '2'] claimsTwos.xForwardedFor :=
  ⟨[], [], rfl, Or.inl rfl, List.forall_mem_singleton.mpr (List.all_eq_true.mp rfl)⟩

-- What the client supplies does not matter exactly if the peer is not a trusted proxy, for every chain
-- of proxies.
theorem clientIp_independent_iff (chain : List Proxy)
    : ((∀ supplied supplied' : Headers,
          proxies.clientIp (forwardAll chain supplied) peer
              = proxies.clientIp (forwardAll chain supplied') peer
            ∧ loginClientKey proxies (forwardAll chain supplied) peer
              = loginClientKey proxies (forwardAll chain supplied') peer)
        ∧ (proxies.isTrusted peer.ip = false → ∀ headers,
          proxies.clientIp headers peer = peer.ip
            ∧ loginClientKey proxies headers peer = String.ofList peer.ip.display))
      ↔ proxies.isTrusted peer.ip = false := by
  constructor
  . rintro ⟨hsame, -⟩
    rw [← Bool.not_eq_true]
    intro htrusted
    have hones := clientIp_supplied htrusted chain leads_claimsOnes (by decide)
      (show IpAddr.parse _ = some (.v4 0x01010101) by decide)
    have htwos := clientIp_supplied htrusted chain leads_claimsTwos (by decide)
      (show IpAddr.parse _ = some (.v4 0x02020202) by decide)
    have := (hsame claimsOnes claimsTwos).1
    rw [hones, htwos] at this
    revert this
    decide
  . intro h
    refine ⟨fun supplied supplied' => ?_, fun _ headers => ?_⟩
    . simp only [loginClientKey, clientIp_untrusted h, and_self]
    . simp only [loginClientKey, clientIp_untrusted h, and_self]

-- A proxy at 10.0.0.5 that is trusted, and a client at 203.0.113.7.
theorem claims_rotate_key
    : ¬ ∀ (proxies : TrustedProxies) (peer : SocketAddr) (chain : List Proxy)
        (supplied supplied' : Headers),
      proxies.clientIp (forwardAll chain supplied) peer
        = proxies.clientIp (forwardAll chain supplied') peer := by
  intro h
  have := h (parseList ['1', '0', '.', '0', '.', '0', '.', '5']).1 ⟨.v4 0x0a000005, 443⟩
    [{ saw := .v4 0xcb007107, appending := .joined, setsRealIp := true }] claimsOnes claimsTwos
  revert this
  decide

end TrustedProxies

end Vantyr
