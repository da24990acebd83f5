import CorvidNano.Library.InternetAddress
import CorvidNano.Library.Url

/-!
# The SSRF guard

`is_ssrf_blocked` in `sandbox.rs`, and what it guards against: a URL whose destination is a
private or local address. The guard looks at the text between the scheme and the first `/`, while
a client dials the host of the URL's authority.

`GuardCorrect` says what is expected of the guard on a URL. `Recognised` lists the texts that it
blocks, and `is_blocked_host_iff` says that it blocks exactly these. Comparing ASCII letters only
is what `to_lowercase` comes to here, because no character outside ASCII has a lower case in the
texts that the guard looks for.
-/

namespace CorvidNano.Host.Ssrf

open Digits InternetAddress Text Url

/-- The URL has one of the two prefixes that the guard lets through. -/
def isHttp (url : List Char) : Bool :=
  "http://".toList.isPrefixOf url || "https://".toList.isPrefixOf url

/-- The text after the prefix. -/
def afterHttp (url : List Char) : Option (List Char) :=
  ("http://".toList.isPrefixOf? url).or ("https://".toList.isPrefixOf? url)

/-- `extract_host`: everything between the prefix and the first `/`. -/
def extractHost (url : List Char) : Option (List Char) :=
  (afterHttp url).map (before '/')

/-- The host of `is_blocked_host`: what stands in the brackets, or before the only colon. -/
def hostPart (hostWithPort : List Char) : List Char :=
  if hostWithPort.head? = some '[' then before ']' (hostWithPort.dropWhile (· == '['))
  else if hostWithPort.count ':' = 1 then before ':' hostWithPort
  else hostWithPort

/-- `parse::<u8>`: decimal digits, after at most one plus sign. -/
def parseU8 (piece : List Char) : Option Nat :=
  let digits := match piece with
    | '+' :: rest => rest
    | _ => piece
  if digits = [] then none else (number? 10 digits).filter (· < 256)

/-- The numbers among the dot-separated pieces of a host. -/
def parts (host : List Char) : List Nat :=
  (host.splitOn '.').filterMap parseU8

/-- The first two parts of the blocked IPv4 networks. -/
def isPrivate (a b : Nat) : Bool :=
  a == 127 || a == 10 || (a == 172 && decide (16 ≤ b ∧ b ≤ 31)) || (a == 192 && b == 168) ||
    (a == 169 && b == 254)

/-- The host has four numeric parts that lie in a blocked network. -/
def hasPrivateParts (host : List Char) : Bool :=
  -- Pieces that are no numbers have been dropped, so a longer name can leave four parts too.
  match parts host with
  | [a, b, _, _] => isPrivate a b
  | _ => false

/-- `is_blocked_host`, with at most `fuel` calls of itself. -/
def isBlockedHostWithin : Nat → List Char → Bool
  | 0, _ => false
  | fuel + 1, hostWithPort =>
      let host := hostPart hostWithPort
      let hostLower := lower host
      if hostLower = "localhost".toList then true
      else if host = "169.254.169.254".toList then true
      else if hasPrivateParts host then true
      else
        match "::ffff:".toList.isPrefixOf? hostLower with
        | some ipv4Part => isBlockedHostWithin fuel ipv4Part
        | none =>
            if hostLower = "::1".toList then true
            else ("fc".toList.isPrefixOf hostLower || "fd".toList.isPrefixOf hostLower) &&
              hostLower.contains ':'

/-- `is_blocked_host`. Each call of itself is on a shorter text. -/
def isBlockedHost (hostWithPort : List Char) : Bool :=
  isBlockedHostWithin (hostWithPort.length + 1) hostWithPort

/-- `is_ssrf_blocked`. -/
def isSsrfBlocked (url : List Char) : Bool :=
  if isHttp url = false then true
  else
    match extractHost url with
    | none => true
    | some host => isBlockedHost host

/-! ## What the guard is for -/

/-- What a URL names as its destination. -/
inductive Destination where
  | localhost
  | ipv4 (address : Nat)
  | ipv6 (address : Nat)
  | name
  | invalid
  deriving DecidableEq

/-- The destination of a host's text, in any notation that a URL client accepts. -/
def destinationOf (host : List Char) : Destination :=
  if HasLiteral host then
    match ipv6? (host.tail.dropLast) with
    | some address => .ipv6 address
    | none => .invalid
  else
    let host := dropRoot (lower (percentDecode host))
    if host = "localhost".toList then .localhost
    else
      match ipv4? host with
      | some address => .ipv4 address
      | none => if isDnsName host then .name else .invalid

/-- The blocked IPv4 networks: loopback, the private networks and link-local addresses. -/
def blockedIpv4 (address : Nat) : Bool :=
  inNetwork 32 8 0x7F000000 address || inNetwork 32 8 0x0A000000 address ||
    inNetwork 32 12 0xAC100000 address || inNetwork 32 16 0xC0A80000 address ||
    inNetwork 32 16 0xA9FE0000 address

/-- The blocked IPv6 networks: loopback, unique-local and link-local addresses, and the blocked
IPv4 addresses in their mapped form. -/
def blockedIpv6 (address : Nat) : Bool :=
  address == 1 || inNetwork 128 7 (0xFC00 * 2 ^ 112) address ||
    inNetwork 128 10 (0xFE80 * 2 ^ 112) address ||
    (inNetwork 128 96 (0xFFFF * 2 ^ 32) address && blockedIpv4 (address % 2 ^ 32))

/-- A destination that no plugin may reach. -/
def Destination.isBlocked : Destination → Bool
  | .localhost => true
  | .ipv4 address => blockedIpv4 address
  | .ipv6 address => blockedIpv6 address
  | .name | .invalid => false

/-- The destination of a URL. -/
def destination (url : List Char) : Destination :=
  match Url.host url with
  | some host => destinationOf host
  | none => .invalid

/-- The guard does its work on a URL: it blocks what no plugin may reach, and it lets a DNS name
through. -/
def GuardCorrect (url : List Char) : Prop :=
  ((destination url).isBlocked = true → isSsrfBlocked url = true) ∧
    (isHttp url = true → destination url = .name → isSsrfBlocked url = false)

/-! ## What the guard recognises -/

/-- The texts before the first `/` that the guard blocks, by their host part: `localhost` in any
case, four numeric parts in a blocked network, `::1`, a text with a colon that begins with `fc`
or `fd`, and one of these after `::ffff:`. -/
inductive Recognised : List Char → Prop where
  | localhost {hostWithPort : List Char} :
      lower (hostPart hostWithPort) = "localhost".toList → Recognised hostWithPort
  | privateParts {hostWithPort : List Char} :
      hasPrivateParts (hostPart hostWithPort) = true → Recognised hostWithPort
  | mapped {hostWithPort rest : List Char} :
      "::ffff:".toList ++ rest = lower (hostPart hostWithPort) → Recognised rest →
      Recognised hostWithPort
  | loopback {hostWithPort : List Char} :
      lower (hostPart hostWithPort) = "::1".toList → Recognised hostWithPort
  | uniqueLocal {hostWithPort : List Char} :
      ("fc".toList <+: lower (hostPart hostWithPort) ∨
        "fd".toList <+: lower (hostPart hostWithPort)) →
      ':' ∈ lower (hostPart hostWithPort) → Recognised hostWithPort

/-- The host part is no longer than the text it is taken from. -/
theorem length_host_part_le (hostWithPort : List Char) :
    (hostPart hostWithPort).length ≤ hostWithPort.length := by
  unfold hostPart
  split
  · exact (before_initial _ _).length_le.trans (List.dropWhile_suffix _).length_le
  · split
    · exact (before_initial _ _).length_le
    · exact Nat.le_refl _

/-- A mapped address leaves less to look at. -/
theorem length_lt_of_mapped {hostWithPort rest : List Char}
    (h : "::ffff:".toList ++ rest = lower (hostPart hostWithPort)) :
    rest.length < hostWithPort.length := by
  have hlength := congrArg List.length h
  rw [List.length_append, length_lower, show "::ffff:".toList.length = 7 from rfl] at hlength
  have hle := length_host_part_le hostWithPort
  omega

/-- The texts that start with `::ffff:` are none of the later ones. -/
theorem not_later_of_mapped {hostLower rest : List Char}
    (h : "::ffff:".toList ++ rest = hostLower) :
    hostLower ≠ "::1".toList ∧ ¬ "fc".toList <+: hostLower ∧ ¬ "fd".toList <+: hostLower := by
  subst h
  refine ⟨fun heq => ?_, fun hinitial => ?_, fun hinitial => ?_⟩
  · simp at heq
  · simp at hinitial
  · simp at hinitial

/-- One call of the guard's host test: its own checks, or the call on the mapped address. -/
theorem is_blocked_host_within_succ (fuel : Nat) (hostWithPort : List Char) :
    isBlockedHostWithin (fuel + 1) hostWithPort = true ↔
      lower (hostPart hostWithPort) = "localhost".toList ∨
      hasPrivateParts (hostPart hostWithPort) = true ∨
      (∃ rest, "::ffff:".toList ++ rest = lower (hostPart hostWithPort) ∧
        isBlockedHostWithin fuel rest = true) ∨
      lower (hostPart hostWithPort) = "::1".toList ∨
      ("fc".toList <+: lower (hostPart hostWithPort) ∨
        "fd".toList <+: lower (hostPart hostWithPort)) ∧
        ':' ∈ lower (hostPart hostWithPort) := by
  rw [isBlockedHostWithin]
  by_cases hlocalhost : lower (hostPart hostWithPort) = "localhost".toList
  · rw [if_pos hlocalhost]
    exact iff_of_true rfl (.inl hlocalhost)
  · rw [if_neg hlocalhost]
    by_cases hmetadata : hostPart hostWithPort = "169.254.169.254".toList
    · rw [if_pos hmetadata]
      exact iff_of_true rfl (.inr (.inl (hmetadata ▸ by decide)))
    · rw [if_neg hmetadata]
      by_cases hparts : hasPrivateParts (hostPart hostWithPort) = true
      · rw [if_pos hparts]
        exact iff_of_true rfl (.inr (.inl hparts))
      · rw [if_neg hparts]
        cases hmapped : "::ffff:".toList.isPrefixOf? (lower (hostPart hostWithPort)) with
        | some rest =>
            rw [List.isPrefixOf?_eq_some_iff_append_eq] at hmapped
            obtain ⟨hloopback, hfc, hfd⟩ := not_later_of_mapped hmapped
            constructor
            · intro hblocked
              exact .inr (.inr (.inl ⟨rest, hmapped, hblocked⟩))
            · rintro (h | h | ⟨other, hother, hblocked⟩ | h | ⟨h, _⟩)
              · exact absurd h hlocalhost
              · exact absurd h hparts
              · obtain rfl := List.append_cancel_left (hother.trans hmapped.symm)
                exact hblocked
              · exact absurd h hloopback
              · exact absurd h (not_or.mpr ⟨hfc, hfd⟩)
        | none =>
            have hunmapped : ∀ rest, "::ffff:".toList ++ rest ≠ lower (hostPart hostWithPort) := by
              intro rest hrest
              rw [List.isPrefixOf?_eq_some_iff_append_eq.mpr hrest] at hmapped
              cases hmapped
            by_cases hloopback : lower (hostPart hostWithPort) = "::1".toList
            · dsimp only
              rw [if_pos hloopback]
              exact iff_of_true rfl (.inr (.inr (.inr (.inl hloopback))))
            · simp only [hlocalhost, hparts, hloopback, hunmapped, if_false, false_or, false_and,
                exists_false, Bool.false_eq_true, Bool.and_eq_true, Bool.or_eq_true,
                List.isPrefixOf_iff_prefix, List.contains_iff_mem]

/-- With enough fuel, the guard blocks a text if and only if it recognises it. -/
theorem is_blocked_host_within_iff {fuel : Nat} {hostWithPort : List Char}
    (hfuel : hostWithPort.length < fuel) :
    isBlockedHostWithin fuel hostWithPort = true ↔ Recognised hostWithPort := by
  induction fuel generalizing hostWithPort with
  | zero => omega
  | succ fuel ih =>
      rw [is_blocked_host_within_succ]
      constructor
      · rintro (h | h | ⟨rest, hrest, hblocked⟩ | h | ⟨h, hcolon⟩)
        · exact .localhost h
        · exact .privateParts h
        · have hlength := length_lt_of_mapped hrest
          exact .mapped hrest ((ih (by omega)).mp hblocked)
        · exact .loopback h
        · exact .uniqueLocal h hcolon
      · intro hrecognised
        cases hrecognised with
        | localhost h => exact .inl h
        | privateParts h => exact .inr (.inl h)
        | @mapped _ rest h hrest =>
            -- The rest is shorter than the text by the seven characters of the prefix.
            have hlength := length_lt_of_mapped h
            exact .inr (.inr (.inl ⟨rest, h, (ih (by omega)).mpr hrest⟩))
        | loopback h => exact .inr (.inr (.inr (.inl h)))
        | uniqueLocal h hcolon => exact .inr (.inr (.inr (.inr ⟨h, hcolon⟩)))

/-- The guard's host test is `Recognised`. -/
theorem is_blocked_host_iff (hostWithPort : List Char) :
    isBlockedHost hostWithPort = true ↔ Recognised hostWithPort :=
  is_blocked_host_within_iff (Nat.lt_succ_self _)

/-! ## The host behind the text before the first `/` -/

/-- The part of the text before the first `/` that belongs to the authority. -/
def beforeQuery (text : List Char) : List Char :=
  text.takeWhile fun c => c != '?' && c != '#'

/-- What follows a prefix is what follows the scheme. -/
theorem after_scheme_of_after_http {url rest : List Char} (h : afterHttp url = some rest) :
    afterScheme url = some rest := by
  unfold afterHttp at h
  rw [Option.or_eq_some_iff] at h
  rcases h with h | ⟨_, h⟩
  · rw [List.isPrefixOf?_eq_some_iff_append_eq] at h
    subst h
    simp [afterScheme]
  · rw [List.isPrefixOf?_eq_some_iff_append_eq] at h
    subst h
    simp [afterScheme]

/-- The authority ends at the first `/`, or earlier at a query or a fragment. -/
theorem authority_eq (rest : List Char) : authority rest = beforeQuery (before '/' rest) := by
  unfold authority beforeQuery before
  rw [List.takeWhile_takeWhile]
  congr 1
  funext c
  unfold inAuthority
  cases c != '/' <;> cases c != '?' <;> cases c != '#' <;> rfl

/-- The host that a client dials for a URL with the given text before its first `/`. -/
theorem host_eq {url text : List Char} (h : extractHost url = some text) :
    Url.host url = some (hostOf (beforeQuery text)) := by
  unfold extractHost at h
  rw [Option.map_eq_some_iff] at h
  obtain ⟨rest, hrest, rfl⟩ := h
  unfold Url.host
  rw [after_scheme_of_after_http hrest, Option.map_some, authority_eq]

/-- A URL has a host to look at if and only if it has one of the two prefixes. -/
theorem is_http_iff (url : List Char) : isHttp url = (extractHost url).isSome := by
  unfold isHttp extractHost afterHttp
  rw [Option.isSome_map, Option.isSome_or, List.isSome_isPrefixOf?_eq_isPrefixOf,
    List.isSome_isPrefixOf?_eq_isPrefixOf]

/-- The guard blocks every URL without the prefixes, and any other by its host. -/
theorem is_ssrf_blocked_iff (url : List Char) :
    isSsrfBlocked url = true ↔ ∀ host, extractHost url = some host → Recognised host := by
  unfold isSsrfBlocked
  rw [is_http_iff]
  cases extractHost url with
  | none => simp
  | some host => simp [is_blocked_host_iff]

/-- A text without a percent sign is decoded already. -/
theorem percent_decode_eq_self {text : List Char} (h : '%' ∉ text) : percentDecode text = text := by
  induction text with
  | nil => rfl
  | cons c rest ih =>
      have hc : c ≠ '%' := fun heq => h (by simp [heq])
      rw [percentDecode, ih (fun hmem => h (List.mem_cons_of_mem _ hmem))]
      intro _ _ _ heq _
      exact hc heq

/-- The name `localhost` is one destination in any case. -/
theorem destination_of_localhost {host : List Char} (h : lower host = "localhost".toList) :
    destinationOf host = .localhost := by
  have hmissing : ∀ c : Char, c.isLower = false → c.toLower = c → c ∉ "localhost".toList →
      c ∉ host := by
    intro c hlower hc hnot
    rwa [← h, mem_lower_iff hlower hc] at hnot
  have hpercent := hmissing '%' (by decide) (by decide) (by decide)
  have hbracket := hmissing '[' (by decide) (by decide) (by decide)
  unfold destinationOf
  rw [if_neg fun hliteral => hbracket (List.mem_of_mem_head? hliteral.1),
    percent_decode_eq_self hpercent, h]
  rfl

end CorvidNano.Host.Ssrf
