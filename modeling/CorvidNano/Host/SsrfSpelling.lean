import CorvidNano.Host.Ssrf

/-!
# The spellings that the SSRF guard knows

`Spelled` says how a URL has to spell its destination, so that the SSRF guard answers as expected.
By `guard_correct_iff` the guard is right on these URLs, and on no others where it looks at the host
of the URL at all (`Exposed`): an address that both a client and the guard recognise is written in
one of the listed ways. User information takes the guard's look away from the host.
-/

namespace CorvidNano.Host.SsrfSpelling

open Digits Fallible InternetAddress Ssrf Text Url

/-- The host without the brackets of an address literal. -/
def bare (host : List Char) : List Char :=
  if HasLiteral host then host.tail.dropLast else host

/-- The guard looks at the host of the URL. User information hides the host from it, and so does a
query or a fragment right behind a host that has neither a port nor brackets. -/
def Exposed (text : List Char) : Prop := hostPart text = bare (hostOf (beforeQuery text))

/-- A decimal number of at most 255, which may begin with zeros. -/
def decimal? (piece : List Char) : Option Nat :=
  if piece = [] then none else (number? 10 piece).filter (· < 256)

/-- Four decimal numbers between dots, of which the first two lie in a blocked network. The dot of
the root domain may follow. -/
inductive DottedLocal : List Char → Prop where
  | intro {first second third fourth root : List Char} {a b c d : Nat}
      (hfirst : decimal? first = some a) (hsecond : decimal? second = some b)
      (hthird : decimal? third = some c) (hfourth : decimal? fourth = some d)
      (hlocal : isPrivate a b = true) (hroot : root = [] ∨ root = ['.']) :
      DottedLocal (first ++ '.' :: (second ++ '.' :: (third ++ '.' :: (fourth ++ root))))

/-- Exactly four labels of the host are numbers of at most 255, and the first two of them lie in a
blocked network. -/
def FourLocalNumbers (host : List Char) : Prop :=
  ∃ a b c d, parts host = [a, b, c, d] ∧ isPrivate a b = true

/-- How the text before the first `/` spells its destination, so that the guard does its work.

* An address outside the blocked networks may be spelled in any way.
* The host `localhost` is written as such in any case, and an IPv4 address as four decimal numbers.
* An IPv6 address is written as `::1`, or begins with `fc` or `fd`, or is `::ffff:` and four decimal
  numbers.
* For a name, the text that the guard looks at is none of these, and it does not have exactly four
  numeric labels of which the first two look like a blocked address. -/
inductive Spelled (text : List Char) : Destination → Prop where
  | outside {destination : Destination} (hblocked : destination.isBlocked = false)
      (hname : destination ≠ .name) : Spelled text destination
  | localhost (hexposed : Exposed text) (hhost : lower (hostPart text) = "localhost".toList) :
      Spelled text .localhost
  | ipv4 {address : Nat} (hexposed : Exposed text) (hhost : DottedLocal (hostPart text)) :
      Spelled text (.ipv4 address)
  | loopback {address : Nat} (hexposed : Exposed text)
      (hhost : lower (hostPart text) = "::1".toList) : Spelled text (.ipv6 address)
  | uniqueLocal {address : Nat} (hexposed : Exposed text)
      (hhost : "fc".toList <+: lower (hostPart text) ∨ "fd".toList <+: lower (hostPart text)) :
      Spelled text (.ipv6 address)
  | mapped {address : Nat} {quad : List Char} (hexposed : Exposed text)
      (hhost : lower (hostPart text) = "::ffff:".toList ++ quad) (hquad : DottedLocal quad) :
      Spelled text (.ipv6 address)
  | name (hlocalhost : lower (hostPart text) ≠ "localhost".toList)
      (hnumbers : ¬ FourLocalNumbers (hostPart text))
      (hmapped : ¬ "::ffff:".toList <+: lower (hostPart text))
      (hloopback : lower (hostPart text) ≠ "::1".toList)
      (hstart : ':' ∈ hostPart text →
        ¬ "fc".toList <+: lower (hostPart text) ∧ ¬ "fd".toList <+: lower (hostPart text)) :
      Spelled text .name

/-! ## Dotted numbers -/

theorem has_private_parts_iff (host : List Char) :
    hasPrivateParts host = true ↔ FourLocalNumbers host := by
  unfold hasPrivateParts FourLocalNumbers
  split
  · rename_i a b c d hparts
    rw [hparts]
    constructor
    · exact fun h => ⟨a, b, c, d, rfl, h⟩
    · rintro ⟨_, _, _, _, heq, h⟩
      cases heq
      exact h
  · rename_i hother
    constructor
    · exact fun h => by cases h
    · rintro ⟨a, b, c, d, hparts, _⟩
      exact absurd hparts (hother a b c d)

theorem decimal_eq_some {piece : List Char} {value : Nat} :
    decimal? piece = some value ↔ piece ≠ [] ∧ number? 10 piece = some value ∧ value < 256 := by
  simp [decimal?, Option.filter_eq_some_iff]

theorem digits_of_decimal {piece : List Char} {value : Nat} (h : decimal? piece = some value) :
    ∀ c ∈ piece, ∃ digit, digit? 10 c = some digit :=
  fun _ hc => digits_of_number (decimal_eq_some.mp h).2.1 hc

/-- The guard reads a decimal number, and after a plus sign too. -/
theorem parse_u8_eq {piece : List Char} (h : '+' ∉ piece) : parseU8 piece = decimal? piece := by
  cases piece with
  | nil => rfl
  | cons c rest =>
      have hc : c ≠ '+' := fun heq => h (heq ▸ List.mem_cons_self)
      simp [parseU8, decimal?, hc]

theorem parse_u8_nil : parseU8 [] = none := rfl

theorem parse_u8_of_decimal {piece : List Char} {value : Nat} (h : decimal? piece = some value) :
    parseU8 piece = some value := by
  rw [parse_u8_eq, h]
  intro hplus
  obtain ⟨_, hdigit⟩ := digits_of_decimal h _ hplus
  cases hdigit

/-- Four dotted numbers are digits and dots, and the guard reads these numbers. -/
theorem dotted_local_chars {host : List Char} (h : DottedLocal host) :
    ∀ c ∈ host, c = '.' ∨ ∃ digit, digit? 10 c = some digit := by
  obtain ⟨hfirst, hsecond, hthird, hfourth, _, hroot⟩ := h
  intro c hc
  simp only [List.mem_append, List.mem_cons] at hc
  rcases hc with hc | rfl | hc | rfl | hc | rfl | hc | hc
  · exact .inr (digits_of_decimal hfirst c hc)
  · exact .inl rfl
  · exact .inr (digits_of_decimal hsecond c hc)
  · exact .inl rfl
  · exact .inr (digits_of_decimal hthird c hc)
  · exact .inl rfl
  · exact .inr (digits_of_decimal hfourth c hc)
  · rcases hroot with rfl | rfl
    · cases hc
    · exact .inl (List.mem_singleton.mp hc)

theorem four_of_dotted_local {host : List Char} (h : DottedLocal host) : FourLocalNumbers host := by
  obtain ⟨hfirst, hsecond, hthird, hfourth, hlocal, hroot⟩ := h
  rename_i first second third fourth root a b c d
  have hplain : ∀ {piece value}, decimal? piece = some value → piece.splitOn '.' = [piece] := by
    intro piece value hpiece
    refine List.splitOn_eq_singleton fun hdot => ?_
    obtain ⟨_, hdigit⟩ := digits_of_decimal hpiece _ hdot
    cases hdigit
  refine ⟨a, b, c, d, ?_, hlocal⟩
  have hlast : ((fourth ++ root).splitOn '.').filterMap parseU8 = [d] := by
    rcases hroot with rfl | rfl
    · rw [List.append_nil, hplain hfourth]
      simp [parse_u8_of_decimal hfourth]
    · rw [List.splitOn_append_cons_self, hplain hfourth]
      simp [parse_u8_of_decimal hfourth, parse_u8_nil]
  unfold parts
  rw [List.splitOn_append_cons_self, List.splitOn_append_cons_self, List.splitOn_append_cons_self,
    hplain hfirst, hplain hsecond, hplain hthird]
  simp [parse_u8_of_decimal hfirst, parse_u8_of_decimal hsecond, parse_u8_of_decimal hthird, hlast]

/-- Of at most four pieces, all are numbers. -/
theorem forall_of_four {host : List Char} (hdots : host.count '.' ≤ 3) (h : FourLocalNumbers host) :
    host.count '.' = 3 ∧ ∀ piece ∈ host.splitOn '.', (parseU8 piece).isSome := by
  obtain ⟨a, b, c, d, hparts, _⟩ := h
  have hlength : (parts host).length = 4 := by rw [hparts]; rfl
  unfold parts at hlength
  have hle := List.length_filterMap_le parseU8 (host.splitOn '.')
  rw [length_split_on] at hle
  refine ⟨by omega, forall_of_length_filter_map ?_⟩
  rw [length_split_on]
  omega

theorem dots_of_four {host : List Char} (h : FourLocalNumbers host) : 3 ≤ host.count '.' := by
  obtain ⟨a, b, c, d, hparts, _⟩ := h
  have hlength : (parts host).length = 4 := by rw [hparts]; rfl
  have hle := List.length_filterMap_le parseU8 (host.splitOn '.')
  unfold parts at hlength
  rw [length_split_on] at hle
  omega

/-- A text with three dots that the guard reads as a blocked address is one in decimal. -/
theorem dotted_local_of_four {front root : List Char} (hdots : front.count '.' ≤ 3)
    (hplus : '+' ∉ front) (hroot : root = [] ∨ root = ['.']) (h : FourLocalNumbers front) :
    DottedLocal (front ++ root) := by
  obtain ⟨hcount, hall⟩ := forall_of_four hdots h
  obtain ⟨a, b, c, d, hparts, hlocal⟩ := h
  have hlength : (front.splitOn '.').length = 4 := by rw [length_split_on, hcount]
  have hjoin : ['.'].intercalate (front.splitOn '.') = front := List.intercalate_splitOn '.'
  have hpieces : ∀ piece ∈ front.splitOn '.', parseU8 piece = decimal? piece := by
    intro piece hpiece
    exact parse_u8_eq fun hmem => hplus ((sublist_of_mem_split_on hpiece).subset hmem)
  unfold parts at hparts
  match hsplit : front.splitOn '.', hlength with
  | [first, second, third, fourth], _ =>
      rw [hsplit] at hparts hjoin hall hpieces
      rw [List.forall_mem_cons, List.forall_mem_cons, List.forall_mem_cons,
        List.forall_mem_singleton] at hall hpieces
      obtain ⟨⟨a', ha⟩, ⟨b', hb⟩, ⟨c', hc⟩, ⟨d', hd⟩⟩ :=
        hall.imp Option.isSome_iff_exists.mp fun hall =>
          hall.imp Option.isSome_iff_exists.mp fun hall =>
            hall.imp Option.isSome_iff_exists.mp Option.isSome_iff_exists.mp
      rw [List.filterMap_cons_some ha, List.filterMap_cons_some hb, List.filterMap_cons_some hc,
        List.filterMap_cons_some hd, List.filterMap_nil] at hparts
      cases hparts
      obtain ⟨hfirst, hsecond, hthird, hfourth⟩ := hpieces
      have hdotted := DottedLocal.intro (hfirst ▸ ha) (hsecond ▸ hb) (hthird ▸ hc) (hfourth ▸ hd)
        hlocal hroot
      rw [← hjoin]
      simpa [List.intercalate_cons_cons, List.intercalate_singleton] using hdotted

/-! ## What the guard is expected to answer -/

/-- The answer that is expected on a text before the first `/`, with its destination. -/
structure Judged (text : List Char) (destination : Destination) : Prop where
  blocked : destination.isBlocked = true → Recognised text
  name : destination = .name → ¬ Recognised text

theorem destination_eq {url text : List Char} (h : extractHost url = some text) :
    destination url = destinationOf (hostOf (beforeQuery text)) := by
  unfold destination
  rw [host_eq h]

/-- The guard does its work on a URL with the prefixes if it gives the expected answer on the text
between them. -/
theorem guard_correct_iff_judged {url text : List Char} (h : extractHost url = some text) :
    GuardCorrect url ↔ Judged text (destination url) := by
  unfold GuardCorrect
  rw [← Bool.not_eq_true (isSsrfBlocked url), is_ssrf_blocked_iff, is_http_iff, h]
  simp only [Option.some.injEq, forall_eq', Option.isSome_some, true_imp_iff]
  exact ⟨fun ⟨hblocked, hname⟩ => ⟨hblocked, hname⟩, fun hjudged => ⟨hjudged.1, hjudged.2⟩⟩

/-- The guard is right on every URL without the prefixes. -/
theorem guard_correct_of_none {url : List Char} (h : extractHost url = none) :
    GuardCorrect url := by
  unfold GuardCorrect
  rw [is_ssrf_blocked_iff, is_http_iff, h]
  simp

/-! ## Destinations -/

theorem eq_of_ipv6 {host : List Char} {address : Nat} (h : destinationOf host = .ipv6 address) :
    HasLiteral host ∧ ipv6? (bare host) = some address := by
  unfold destinationOf at h
  unfold bare
  split at h
  · rename_i hliteral
    rw [if_pos hliteral]
    split at h
    · rename_i found hfound
      cases h
      exact ⟨hliteral, hfound⟩
    · cases h
  · dsimp only at h
    split at h
    · cases h
    · split at h
      · cases h
      · split at h <;> cases h

/-- What a client decodes a host without brackets to. -/
def decoded (host : List Char) : List Char := dropRoot (lower (percentDecode host))

theorem destination_of_eq {host : List Char} (h : ¬ HasLiteral host) :
    destinationOf host =
      if decoded host = "localhost".toList then .localhost
      else match ipv4? (decoded host) with
        | some address => .ipv4 address
        | none => if isDnsName (decoded host) then .name else .invalid := by
  unfold destinationOf
  rw [if_neg h]
  rfl

/-- Only an IPv6 address and an invalid host are in brackets. -/
theorem not_literal {host : List Char} {destination : Destination}
    (h : destinationOf host = destination) (hipv6 : ∀ address, destination ≠ .ipv6 address)
    (hinvalid : destination ≠ .invalid) : ¬ HasLiteral host := by
  intro hliteral
  unfold destinationOf at h
  rw [if_pos hliteral] at h
  split at h
  · exact hipv6 _ h.symm
  · exact hinvalid h.symm

theorem decoded_of_localhost {host : List Char} (hliteral : ¬ HasLiteral host)
    (h : destinationOf host = .localhost) : decoded host = "localhost".toList := by
  rw [destination_of_eq hliteral] at h
  split at h
  · assumption
  · split at h
    · cases h
    · split at h <;> cases h

theorem decoded_of_ipv4 {host : List Char} {address : Nat} (hliteral : ¬ HasLiteral host)
    (h : destinationOf host = .ipv4 address) : ipv4? (decoded host) = some address := by
  rw [destination_of_eq hliteral] at h
  split at h
  · cases h
  · split at h
    · rename_i found hfound
      cases h
      exact hfound
    · split at h <;> cases h

/-- A host without brackets has no colon. -/
theorem not_colon_of_host {authority : List Char} (h : ¬ HasLiteral (hostOf authority)) :
    ':' ∉ hostOf authority := by
  unfold hostOf dropPort at h ⊢
  split
  · rename_i hliteral
    rw [if_pos hliteral] at h
    -- The brackets of a literal are kept.
    obtain ⟨hhead, hclosed⟩ := hliteral
    obtain ⟨rest, hrest⟩ := List.head?_eq_some_iff.mp hhead
    refine absurd ⟨?_, by simp⟩ h
    rw [hrest]
    simp [before]
  · exact not_mem_before ':' _

/-- The dot of the root domain is the only character that is dropped. -/
theorem mem_decoded {c : Char} {host : List Char} (hlower : c.isLower = false) (hc : c.toLower = c)
    (hpercent : c ≠ '%') (hhex : ¬ IsHex c) (hdot : c ≠ '.') (h : c ∈ host) : c ∈ decoded host := by
  have hdecoded : c ∈ lower (percentDecode host) :=
    (mem_lower_iff hlower hc).mpr (mem_percent_decode hpercent hhex h)
  unfold decoded dropRoot
  split
  · rename_i hlast
    obtain ⟨front, hfront⟩ := List.getLast?_eq_some_iff.mp hlast
    rw [hfront, List.mem_append, List.mem_singleton] at hdecoded
    rw [hfront, List.dropLast_concat]
    exact hdecoded.resolve_right hdot
  · exact hdecoded

/-- The dots of a host are kept, apart from the dot of the root domain. -/
theorem dots_decoded (host : List Char) : host.count '.' ≤ (decoded host).count '.' + 1 := by
  have hkept : host.count '.' ≤ (lower (percentDecode host)).count '.' := by
    rw [count_lower (by decide) (by decide)]
    exact count_le_percent_decode (by decide) not_is_hex_dot host
  refine hkept.trans ?_
  unfold decoded dropRoot
  split
  · rename_i hlast
    obtain ⟨front, hfront⟩ := List.getLast?_eq_some_iff.mp hlast
    rw [hfront, List.dropLast_concat, List.count_append]
    simp
  · exact Nat.le_succ _

/-- A host that has one dot more than what it is decoded to ends with the dot of the root domain. -/
theorem root_of_dots {host : List Char} (h : host.count '.' = (decoded host).count '.' + 1) :
    ∃ front, host = front ++ ['.'] := by
  obtain ⟨front, back, hhost, hback⟩ :
      ∃ front back, host = front ++ '.' :: back ∧ '.' ∉ back := by
    have hmem : '.' ∈ host.reverse :=
      List.mem_reverse.mpr (List.count_pos_iff.mp (by omega))
    obtain ⟨back, front, hreverse, hback⟩ := List.eq_append_cons_of_mem hmem
    refine ⟨front.reverse, back.reverse, ?_, by simpa using hback⟩
    rw [← List.reverse_reverse host, hreverse]
    simp
  have hdecoded : lower (percentDecode host) =
      lower (percentDecode front) ++ '.' :: lower (percentDecode back) := by
    rw [hhost, percent_decode_append_cons (by decide) not_is_hex_dot]
    simp [lower]
  have hfront : front.count '.' ≤ (lower (percentDecode front)).count '.' := by
    rw [count_lower (by decide) (by decide)]
    exact count_le_percent_decode (by decide) not_is_hex_dot front
  have hcount : host.count '.' = front.count '.' + 1 := by
    rw [hhost, List.count_append, List.count_cons_self, List.count_eq_zero.mpr hback]
  by_cases hlast : (lower (percentDecode host)).getLast? = some '.'
  · -- The dot that is dropped is the last one of the host, or an encoded one behind it.
    have hdropped : (decoded host).count '.' + 1 = (lower (percentDecode host)).count '.' := by
      obtain ⟨others, hothers⟩ := List.getLast?_eq_some_iff.mp hlast
      unfold decoded dropRoot
      rw [if_pos hlast, hothers, List.dropLast_concat, List.count_append]
      simp
    rw [hdecoded, List.count_append, List.count_cons_self] at hdropped
    have hnone : (lower (percentDecode back)).count '.' = 0 := by omega
    have hnil : lower (percentDecode back) = [] := by
      by_contra hne
      rw [hdecoded, List.getLast?_append_of_ne_nil _ (List.cons_ne_nil _ _),
        List.getLast?_cons_of_ne_nil hne] at hlast
      exact List.count_eq_zero.mp hnone (List.mem_of_getLast? hlast)
    have hback : back = [] := by
      rw [← percent_decode_eq_nil_iff]
      exact List.map_eq_nil_iff.mp hnil
    exact ⟨front, hback ▸ hhost⟩
  · have hsame : decoded host = lower (percentDecode host) := by
      unfold decoded dropRoot
      rw [if_neg hlast]
    rw [hsame, hdecoded, List.count_append, List.count_cons_self] at h
    omega

/-! ## A host that is spelled so is judged right -/

/-- A text whose host part has no colon is recognised by its name or by its numbers only. -/
theorem recognised_iff_of_not_colon {text : List Char} (h : ':' ∉ hostPart text) :
    Recognised text ↔
      lower (hostPart text) = "localhost".toList ∨ FourLocalNumbers (hostPart text) := by
  have hcolon : ':' ∉ lower (hostPart text) := by
    rwa [mem_lower_iff (by decide) (by decide)]
  rw [← has_private_parts_iff]
  constructor
  · intro hrecognised
    cases hrecognised with
    | localhost hlocalhost => exact .inl hlocalhost
    | privateParts hparts => exact .inr hparts
    | mapped hmapped _ => exact absurd (hmapped ▸ by simp) hcolon
    | loopback hloopback => exact absurd (hloopback ▸ by decide) hcolon
    | uniqueLocal _ hmem => exact absurd hmem hcolon
  · rintro (hlocalhost | hparts)
    · exact .localhost hlocalhost
    · exact .privateParts hparts

/-- The host part of a text that has neither a colon nor brackets is the text. -/
theorem host_part_eq_self {text : List Char} (hbracket : text.head? ≠ some '[')
    (hcolon : text.count ':' ≠ 1) : hostPart text = text := by
  unfold hostPart
  rw [if_neg hbracket, if_neg hcolon]

theorem dotted_local_recognised {quad : List Char} (h : DottedLocal quad) : Recognised quad := by
  have hchars := dotted_local_chars h
  have hmissing : ∀ c : Char, c ≠ '.' → digit? 10 c = none → c ∉ quad := by
    intro c hdot hdigit hmem
    obtain heq | ⟨value, hvalue⟩ := hchars c hmem
    · exact hdot heq
    · rw [hdigit] at hvalue
      cases hvalue
  have hself : hostPart quad = quad := by
    refine host_part_eq_self (fun hhead => ?_) ?_
    · exact hmissing '[' (by decide) (by decide) (List.mem_of_mem_head? hhead)
    · rw [List.count_eq_zero.mpr (hmissing ':' (by decide) (by decide))]
      decide
  exact .privateParts (by rw [hself, has_private_parts_iff]; exact four_of_dotted_local h)

/-- The guard gives the expected answer on a text that spells its destination. -/
theorem Spelled.judged {text : List Char} {destination : Destination}
    (hdestination : destinationOf (hostOf (beforeQuery text)) = destination)
    (h : Spelled text destination) : Judged text destination := by
  cases h with
  | outside hblocked hname =>
      refine ⟨fun h => ?_, fun h => absurd h hname⟩
      rw [hblocked] at h
      cases h
  | localhost _ hhost => exact ⟨fun _ => .localhost hhost, nofun⟩
  | ipv4 _ hhost =>
      refine ⟨fun _ => .privateParts ?_, nofun⟩
      exact (has_private_parts_iff _).mpr (four_of_dotted_local hhost)
  | loopback _ hhost => exact ⟨fun _ => .loopback hhost, nofun⟩
  | uniqueLocal hexposed hhost =>
      refine ⟨fun _ => .uniqueLocal hhost ?_, nofun⟩
      rw [mem_lower_iff (by decide) (by decide), hexposed]
      exact (ipv6_text (eq_of_ipv6 hdestination).2).1
  | mapped _ hhost hquad =>
      exact ⟨fun _ => .mapped hhost.symm (dotted_local_recognised hquad), nofun⟩
  | name hlocalhost hnumbers hmapped hloopback hstart =>
      refine ⟨nofun, fun _ hrecognised => ?_⟩
      cases hrecognised with
      | localhost h => exact hlocalhost h
      | privateParts h => exact hnumbers ((has_private_parts_iff _).mp h)
      | mapped h _ => exact hmapped ⟨_, h⟩
      | loopback h => exact hloopback h
      | uniqueLocal h hmem =>
          rw [mem_lower_iff (by decide) (by decide)] at hmem
          obtain ⟨hfc, hfd⟩ := hstart hmem
          exact h.elim hfc hfd

/-! ## A host that is judged right is spelled so -/

/-- What is decoded to `localhost` has at most one dot. -/
theorem not_four_of_localhost {host : List Char} (h : decoded host = "localhost".toList) :
    ¬ FourLocalNumbers host := by
  intro hfour
  have hdots := dots_decoded host
  have hthree := dots_of_four hfour
  rw [h] at hdots
  have hnone : "localhost".toList.count '.' = 0 := by decide
  omega

/-- A client reads an IPv4 address without a plus sign. -/
theorem not_plus_of_ipv4 {host : List Char} {address : Nat}
    (h : ipv4? (decoded host) = some address) : '+' ∉ host := by
  have hplus : ¬ IsHex '+' := fun ⟨_, h⟩ => by cases h
  intro hmem
  have hdecoded := mem_decoded (by decide) (by decide) (by decide) hplus (by decide) hmem
  rcases (ipv4_text h).2 '+' hdecoded with heq | heq | heq | hhex
  · cases heq
  · cases heq
  · cases heq
  · exact hplus hhex

/-- The guard reads a client's IPv4 address only in decimal. -/
theorem dotted_local_of_ipv4 {host : List Char} {address : Nat}
    (hipv4 : ipv4? (decoded host) = some address) (h : FourLocalNumbers host) :
    DottedLocal host := by
  have hplus := not_plus_of_ipv4 hipv4
  have hthree := (ipv4_text hipv4).1
  have hmost := dots_decoded host
  by_cases hroot : host.count '.' ≤ 3
  · simpa using dotted_local_of_four hroot hplus (.inl rfl) h
  · obtain ⟨front, rfl⟩ := root_of_dots (show host.count '.' = _ by omega)
    have hparts : parts (front ++ ['.']) = parts front := by
      unfold parts
      rw [List.splitOn_append_cons_self, List.filterMap_append, List.splitOn_nil]
      simp [parse_u8_nil]
    have hcount : (front ++ ['.']).count '.' = front.count '.' + 1 := by simp
    refine dotted_local_of_four (by omega) (fun hmem => ?_) (.inr rfl) ?_
    · exact hplus (List.mem_append_left _ hmem)
    · obtain ⟨a, b, c, d, hfour, hlocal⟩ := h
      exact ⟨a, b, c, d, hparts ▸ hfour, hlocal⟩

/-! ## IPv6 addresses that are judged right -/

theorem not_plus_of_address {dots : Nat} {text : List Char} (h : AddressText dots text) :
    '+' ∉ text := by
  intro hmem
  rcases h.chars '+' hmem with heq | heq | ⟨_, hhex⟩
  · cases heq
  · cases heq
  · cases hhex

/-- A piece with a colon is no number, so it is missing among the at most four pieces. -/
theorem not_four_of_address {text : List Char} (h : AddressText 3 text) (hcolon : ':' ∈ text) :
    ¬ FourLocalNumbers text := by
  intro hfour
  obtain ⟨piece, hpiece, hmem⟩ := exists_mem_split_on hcolon (show ':' ≠ '.' by decide)
  have hplus : '+' ∉ piece := fun hplus =>
    not_plus_of_address h ((sublist_of_mem_split_on hpiece).subset hplus)
  obtain ⟨value, hvalue⟩ := Option.isSome_iff_exists.mp ((forall_of_four h.dots hfour).2 _ hpiece)
  rw [parse_u8_eq hplus] at hvalue
  obtain ⟨_, hdigit⟩ := digits_of_decimal hvalue ':' hmem
  cases hdigit

theorem not_localhost_of_address {dots : Nat} {text : List Char} (h : AddressText dots text) :
    lower text ≠ "localhost".toList := by
  intro hlocalhost
  have hmem : 'l' ∈ lower text := hlocalhost ▸ by decide
  rcases h.to_lower.chars 'l' hmem with heq | heq | ⟨_, hhex⟩
  · cases heq
  · cases heq
  · cases hhex

theorem host_part_sublist (text : List Char) : (hostPart text).Sublist text := by
  unfold hostPart
  split
  · exact (before_initial _ _).sublist.trans (List.dropWhile_suffix _).sublist
  · split
    · exact (before_initial _ _).sublist
    · exact List.Sublist.refl _

/-- The groups of a text that begins like an IPv4-mapped address. -/
structure MappedGroups (back : List Char) (address : Nat) : Prop where
  head : back.head? ≠ some ':'
  lower_bound : 65536 ^ (back.count ':' + 1) ≤ address
  upper_bound : address < 2 ^ 112

theorem mapped_text {text rest : List Char} (h : "::ffff:".toList ++ rest = lower text) :
    ∃ first back, text = ':' :: ':' :: (first ++ ':' :: back) ∧ lower first = "ffff".toList ∧
      lower back = rest := by
  obtain ⟨front, back, rfl, hfront, hback⟩ := List.map_eq_append_iff.mp h.symm
  rw [show "::ffff:".toList = [':', ':'] ++ ("ffff".toList ++ [':']) from rfl,
    List.map_eq_append_iff] at hfront
  obtain ⟨colons, others, rfl, hcolons, hothers⟩ := hfront
  obtain ⟨first, colon, rfl, hfirst, hcolon⟩ := List.map_eq_append_iff.mp hothers
  have hlower : ∀ c : Char, c.toLower = ':' → c = ':' := fun c =>
    (to_lower_eq_iff (by decide) (by decide)).mp
  refine ⟨first, back, ?_, hfirst, hback⟩
  simp only [List.map_eq_cons_iff, List.map_eq_nil_iff] at hcolons hcolon
  obtain ⟨c, _, rfl, hc, c', _, rfl, hc', rfl⟩ := hcolons
  obtain ⟨c'', _, rfl, hc'', rfl⟩ := hcolon
  rw [hlower c hc, hlower c' hc', hlower c'' hc'']
  simp

/-- A group that is written as `ffff` is not zero. -/
theorem group_pos {piece : List Char} {group : Nat} (hlower : lower piece = "ffff".toList)
    (h : group? piece = some group) : 0 < group := by
  unfold group? at h
  rw [Option.ite_none_right_eq_some] at h
  cases piece with
  | nil => cases hlower
  | cons c rest =>
      refine number_cons_pos (by decide) (fun hzero => ?_) h.2
      have hc : c.toLower = 'f' := (List.cons.inj hlower).1
      have hcode : c.toNat = 48 := by
        obtain ⟨_, _, hvalue⟩ | ⟨_, _, hvalue⟩ | ⟨_, _, hvalue⟩ := code_of_hex_digit hzero <;> omega
      rw [← Char.ofNat_toNat c, hcode] at hc
      exact absurd hc (by decide)

theorem mapped_groups {first back : List Char} {address : Nat}
    (hfirst : lower first = "ffff".toList)
    (h : ipv6? (':' :: ':' :: (first ++ ':' :: back)) = some address) :
    MappedGroups back address := by
  obtain ⟨groups, hgroups, hlength, rfl⟩ := ipv6_of_double_colon h
  have hcolon : ':' ∉ first := by
    rw [← mem_lower_iff (by decide) (by decide), hfirst]
    decide
  obtain ⟨piece, pieces', hback⟩ := List.exists_cons_of_ne_nil (List.splitOn_ne_nil ':' back)
  have hpieces : pieces (first ++ ':' :: back) = first :: piece :: pieces' := by
    unfold pieces
    rw [if_neg (by simp), List.splitOn_append_cons_self, List.splitOn_eq_singleton hcolon, hback]
    rfl
  rw [hpieces] at hgroups
  simp only [groups?, Option.bind_eq_bind, Option.bind_eq_some_iff, Option.pure_def,
    Option.some.injEq] at hgroups
  obtain ⟨group, hgroup, others, hothers, rfl⟩ := hgroups
  obtain ⟨hleast, _, hbound⟩ := groups_bounds hothers
  rw [← hback, length_split_on] at hleast
  have hpos := group_pos hfirst hgroup
  refine ⟨fun hhead => ?_, ?_, ?_⟩
  · -- An empty group is not the last one.
    obtain ⟨rest, rfl⟩ := List.head?_eq_some_iff.mp hhead
    obtain ⟨next, _, hnext⟩ := List.exists_cons_of_ne_nil (List.splitOn_ne_nil ':' rest)
    rw [List.splitOn_cons_eq_if_modifyHead, if_pos BEq.rfl, hnext] at hback
    cases hback
    cases hothers
  · rw [of_groups_cons]
    calc 65536 ^ (back.count ':' + 1)
        ≤ 65536 ^ others.length := Nat.pow_le_pow_right (by decide) hleast
      _ ≤ group * 65536 ^ others.length := Nat.le_mul_of_pos_left _ hpos
      _ ≤ group * 65536 ^ others.length + ofGroups others := Nat.le_add_right _ _
  · have hall : ∀ found ∈ group :: others, found < 65536 :=
      List.forall_mem_cons.mpr ⟨(group_text hgroup).2.2, hbound⟩
    calc ofGroups (group :: others)
        < 65536 ^ (group :: others).length := of_groups_lt hall
      _ ≤ 65536 ^ 7 := Nat.pow_le_pow_right (by decide) hlength
      _ = 2 ^ 112 := by norm_num

/-- Between the IPv4-mapped addresses and the unique-local ones, no address is blocked. -/
theorem not_blocked_between {address : Nat} (hlow : 2 ^ 48 ≤ address) (hhigh : address < 2 ^ 112) :
    blockedIpv6 address = false := by
  have hunique : address / 2 ^ 121 = 0 := Nat.div_eq_of_lt
    (hhigh.trans (Nat.pow_lt_pow_right (by decide) (by decide)))
  have hlink : address / 2 ^ 118 = 0 := Nat.div_eq_of_lt
    (hhigh.trans (Nat.pow_lt_pow_right (by decide) (by decide)))
  have hmapped : 65536 ≤ address / 2 ^ 32 :=
    (Nat.le_div_iff_mul_le (by norm_num)).mpr (by simpa using hlow)
  simp only [blockedIpv6, inNetwork, Bool.or_eq_false_iff, Bool.and_eq_false_iff,
    beq_eq_false_iff_ne]
  refine ⟨⟨⟨by omega, ?_⟩, ?_⟩, .inl ?_⟩
  · rw [hunique]
    decide
  · rw [hlink]
    decide
  · have hnetwork : 65535 * 2 ^ 32 / 2 ^ (128 - 96) = 65535 := by decide
    rw [hnetwork]
    omega

/-- Behind `::ffff:`, the guard recognises four decimal numbers only. -/
theorem dotted_local_of_mapped {rest : List Char} (haddress : AddressText 3 rest)
    (hhead : rest.head? ≠ some ':') (hcolons : rest.count ':' ≤ 1) (h : Recognised rest) :
    DottedLocal rest := by
  have hbracket : rest.head? ≠ some '[' := by
    intro hhead
    rcases haddress.chars '[' (List.mem_of_mem_head? hhead) with heq | heq | ⟨_, hhex⟩
    · cases heq
    · cases heq
    · cases hhex
  have hpart := haddress.of_sublist (host_part_sublist rest)
  have hnone : ':' ∉ hostPart rest := by
    unfold hostPart
    rw [if_neg hbracket]
    split
    · exact not_mem_before ':' rest
    · exact List.count_eq_zero.mp (by omega)
  have hfour := ((recognised_iff_of_not_colon hnone).mp h).resolve_left
    (not_localhost_of_address hpart)
  by_cases hcolon : ':' ∈ rest
  · -- The dots of an address stand behind its last colon, and the guard looks before it.
    obtain ⟨front, back, rfl, hfront⟩ := List.eq_append_cons_of_mem hcolon
    have hone : (front ++ ':' :: back).count ':' = 1 := by
      have hpos := List.count_pos_iff.mpr hcolon
      omega
    have hhost : hostPart (front ++ ':' :: back) = front := by
      unfold hostPart
      rw [if_neg hbracket, if_pos hone, before_append_cons hfront]
    have hthree := dots_of_four (hhost ▸ hfour)
    rw [List.count_eq_zero.mpr haddress.not_mem_of_append] at hthree
    omega
  · have hself : hostPart rest = rest := by
      refine host_part_eq_self hbracket ?_
      rw [List.count_eq_zero.mpr hcolon]
      decide
    rw [hself] at hfour
    simpa using dotted_local_of_four haddress.dots (not_plus_of_address haddress) (.inl rfl) hfour

/-- A blocked IPv6 address that the guard recognises is spelled in one of its three ways. -/
theorem spelled_of_ipv6 {text : List Char} {address : Nat} (hexposed : Exposed text)
    (hipv6 : ipv6? (hostPart text) = some address) (hblocked : blockedIpv6 address = true)
    (h : Recognised text) : Spelled text (.ipv6 address) := by
  obtain ⟨hcolon, haddress⟩ := ipv6_text hipv6
  cases h with
  | localhost hlocalhost => exact absurd hlocalhost (not_localhost_of_address haddress)
  | privateParts hparts =>
      exact absurd ((has_private_parts_iff _).mp hparts) (not_four_of_address haddress hcolon)
  | loopback hloopback => exact .loopback hexposed hloopback
  | uniqueLocal hstart _ => exact .uniqueLocal hexposed hstart
  | @mapped _ rest hmapped hrest =>
      have hlower := haddress.to_lower
      rw [← hmapped] at hlower
      have hrestAddress := hlower.of_sublist (List.sublist_append_right _ rest)
      obtain ⟨first, back, htext, hfirst, hback⟩ := mapped_text hmapped
      rw [htext] at hipv6
      have hgroups := mapped_groups hfirst hipv6
      have hcount : rest.count ':' = back.count ':' := by
        rw [← hback, count_lower (by decide) (by decide)]
      have hhead : rest.head? ≠ some ':' := by
        intro hhead
        rw [← hback] at hhead
        unfold lower at hhead
        rw [List.head?_map, Option.map_eq_some_iff] at hhead
        obtain ⟨c, hc, hsame⟩ := hhead
        rw [to_lower_eq_iff (by decide) (by decide)] at hsame
        exact hgroups.head (hsame ▸ hc)
      refine .mapped hexposed hmapped.symm (dotted_local_of_mapped hrestAddress hhead ?_ hrest)
      by_contra hmany
      -- With more groups behind it, the group `ffff` is worth too much for a mapped address.
      have hlow : 2 ^ 48 ≤ address := by
        calc 2 ^ 48 = 65536 ^ 3 := by norm_num
          _ ≤ 65536 ^ (back.count ':' + 1) := Nat.pow_le_pow_right (by decide) (by omega)
          _ ≤ address := hgroups.lower_bound
      rw [not_blocked_between hlow hgroups.upper_bound] at hblocked
      cases hblocked

/-- A text that shows its host to the guard spells its destination, if the guard gives the expected
answer. -/
theorem Judged.spelled {text : List Char} {destination : Destination}
    (hdestination : destinationOf (hostOf (beforeQuery text)) = destination)
    (hexposed : Exposed text) (h : Judged text destination) : Spelled text destination := by
  have hplain : ¬ HasLiteral (hostOf (beforeQuery text)) →
      hostPart text = hostOf (beforeQuery text) ∧ ':' ∉ hostPart text := by
    intro hliteral
    have hsame : hostPart text = hostOf (beforeQuery text) := by
      rw [hexposed, bare, if_neg hliteral]
    exact ⟨hsame, hsame ▸ not_colon_of_host hliteral⟩
  cases destination with
  | invalid => exact .outside rfl nofun
  | localhost =>
      have hliteral := not_literal hdestination nofun nofun
      obtain ⟨hsame, hcolon⟩ := hplain hliteral
      have hrecognised := (recognised_iff_of_not_colon hcolon).mp (h.blocked rfl)
      refine .localhost hexposed (hrecognised.resolve_right ?_)
      rw [hsame]
      exact not_four_of_localhost (decoded_of_localhost hliteral hdestination)
  | ipv4 address =>
      by_cases hblocked : blockedIpv4 address = true
      · have hliteral := not_literal hdestination nofun nofun
        obtain ⟨hsame, hcolon⟩ := hplain hliteral
        rcases (recognised_iff_of_not_colon hcolon).mp (h.blocked hblocked) with hname | hfour
        · rw [hsame] at hname
          cases (destination_of_localhost hname).symm.trans hdestination
        · have hdecoded := decoded_of_ipv4 hliteral hdestination
          rw [← hsame] at hdecoded
          exact .ipv4 hexposed (dotted_local_of_ipv4 hdecoded hfour)
      · exact .outside (Bool.eq_false_iff.mpr hblocked) nofun
  | ipv6 address =>
      by_cases hblocked : blockedIpv6 address = true
      · refine spelled_of_ipv6 hexposed ?_ hblocked (h.blocked hblocked)
        rw [hexposed]
        exact (eq_of_ipv6 hdestination).2
      · exact .outside (Bool.eq_false_iff.mpr hblocked) nofun
  | name =>
      have hliteral := not_literal hdestination nofun nofun
      obtain ⟨hsame, hcolon⟩ := hplain hliteral
      have hunrecognised := h.name rfl
      rw [recognised_iff_of_not_colon hcolon, not_or] at hunrecognised
      rw [← mem_lower_iff (by decide) (by decide)] at hcolon
      refine .name hunrecognised.1 hunrecognised.2 (fun hmapped => ?_) (fun hloopback => ?_) ?_
      · exact hcolon (hmapped.subset (by decide))
      · exact hcolon (hloopback ▸ by decide)
      · intro hmem
        rw [mem_lower_iff (by decide) (by decide)] at hcolon
        exact absurd hmem hcolon

/-! ## The guard on URLs -/

/-- The URL `http://user@hostPort`. -/
def withUser (user hostPort : List Char) : List Char :=
  "http://".toList ++ (user ++ '@' :: hostPort)

theorem extract_host_with_user {user hostPort : List Char}
    (huser : ∀ c ∈ user, inAuthority c = true) (hhost : ∀ c ∈ hostPort, inAuthority c = true) :
    extractHost (withUser user hostPort) = some (user ++ '@' :: hostPort) ∧
      beforeQuery (user ++ '@' :: hostPort) = user ++ '@' :: hostPort := by
  have hall : ∀ c ∈ user ++ '@' :: hostPort, inAuthority c = true := by
    intro c hc
    rcases List.mem_append.mp hc with hc | hc
    · exact huser c hc
    · rcases List.mem_cons.mp hc with rfl | hc
      · rfl
      · exact hhost c hc
  simp only [inAuthority, Bool.and_eq_true, bne_iff_ne] at hall
  have hstart : afterHttp (withUser user hostPort) = some (user ++ '@' :: hostPort) := by
    have hsome : "http://".toList.isPrefixOf? (withUser user hostPort) =
        some (user ++ '@' :: hostPort) := List.isPrefixOf?_eq_some_iff_append_eq.mpr rfl
    rw [afterHttp, hsome]
    rfl
  constructor
  · rw [extractHost, hstart, Option.map_some]
    exact congrArg some (before_eq_self_iff.mpr fun hmem => (hall '/' hmem).1.1 rfl)
  · unfold beforeQuery
    rw [List.takeWhile_eq_self_iff]
    intro c hc
    simp only [Bool.and_eq_true, bne_iff_ne]
    exact ⟨(hall c hc).1.2, (hall c hc).2⟩

theorem destination_with_user {user hostPort : List Char}
    (huser : ∀ c ∈ user, inAuthority c = true)
    (hhost : ∀ c ∈ hostPort, inAuthority c = true) (hat : '@' ∉ hostPort) :
    destination (withUser user hostPort) = destinationOf (dropPort hostPort) := by
  obtain ⟨htext, hquery⟩ := extract_host_with_user huser hhost
  rw [destination_eq htext, hquery, hostOf, after_last_append_cons hat]

/-- The guard reads a number from the user information. -/
theorem not_recognised_nine (rest : List Char) : ¬ Recognised ('9' :: '.' :: rest) := by
  obtain ⟨others, hhost⟩ : ∃ others, hostPart ('9' :: '.' :: rest) = '9' :: '.' :: others := by
    unfold hostPart
    rw [if_neg (by simp)]
    split
    · exact ⟨before ':' rest, by simp [before]⟩
    · exact ⟨rest, rfl⟩
  have hparts : parts ('9' :: '.' :: others) = 9 :: parts others := by
    have hsplit := List.splitOn_append_cons_self (a := '.') ['9'] others
    unfold parts
    rw [show '9' :: '.' :: others = ['9'] ++ '.' :: others from rfl, hsplit]
    rfl
  intro hrecognised
  cases hrecognised with
  | localhost h =>
      rw [hhost] at h
      exact absurd (List.cons.inj h).1 (by decide)
  | privateParts h =>
      rw [hhost, has_private_parts_iff] at h
      obtain ⟨a, b, c, d, hfour, hlocal⟩ := h
      rw [hparts] at hfour
      obtain rfl := (List.cons.inj hfour).1
      exact absurd hlocal (by simp [isPrivate])
  | mapped h _ =>
      rw [hhost] at h
      exact absurd (List.cons.inj h).1 (by decide)
  | loopback h =>
      rw [hhost] at h
      exact absurd (List.cons.inj h).1 (by decide)
  | uniqueLocal h _ =>
      rw [hhost] at h
      rcases h with h | h
      · exact absurd (List.cons_prefix_cons.mp h).1 (by decide)
      · exact absurd (List.cons_prefix_cons.mp h).1 (by decide)

/-- The guard reads a unique-local address from the user information. -/
theorem recognised_fc (rest : List Char) : Recognised ('f' :: 'c' :: ':' :: ':' :: rest) := by
  have hhost : hostPart ('f' :: 'c' :: ':' :: ':' :: rest) = 'f' :: 'c' :: ':' :: ':' :: rest := by
    refine host_part_eq_self (by simp) ?_
    simp
  refine .uniqueLocal (.inl ?_) ?_
  · rw [hhost]
    exact ⟨_, rfl⟩
  · rw [hhost, mem_lower_iff (by decide) (by decide)]
    simp

/-- A host behind user information is judged right for any user if and only if nothing is expected
of the guard. -/
theorem guard_correct_users_iff {hostPort : List Char}
    (hhost : ∀ c ∈ hostPort, inAuthority c = true) (hat : '@' ∉ hostPort) :
    (∀ user, (∀ c ∈ user, inAuthority c = true) → GuardCorrect (withUser user hostPort)) ↔
      (destinationOf (dropPort hostPort)).isBlocked = false ∧
        destinationOf (dropPort hostPort) ≠ .name := by
  constructor
  · intro hcorrect
    have hjudged : ∀ user, (∀ c ∈ user, inAuthority c = true) →
        Judged (user ++ '@' :: hostPort) (destinationOf (dropPort hostPort)) := by
      intro user huser
      rw [← destination_with_user huser hhost hat,
        ← guard_correct_iff_judged (extract_host_with_user huser hhost).1]
      exact hcorrect user huser
    constructor
    · refine Bool.eq_false_iff.mpr fun hblocked => ?_
      exact not_recognised_nine _ ((hjudged ['9', '.'] (by simp [inAuthority])).blocked hblocked)
    · intro hname
      exact (hjudged ['f', 'c', ':', ':'] (by simp [inAuthority])).name hname (recognised_fc _)
  · intro ⟨hblocked, hname⟩ user huser
    rw [guard_correct_iff_judged (extract_host_with_user huser hhost).1,
      destination_with_user huser hhost hat]
    refine ⟨fun h => ?_, fun h => absurd h hname⟩
    rw [hblocked] at h
    cases h

/-- The guard does its work on every URL that spells its destination. Where the guard looks at the
host of the URL, it does so on no others, and behind user information it does so for every user
only where nothing is expected of it. -/
theorem guard_correct_iff (url hostPort : List Char) :
    ((∀ text, extractHost url = some text → Spelled text (destination url)) →
        GuardCorrect url) ∧
      ((∀ text, extractHost url = some text → Exposed text) →
        (GuardCorrect url ↔
          ∀ text, extractHost url = some text → Spelled text (destination url))) ∧
      ((∀ c ∈ hostPort, inAuthority c = true) → '@' ∉ hostPort →
        ((∀ user, (∀ c ∈ user, inAuthority c = true) → GuardCorrect (withUser user hostPort)) ↔
          (destinationOf (dropPort hostPort)).isBlocked = false ∧
            destinationOf (dropPort hostPort) ≠ .name)) := by
  have henough (hspelled : ∀ text, extractHost url = some text →
      Spelled text (destination url)) : GuardCorrect url := by
    cases htext : extractHost url with
    | none => exact guard_correct_of_none htext
    | some text =>
        rw [guard_correct_iff_judged htext]
        exact (hspelled text htext).judged (destination_eq htext).symm
  refine ⟨henough, fun hexposed => ⟨fun hcorrect text htext => ?_, henough⟩, ?_⟩
  · rw [guard_correct_iff_judged htext] at hcorrect
    exact hcorrect.spelled (destination_eq htext).symm (hexposed text htext)
  · exact fun hhost hat => guard_correct_users_iff hhost hat

/-- `guard_correct_iff` for a private address with a port, for a short loopback address, and for a
private address behind user information. -/
theorem guard_correct_samples :
    GuardCorrect "http://10.0.0.1:80/".toList ∧
      (¬ ∀ text, extractHost "http://127.1/".toList = some text →
        Spelled text (destination "http://127.1/".toList)) ∧
      ¬ ∀ user, (∀ c ∈ user, inAuthority c = true) →
        GuardCorrect (withUser user "10.0.0.1".toList) := by
  refine ⟨(guard_correct_iff _ []).1 fun text htext => ?_, fun hspelled => ?_, fun hcorrect => ?_⟩
  · obtain rfl : "10.0.0.1:80".toList = text := Option.some.inj htext
    have hhost : DottedLocal "10.0.0.1".toList :=
      @DottedLocal.intro ['1', '0'] ['0'] ['0'] ['1'] [] 10 0 0 1 rfl rfl rfl rfl rfl (.inl rfl)
    exact .ipv4 rfl hhost
  · have hexposed : ∀ text, extractHost "http://127.1/".toList = some text → Exposed text := by
      intro text htext
      obtain rfl : "127.1".toList = text := Option.some.inj htext
      rfl
    have hcorrect := ((guard_correct_iff _ []).2.1 hexposed).mpr hspelled
    exact absurd (hcorrect.1 (by decide)) (by decide)
  · have hhost : ∀ c ∈ "10.0.0.1".toList, inAuthority c = true := by simp [inAuthority]
    have hsafe := (((guard_correct_iff [] _).2.2 hhost (by simp)).mp hcorrect).1
    exact absurd hsafe (by decide)

/-- The guard lets a link-local IPv6 address, a private address behind userinfo and a short
loopback address through, and it blocks a DNS name with four numeric labels. -/
theorem guard_incorrect :
    ¬ GuardCorrect "http://[fe80::1]/".toList ∧ ¬ GuardCorrect "http://user@10.0.0.1/".toList ∧
      ¬ GuardCorrect "http://127.1/".toList ∧
      ¬ GuardCorrect "http://10.0.0.1.example.com/".toList := by
  refine ⟨fun h => ?_, fun h => ?_, fun h => ?_, fun h => ?_⟩
  · exact absurd (h.1 (by decide)) (by decide)
  · exact absurd (h.1 (by decide)) (by decide)
  · exact absurd (h.1 (by decide)) (by decide)
  · exact absurd (h.2 (by decide) (by decide)) (by decide)

end CorvidNano.Host.SsrfSpelling
