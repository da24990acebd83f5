import CorvidNano.Host.Ssrf

/-!
# The URL gate of the HTTP host functions

`validate_url` in `http.rs`, which `host_http_get` and `host_http_post` ask before they send a
request. It takes the text before the first `:` and the first `/` for the host, while a client
dials the host of the URL's authority. `gate_sound_iff` says for which URLs the two readings
agree well enough that every allowlist is respected.
-/

namespace CorvidNano.Host.Http

open Ssrf Text Url

/-- `extract_host_from_url`. -/
def extractHostFromUrl (url : List Char) : Option (List Char) :=
  (afterHttp url).map fun rest => before ':' (before '/' rest)

/-- An entry of the allowlist admits a host. -/
def admits (host allowed : List Char) : Bool :=
  host == allowed || (allowed.contains '.' && ('.' :: allowed).isSuffixOf host)

/-- `validate_url`. -/
def validateUrl (url : List Char) (allowlist : List (List Char)) : Bool :=
  if isSsrfBlocked url then false
  else
    match extractHostFromUrl url with
    | none => false
    | some host => allowlist.any fun allowed => admits host allowed

/-- The gate respects every allowlist on a URL: if it accepts the URL, the host that a client
dials for it is under an entry of the list. -/
def GateSound (url : List Char) : Prop :=
  ∀ allowlist : List (List Char), allowlist ≠ [] → validateUrl url allowlist = true →
    ∃ dialled, host url = some dialled ∧ ∃ allowed ∈ allowlist, Covers allowed dialled

/-! ## The authority of an accepted URL -/

/-- The gate's host is the text before the first `:` of the same text. -/
theorem extract_host_from_url_eq (url : List Char) :
    extractHostFromUrl url = (extractHost url).map (before ':') := by
  unfold extractHostFromUrl extractHost
  rw [Option.map_map]
  rfl

/-- What the gate accepts. -/
theorem validate_url_iff {url text : List Char} (h : extractHost url = some text)
    (allowlist : List (List Char)) :
    validateUrl url allowlist = true ↔
      isSsrfBlocked url = false ∧ ∃ allowed ∈ allowlist, admits (before ':' text) allowed = true := by
  unfold validateUrl
  rw [extract_host_from_url_eq, h]
  cases isSsrfBlocked url with
  | true => simp
  | false => simp

/-- An entry admits itself. -/
theorem admits_self (host : List Char) : admits host host = true := by
  simp [admits]

/-- An entry that admits a host covers the names that the host covers. -/
theorem Covers.of_admits {name read allowed : List Char} (h : Covers read name)
    (hadmits : admits read allowed = true) : Covers allowed name := by
  unfold admits at hadmits
  simp only [Bool.or_eq_true, beq_iff_eq, Bool.and_eq_true, List.isSuffixOf_iff_suffix] at hadmits
  rcases hadmits with rfl | ⟨_, hsuffix⟩
  · exact h
  · exact h.trans_suffix hsuffix

/-- An allowlist is only as good as its strictest entry, the host that the gate reads. -/
theorem gate_sound_iff_covers {url text : List Char} (h : extractHost url = some text) :
    GateSound url ↔
      (isSsrfBlocked url = false → Covers (before ':' text) (hostOf (beforeQuery text))) := by
  constructor
  · intro hsound hblocked
    have haccept : validateUrl url [before ':' text] = true :=
      (validate_url_iff h _).mpr ⟨hblocked, _, List.mem_singleton_self _, admits_self _⟩
    -- The list with the host that the gate reads as its only entry.
    obtain ⟨dialled, hdialled, allowed, hmem, hcovers⟩ := hsound _ (by simp) haccept
    rw [host_eq h, Option.some.injEq] at hdialled
    obtain rfl := List.mem_singleton.mp hmem
    rwa [hdialled]
  · intro hcovers allowlist _ haccept
    obtain ⟨hblocked, allowed, hmem, hadmits⟩ := (validate_url_iff h allowlist).mp haccept
    exact ⟨_, host_eq h, allowed, hmem, Covers.of_admits (hcovers hblocked) hadmits⟩

/-! ## When the host that the gate reads covers the host that a client dials -/

/-- The text between the prefix and the first `/` of a URL on which the gate's host covers the
dialled one.

* Without userinfo and address literal, no query or fragment begins before the first `:`.
* Without userinfo, an address literal has no `:` of its own and only a port may follow it.
* With userinfo, the `:` is before the `@`, and what stands before it happens to be the dialled
  host or a domain above it. -/
inductive NamesItsHost (text : List Char) : Prop where
  | plain (huser : '@' ∉ beforeQuery text) (hliteral : ¬ HasLiteral (beforeQuery text))
      (hquery : '?' ∉ before ':' text) (hfragment : '#' ∉ before ':' text)
  | literal (huser : '@' ∉ beforeQuery text) (hliteral : HasLiteral (beforeQuery text))
      (hport : before ':' text = before ']' (beforeQuery text) ++ [']'])
  | userinfo (huser : '@' ∈ beforeQuery text) (hcolon : '@' ∉ before ':' text)
      (hcovers : Covers (before ':' text) (hostOf (beforeQuery text)))

theorem before_query_initial (text : List Char) : beforeQuery text <+: text :=
  List.takeWhile_prefix _

/-- No query or fragment begins in the text before it. -/
theorem not_mem_before_query (text : List Char) :
    '?' ∉ beforeQuery text ∧ '#' ∉ beforeQuery text := by
  refine ⟨fun hmem => ?_, fun hmem => ?_⟩
  · simpa using List.mem_takeWhile_imp hmem
  · simpa using List.mem_takeWhile_imp hmem

/-- A covering domain that begins the same text as an address literal is that literal. -/
theorem eq_of_covers_literal {text domain inner : List Char} (hdomain : domain <+: text)
    (hliteral : inner ++ [']'] <+: text) (hinner : ']' ∉ inner)
    (h : Covers domain (inner ++ [']'])) : domain = inner ++ [']'] := by
  rcases h with heq | hsuffix
  · have hlength : domain.length = (inner ++ [']']).length := by
      rw [← length_lower domain, ← heq, length_lower]
    exact (List.prefix_of_prefix_length_le hdomain hliteral hlength.le).eq_of_length hlength
  · -- The domain is shorter than the literal, so it ends before the closing bracket.
    have hlength : domain.length ≤ inner.length := by
      simpa using hsuffix.length_le
    have hinitial : domain <+: inner :=
      List.prefix_of_prefix_length_le hdomain ((List.prefix_append _ _).trans hliteral) hlength
    have hmem : ']' ∈ '.' :: lower domain := by
      obtain ⟨front, hfront⟩ := hsuffix
      have hlast : (front ++ '.' :: lower domain).getLast? = some ']' := by
        rw [hfront]
        simp [lower]
      rw [List.getLast?_append_of_ne_nil _ (List.cons_ne_nil _ _)] at hlast
      exact List.mem_of_getLast? hlast
    have hdomainMem : ']' ∈ domain := by
      rw [← mem_lower_iff (by decide) (by decide)]
      simpa using hmem
    exact absurd (hinitial.subset hdomainMem) hinner

/-- The host that the gate reads covers the dialled host if and only if the text names its
host. -/
theorem covers_iff_names_its_host (text : List Char) :
    Covers (before ':' text) (hostOf (beforeQuery text)) ↔ NamesItsHost text := by
  by_cases huser : '@' ∈ beforeQuery text
  · constructor
    · intro hcovers
      refine .userinfo huser (fun hmem => ?_) hcovers
      have hdialled := hcovers.mem (by decide) (by decide) hmem
      exact not_mem_after_last '@' _ (mem_of_mem_host_of hdialled)
    · rintro (⟨hnone, _, _, _⟩ | ⟨hnone, _, _⟩ | ⟨_, _, hcovers⟩)
      · exact absurd huser hnone
      · exact absurd huser hnone
      · exact hcovers
  · rw [host_of_eq_drop_port huser]
    by_cases hliteral : HasLiteral (beforeQuery text)
    · have hdrop : dropPort (beforeQuery text) = before ']' (beforeQuery text) ++ [']'] :=
        if_pos hliteral
      rw [hdrop]
      constructor
      · intro hcovers
        have hinitial := (before_concat_initial hliteral.2).trans (before_query_initial text)
        exact .literal huser hliteral (eq_of_covers_literal (before_initial ':' text) hinitial
          (not_mem_before ']' _) hcovers)
      · rintro (⟨_, hnone, _, _⟩ | ⟨_, _, hport⟩ | ⟨hsome, _, _⟩)
        · exact absurd hliteral hnone
        · exact .inl (by rw [hport])
        · exact absurd hsome huser
    · have hdrop : dropPort (beforeQuery text) = beforeQuery (before ':' text) := by
        rw [dropPort, if_neg hliteral]
        unfold before beforeQuery
        rw [List.takeWhile_takeWhile, List.takeWhile_takeWhile]
        simp only [and_comm]
      rw [hdrop]
      constructor
      · intro hcovers
        obtain ⟨hquery, hfragment⟩ := not_mem_before_query (before ':' text)
        exact .plain huser hliteral
          (fun hmem => hquery (hcovers.mem (by decide) (by decide) hmem))
          (fun hmem => hfragment (hcovers.mem (by decide) (by decide) hmem))
      · rintro (⟨_, _, hquery, hfragment⟩ | ⟨_, hsome, _⟩ | ⟨hsome, _, _⟩)
        · have hsame : beforeQuery (before ':' text) = before ':' text := by
            unfold beforeQuery
            rw [List.takeWhile_eq_self_iff]
            intro c hmem
            simp only [Bool.and_eq_true, bne_iff_ne]
            exact ⟨fun heq => hquery (heq ▸ hmem), fun heq => hfragment (heq ▸ hmem)⟩
          exact .inl (by rw [hsame])
        · exact absurd hsome hliteral
        · exact absurd hsome huser

/-- The gate respects every allowlist on a URL if and only if the SSRF guard blocks the URL or
the URL names its host where the gate reads it. -/
theorem gate_sound_iff (url : List Char) :
    GateSound url ↔ isSsrfBlocked url = true ∨ ∀ text, extractHost url = some text →
      NamesItsHost text := by
  cases htext : extractHost url with
  | none =>
      refine iff_of_true (fun allowlist _ haccept => ?_) (.inr fun text h => by cases h)
      have hnone : extractHostFromUrl url = none := by
        rw [extract_host_from_url_eq, htext, Option.map_none]
      simp [validateUrl, hnone] at haccept
  | some text =>
      rw [gate_sound_iff_covers htext, covers_iff_names_its_host]
      cases isSsrfBlocked url with
      | true => simp
      | false => simp

/-- Userinfo that reads like an allowed host, and an allowed domain in the query, take a
request to another host. -/
theorem gate_unsound :
    ¬ GateSound "http://example.com:x@evil.com/".toList ∧
      ¬ GateSound "http://evil.com?.example.com/".toList := by
  refine ⟨fun hsound => ?_, fun hsound => ?_⟩
  · obtain ⟨dialled, hdialled, hcovers⟩ :=
      hsound ["example.com".toList] (by decide) (by decide)
    obtain rfl : "evil.com".toList = dialled := Option.some.inj hdialled
    exact absurd hcovers (by decide)
  · obtain ⟨dialled, hdialled, hcovers⟩ :=
      hsound ["example.com".toList] (by decide) (by decide)
    obtain rfl : "evil.com".toList = dialled := Option.some.inj hdialled
    exact absurd hcovers (by decide)

end CorvidNano.Host.Http
