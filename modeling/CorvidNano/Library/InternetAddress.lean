import CorvidNano.Library.Digits
import CorvidNano.Library.Fallible
import CorvidNano.Library.Text
import Mathlib.Algebra.Group.Nat.Defs
import Mathlib.Tactic.Ring

/-!
# Textual internet addresses

What a URL client makes of the text of a host: the IPv4 and IPv6 address that it spells, in any
of the accepted notations, or a DNS name. Addresses are numbers of 32 and 128 bits. `ipv4_text` and
`ipv6_text` say which characters such a text has, and where its dots and colons are.
-/

namespace CorvidNano.InternetAddress

open Digits Fallible Text

/-! ## IPv4 -/

/-- One part of an IPv4 address: hexadecimal after `0x`, octal after `0`, decimal otherwise. -/
def ipv4Part? : List Char → Option Nat
  | [] => none
  | '0' :: 'x' :: digits | '0' :: 'X' :: digits => number? 16 digits
  | '0' :: digits => number? 8 digits
  | digits => number? 10 digits

/-- The address of some parts. Every part but the last is one byte and the last fills the bytes
that are left. -/
def ofParts? : Nat → List Nat → Option Nat
  | room, [last] => if last < 256 ^ room then some last else none
  | room + 2, part :: rest =>
      if part < 256 then (ofParts? (room + 1) rest).map (part * 256 ^ (room + 1) + ·) else none
  | _, _ => none

/-- The IPv4 address that a text spells, in dotted, short, decimal, octal or hexadecimal
notation. -/
def ipv4? (text : List Char) : Option Nat :=
  ((text.splitOn '.').mapM ipv4Part?).bind (ofParts? 4)

/-- The address lies in the network of the given prefix length. -/
def inNetwork (width length network address : Nat) : Bool :=
  address / 2 ^ (width - length) == network / 2 ^ (width - length)

/-! ## IPv6 -/

/-- A group of one to four hexadecimal digits. -/
def group? (piece : List Char) : Option Nat :=
  if 1 ≤ piece.length ∧ piece.length ≤ 4 then number? 16 piece else none

/-- A decimal byte without superfluous zeros. -/
def decimalByte? (piece : List Char) : Option Nat :=
  if piece = [] ∨ (piece.head? = some '0' ∧ 1 < piece.length) then none
  else (number? 10 piece).filter (· < 256)

/-- The two groups of an embedded IPv4 address. -/
def quad? (piece : List Char) : Option (List Nat) :=
  match (piece.splitOn '.').mapM decimalByte? with
  | some [a, b, c, d] => some [256 * a + b, 256 * c + d]
  | _ => none

/-- The groups of colon-separated pieces. Only the last pieces of an address may embed an IPv4
address. -/
def groups? (last : Bool) : List (List Char) → Option (List Nat)
  | [] => some []
  | [piece] =>
      match group? piece with
      | some group => some [group]
      | none => if last then quad? piece else none
  | piece :: rest => do
      let group ← group? piece
      let groups ← groups? last rest
      pure (group :: groups)

/-- The colon-separated pieces of a text. The empty text has none. -/
def pieces (text : List Char) : List (List Char) :=
  if text = [] then [] else text.splitOn ':'

/-- The texts before and after the first double colon. -/
def splitDoubleColon : List Char → Option (List Char × List Char)
  | ':' :: ':' :: rest => some ([], rest)
  | c :: rest => (splitDoubleColon rest).map fun parts => (c :: parts.1, parts.2)
  | [] => none

/-- The address of eight groups. -/
def ofGroups (groups : List Nat) : Nat :=
  groups.foldl (fun value group => 65536 * value + group) 0

/-- The IPv6 address that a text spells. -/
def ipv6? (text : List Char) : Option Nat :=
  match splitDoubleColon text with
  | none => ((groups? true (pieces text)).filter (·.length == 8)).map ofGroups
  | some (left, right) => do
      let leading ← groups? false (pieces left)
      let trailing ← groups? true (pieces right)
      if leading.length + trailing.length ≤ 7 then
        pure (ofGroups (leading ++
          List.replicate (8 - leading.length - trailing.length) 0 ++ trailing))
      else none

/-! ## Names -/

/-- The text with its percent-encoded ASCII characters decoded. -/
def percentDecode : List Char → List Char
  | '%' :: high :: low :: rest =>
      match digit? 16 high, digit? 16 low with
      | some h, some l => Char.ofNat (16 * h + l) :: percentDecode rest
      | _, _ => '%' :: percentDecode (high :: low :: rest)
  | c :: rest => c :: percentDecode rest
  | [] => []

/-- The text without the dot of the root domain. -/
def dropRoot (text : List Char) : List Char :=
  if text.getLast? = some '.' then text.dropLast else text

/-- A character of a DNS label. -/
def isLabelChar (c : Char) : Bool :=
  c.isAlphanum || c == '-' || c == '_'

/-- The text is a DNS name: labels of letters, digits and hyphens, of which the last is not a
number. -/
def isDnsName (text : List Char) : Bool :=
  let labels := text.splitOn '.'
  labels.all (fun label => label != [] && label.all isLabelChar) &&
    labels.getLast?.all fun label => !label.all Char.isDigit && (ipv4Part? label).isNone

/-! ## Digits -/

/-- A hexadecimal digit. -/
def IsHex (c : Char) : Prop := ∃ value, digit? 16 c = some value

theorem is_hex_of_digit {base value : Nat} {c : Char} (hbase : base ≤ 16)
    (h : digit? base c = some value) : IsHex c := by
  unfold IsHex digit?
  unfold digit? at h
  dsimp only at h ⊢
  split_ifs at h ⊢ <;> first | exact ⟨_, rfl⟩ | omega

theorem is_hex_of_number {base number : Nat} {digits : List Char} (hbase : base ≤ 16)
    (h : number? base digits = some number) : ∀ c ∈ digits, IsHex c := by
  intro c hc
  obtain ⟨value, hvalue⟩ := digits_of_number h hc
  exact is_hex_of_digit hbase hvalue

/-- A hexadecimal digit is one in lower case too. -/
theorem IsHex.to_lower {c : Char} (h : IsHex c) : IsHex c.toLower := by
  have hall : ∀ code < 103, 48 ≤ code ∧ code ≤ 57 ∨ 97 ≤ code ∨ 65 ≤ code ∧ code ≤ 70 →
      (digit? 16 (Char.ofNat code).toLower).isSome := by decide
  obtain ⟨value, hvalue⟩ := h
  have hsome := hall c.toNat
  rw [Char.ofNat_toNat] at hsome
  refine Option.isSome_iff_exists.mp (hsome ?_ ?_)
  · obtain ⟨_, hle, _⟩ | ⟨_, hle, _⟩ | ⟨_, hle, _⟩ := code_of_hex_digit hvalue <;> omega
  · obtain ⟨hge, hle, _⟩ | ⟨hge, _, _⟩ | ⟨hge, hle, _⟩ := code_of_hex_digit hvalue
    · exact .inl ⟨hge, hle⟩
    · exact .inr (.inl hge)
    · exact .inr (.inr ⟨hge, hle⟩)

/-! ## The texts of IPv4 addresses -/

theorem ipv4_part_chars {part : List Char} {value : Nat} (h : ipv4Part? part = some value) :
    ∀ c ∈ part, c = 'x' ∨ c = 'X' ∨ IsHex c := by
  have hzero : IsHex '0' := ⟨0, rfl⟩
  unfold ipv4Part? at h
  split at h
  · cases h
  · rintro c (_ | ⟨_, _ | ⟨_, hc⟩⟩)
    · exact .inr (.inr hzero)
    · exact .inl rfl
    · exact .inr (.inr (is_hex_of_number (by decide) h c hc))
  · rintro c (_ | ⟨_, _ | ⟨_, hc⟩⟩)
    · exact .inr (.inr hzero)
    · exact .inr (.inl rfl)
    · exact .inr (.inr (is_hex_of_number (by decide) h c hc))
  · rintro c (_ | ⟨_, hc⟩)
    · exact .inr (.inr hzero)
    · exact .inr (.inr (is_hex_of_number (by decide) h c hc))
  · exact fun c hc => .inr (.inr (is_hex_of_number (by decide) h c hc))

theorem of_parts_length {room value : Nat} {parts : List Nat}
    (h : ofParts? (room + 1) parts = some value) : parts.length ≤ room + 1 := by
  induction parts generalizing room value with
  | nil => exact Nat.zero_le _
  | cons part rest ih =>
      cases rest with
      | nil => simp
      | cons second rest =>
          cases room with
          | zero => simp [ofParts?] at h
          | succ room =>
              simp only [ofParts?, Option.ite_none_right_eq_some, Option.map_eq_some_iff] at h
              obtain ⟨_, others, hothers, _⟩ := h
              have hlength := ih hothers
              rw [List.length_cons]
              omega

/-- An IPv4 address has at most three dots, and nothing but digits between them. -/
theorem ipv4_text {text : List Char} {address : Nat} (h : ipv4? text = some address) :
    text.count '.' ≤ 3 ∧ ∀ c ∈ text, c = '.' ∨ c = 'x' ∨ c = 'X' ∨ IsHex c := by
  obtain ⟨parts, hparts, haddress⟩ := Option.bind_eq_some_iff.mp h
  rw [map_m_eq_some] at hparts
  constructor
  · have hlength := of_parts_length haddress
    rw [← hparts.length_eq, length_split_on] at hlength
    omega
  · intro c hc
    by_cases hdot : c = '.'
    · exact .inl hdot
    · obtain ⟨part, hpart, hmem⟩ := exists_mem_split_on hc hdot
      obtain ⟨i, hi, rfl⟩ := List.mem_iff_getElem.mp hpart
      exact .inr (ipv4_part_chars (hparts.get hi (hparts.length_eq ▸ hi)) c hmem)

/-! ## The texts of IPv6 addresses -/

/-- The characters of an IPv6 address: groups between colons, with some dots behind the last
colon. -/
structure AddressText (dots : Nat) (text : List Char) : Prop where
  chars : ∀ c ∈ text, c = ':' ∨ c = '.' ∨ IsHex c
  dots : text.count '.' ≤ dots
  order : text.Pairwise fun first second => first = '.' → second ≠ ':'

/-- The characters in lower case. -/
theorem AddressText.to_lower {dots : Nat} {text : List Char} (h : AddressText dots text) :
    AddressText dots (lower text) := by
  constructor
  · intro c hc
    obtain ⟨origin, horigin, rfl⟩ := List.mem_map.mp hc
    rcases h.chars origin horigin with rfl | rfl | hhex
    · exact .inl rfl
    · exact .inr (.inl rfl)
    · exact .inr (.inr hhex.to_lower)
  · rw [count_lower (by decide) (by decide)]
    exact h.dots
  · unfold lower
    rw [List.pairwise_map]
    refine h.order.imp fun {first second} himp hfirst hsecond => ?_
    rw [to_lower_eq_iff (by decide) (by decide)] at hfirst hsecond
    exact himp hfirst hsecond

theorem AddressText.of_sublist {dots : Nat} {part text : List Char} (h : AddressText dots text)
    (hpart : part.Sublist text) : AddressText dots part where
  chars c hc := h.chars c (hpart.subset hc)
  dots := (hpart.count_le _).trans h.dots
  order := h.order.sublist hpart

/-- There is no dot before a colon. -/
theorem AddressText.not_mem_of_append {dots : Nat} {front back : List Char}
    (h : AddressText dots (front ++ ':' :: back)) : '.' ∉ front := by
  intro hdot
  have hafter := (List.pairwise_append.mp h.order).2.2 '.' hdot ':' List.mem_cons_self
  exact hafter rfl rfl

theorem not_is_hex_dot : ¬ IsHex '.' := fun ⟨_, h⟩ => by cases h
theorem not_is_hex_colon : ¬ IsHex ':' := fun ⟨_, h⟩ => by cases h

/-- A group has hexadecimal digits only. -/
theorem group_text {piece : List Char} {group : Nat} (h : group? piece = some group) :
    piece ≠ [] ∧ (∀ c ∈ piece, IsHex c) ∧ group < 65536 := by
  unfold group? at h
  rw [Option.ite_none_right_eq_some] at h
  obtain ⟨⟨hpos, hlen⟩, hnumber⟩ := h
  refine ⟨List.ne_nil_of_length_pos hpos, is_hex_of_number (by decide) hnumber, ?_⟩
  refine Nat.lt_of_lt_of_le (number_lt hnumber) ?_
  exact (Nat.pow_le_pow_right (by decide) hlen)

/-- A decimal byte has digits only. -/
theorem decimal_byte_text {piece : List Char} {byte : Nat} (h : decimalByte? piece = some byte) :
    piece ≠ [] ∧ number? 10 piece = some byte ∧ byte < 256 := by
  unfold decimalByte? at h
  rw [Option.ite_none_left_eq_some, Option.filter_eq_some_iff] at h
  obtain ⟨hpiece, hnumber, hlt⟩ := h
  exact ⟨fun hnil => hpiece (.inl hnil), hnumber, by simpa using hlt⟩

/-- An embedded IPv4 address is four decimal bytes between dots. -/
theorem quad_text {piece : List Char} {groups : List Nat} (h : quad? piece = some groups) :
    ∃ a b c d, List.Forall₂ (fun part byte => decimalByte? part = some byte)
      (piece.splitOn '.') [a, b, c, d] ∧ groups = [256 * a + b, 256 * c + d] := by
  unfold quad? at h
  split at h
  · rename_i a b c d hparts
    exact ⟨a, b, c, d, map_m_eq_some.mp hparts, (Option.some.inj h).symm⟩
  · cases h

theorem quad_chars {piece : List Char} {groups : List Nat} (h : quad? piece = some groups) :
    piece.count '.' = 3 ∧ ∀ c ∈ piece, c = '.' ∨ IsHex c := by
  obtain ⟨a, b, c, d, hparts, _⟩ := quad_text h
  constructor
  · have hlength := hparts.length_eq
    rw [length_split_on] at hlength
    exact Nat.succ.inj hlength
  · intro char hchar
    by_cases hdot : char = '.'
    · exact .inl hdot
    · obtain ⟨part, hpart, hmem⟩ := exists_mem_split_on hchar hdot
      obtain ⟨i, hi, rfl⟩ := List.mem_iff_getElem.mp hpart
      have hbyte := hparts.get hi (hparts.length_eq ▸ hi)
      exact .inr (is_hex_of_number (by decide) (decimal_byte_text hbyte).2.1 char hmem)

/-- A piece without a colon. -/
theorem address_text_of_piece {dots : Nat} {piece : List Char}
    (hchars : ∀ c ∈ piece, c = '.' ∨ IsHex c) (hdots : piece.count '.' ≤ dots) :
    AddressText dots piece where
  chars c hc := .inr (hchars c hc)
  dots := hdots
  order := by
    refine List.pairwise_of_forall_mem_list fun first _ second hsecond _ heq => ?_
    rcases hchars second hsecond with hdot | hhex
    · rw [heq] at hdot
      cases hdot
    · exact not_is_hex_colon (heq ▸ hhex)

/-- A text of hexadecimal digits before an address. -/
theorem AddressText.append_colon {dots : Nat} {front back : List Char}
    (hfront : AddressText 0 front) (hback : AddressText dots back) :
    AddressText dots (front ++ ':' :: back) := by
  have hdot : '.' ∉ front := List.count_eq_zero.mp (Nat.le_zero.mp hfront.dots)
  constructor
  · intro c hc
    rcases List.mem_append.mp hc with hc | hc
    · exact hfront.chars c hc
    · rcases List.mem_cons.mp hc with rfl | hc
      · exact .inl rfl
      · exact hback.chars c hc
  · rw [List.count_append, List.count_eq_zero.mpr hdot, List.count_cons_of_ne (by decide),
      Nat.zero_add]
    exact hback.dots
  · rw [List.pairwise_append]
    refine ⟨hfront.order, List.pairwise_cons.mpr ⟨?_, hback.order⟩, ?_⟩
    · exact fun _ _ heq => absurd heq (by decide)
    · exact fun first hfirst _ _ heq => absurd (heq ▸ hfirst) hdot

theorem AddressText.nil (dots : Nat) : AddressText dots [] where
  chars _ hc := absurd hc List.not_mem_nil
  dots := Nat.zero_le _
  order := .nil

/-- Every group but an embedded IPv4 address has no dots. -/
theorem groups_text {last : Bool} {parts : List (List Char)} {groups : List Nat}
    (h : groups? last parts = some groups) :
    AddressText (if last then 3 else 0) ([':'].intercalate parts) := by
  induction parts generalizing groups with
  | nil => exact .nil _
  | cons piece rest ih =>
      cases rest with
      | nil =>
          rw [List.intercalate_singleton]
          unfold groups? at h
          split at h
          · rename_i group hgroup
            have hhex := (group_text hgroup).2.1
            refine address_text_of_piece (fun c hc => .inr (hhex c hc)) ?_
            rw [List.count_eq_zero.mpr fun hdot => not_is_hex_dot (hhex _ hdot)]
            exact Nat.zero_le _
          · split at h
            · rename_i hlast
              obtain ⟨hcount, hchars⟩ := quad_chars h
              rw [if_pos hlast]
              exact address_text_of_piece hchars (Nat.le_of_eq hcount)
            · cases h
      | cons second rest =>
          simp only [groups?, Option.bind_eq_bind, Option.bind_eq_some_iff] at h
          obtain ⟨group, hgroup, others, hothers, _⟩ := h
          have hhex := (group_text hgroup).2.1
          rw [List.intercalate_cons_cons, List.append_assoc, List.singleton_append]
          refine AddressText.append_colon ?_ (ih hothers)
          refine address_text_of_piece (fun c hc => .inr (hhex c hc)) ?_
          rw [List.count_eq_zero.mpr fun hdot => not_is_hex_dot (hhex _ hdot)]

/-- There are as many groups as pieces, or one more, and each is below 2^16. -/
theorem groups_bounds {last : Bool} {parts : List (List Char)} {groups : List Nat}
    (h : groups? last parts = some groups) :
    parts.length ≤ groups.length ∧ groups.length ≤ parts.length + 1 ∧
      ∀ group ∈ groups, group < 65536 := by
  induction parts generalizing groups with
  | nil =>
      cases h
      simp
  | cons piece rest ih =>
      cases rest with
      | nil =>
          unfold groups? at h
          split at h
          · rename_i group hgroup
            cases h
            simpa using (group_text hgroup).2.2
          · split at h
            · obtain ⟨a, b, c, d, hparts, rfl⟩ := quad_text h
              simp only [List.forall₂_cons_right_iff] at hparts
              obtain ⟨_, _, ha, ⟨_, _, hb, ⟨_, _, hc, ⟨_, _, hd, _⟩, _⟩, _⟩, _⟩ := hparts
              have ha := (decimal_byte_text ha).2.2
              have hb := (decimal_byte_text hb).2.2
              have hc := (decimal_byte_text hc).2.2
              have hd := (decimal_byte_text hd).2.2
              refine ⟨by simp, by simp, ?_⟩
              simp only [List.mem_cons, List.not_mem_nil, or_false]
              rintro group (rfl | rfl) <;> omega
            · cases h
      | cons second rest =>
          simp only [groups?, Option.bind_eq_bind, Option.bind_eq_some_iff] at h
          obtain ⟨group, hgroup, others, hothers, hgroups⟩ := h
          cases hgroups
          obtain ⟨hleast, hmost, hbound⟩ := ih hothers
          refine ⟨Nat.succ_le_succ hleast, Nat.succ_le_succ hmost, ?_⟩
          rintro found (_ | ⟨_, hfound⟩)
          · exact (group_text hgroup).2.2
          · exact hbound found hfound

/-- A text is cut at its first double colon. -/
theorem split_double_colon_eq_some {text front back : List Char}
    (h : splitDoubleColon text = some (front, back)) : text = front ++ ':' :: ':' :: back := by
  induction text using splitDoubleColon.induct generalizing front with
  | case1 rest =>
      cases h
      rfl
  | case2 c rest _ ih =>
      rw [splitDoubleColon] at h
      · obtain ⟨⟨left, right⟩, hparts, hsame⟩ := Option.map_eq_some_iff.mp h
        cases hsame
        rw [ih hparts]
        rfl
      · assumption
  | case3 => cases h

theorem address_text_of_pieces {last : Bool} {text : List Char} {groups : List Nat}
    (h : groups? last (pieces text) = some groups) : AddressText (if last then 3 else 0) text := by
  unfold pieces at h
  split at h
  · rename_i hnil
    rw [hnil]
    exact .nil _
  · have htext := groups_text h
    rwa [List.intercalate_splitOn] at htext

/-- An IPv6 address has a colon, and dots only behind its last one. -/
theorem ipv6_text {text : List Char} {address : Nat} (h : ipv6? text = some address) :
    ':' ∈ text ∧ AddressText 3 text := by
  unfold ipv6? at h
  split at h
  · obtain ⟨groups, hfilter, _⟩ := Option.map_eq_some_iff.mp h
    obtain ⟨hgroups, hlength⟩ := Option.filter_eq_some_iff.mp hfilter
    refine ⟨?_, address_text_of_pieces hgroups⟩
    by_contra hcolon
    have hmost := (groups_bounds hgroups).2.1
    have hpieces : (pieces text).length ≤ 1 := by
      unfold pieces
      split
      · exact Nat.zero_le _
      · rw [length_split_on, List.count_eq_zero.mpr hcolon]
    have height : groups.length = 8 := by simpa using hlength
    omega
  · rename_i front back hsplit
    simp only [Option.bind_eq_bind, Option.bind_eq_some_iff] at h
    obtain ⟨leading, hleading, trailing, htrailing, _⟩ := h
    have hfront := address_text_of_pieces hleading
    have hback := address_text_of_pieces htrailing
    rw [split_double_colon_eq_some hsplit]
    refine ⟨by simp, hfront.append_colon ?_⟩
    exact AddressText.append_colon (.nil 0) hback

/-! ## Numbers and decoding -/

theorem foldl_groups (start : Nat) (groups : List Nat) :
    groups.foldl (fun value group => 65536 * value + group) start =
      start * 65536 ^ groups.length + ofGroups groups := by
  unfold ofGroups
  induction groups generalizing start with
  | nil => simp
  | cons group rest ih =>
      rw [List.foldl_cons, List.foldl_cons, ih, ih (65536 * 0 + group), List.length_cons, pow_succ]
      ring

/-- The first group is worth as much as the groups behind it leave to it. -/
theorem of_groups_cons (group : Nat) (rest : List Nat) :
    ofGroups (group :: rest) = group * 65536 ^ rest.length + ofGroups rest := by
  rw [← foldl_groups, ofGroups, List.foldl_cons, Nat.mul_zero, Nat.zero_add]

theorem of_groups_lt {groups : List Nat} (h : ∀ group ∈ groups, group < 65536) :
    ofGroups groups < 65536 ^ groups.length := by
  induction groups with
  | nil => simp [ofGroups]
  | cons group rest ih =>
      have hrest := ih fun other hother => h other (List.mem_cons_of_mem _ hother)
      have hgroup := h group List.mem_cons_self
      rw [of_groups_cons, List.length_cons, pow_succ, Nat.mul_comm _ 65536]
      calc group * 65536 ^ rest.length + ofGroups rest
          < group * 65536 ^ rest.length + 65536 ^ rest.length := Nat.add_lt_add_left hrest _
        _ = (group + 1) * 65536 ^ rest.length := by ring
        _ ≤ 65536 * 65536 ^ rest.length := Nat.mul_le_mul_right _ hgroup

/-- Zeros in front do not matter. -/
theorem of_groups_zeros (count : Nat) (groups : List Nat) :
    ofGroups (List.replicate count 0 ++ groups) = ofGroups groups := by
  induction count with
  | zero => rfl
  | succ count ih =>
      rw [List.replicate_succ, List.cons_append, ofGroups, List.foldl_cons]
      exact ih

/-- An address that begins with a double colon has the value of the groups behind it. -/
theorem ipv6_of_double_colon {text : List Char} {address : Nat}
    (h : ipv6? (':' :: ':' :: text) = some address) :
    ∃ groups, groups? true (pieces text) = some groups ∧ groups.length ≤ 7 ∧
      address = ofGroups groups := by
  have hpieces : groups? false (pieces []) = some [] := rfl
  simp only [ipv6?, splitDoubleColon, hpieces, Option.bind_eq_bind, Option.bind_eq_some_iff,
    Option.some.injEq, exists_eq_left', List.length_nil, Nat.zero_add, Nat.sub_zero,
    List.nil_append, Option.ite_none_right_eq_some, Option.pure_def] at h
  obtain ⟨groups, hgroups, hlength, rfl⟩ := h
  exact ⟨groups, hgroups, hlength, of_groups_zeros _ _⟩

/-- A character that is no part of an encoded one is decoded to itself. -/
theorem percent_decode_append_cons {stop : Char} (hpercent : stop ≠ '%') (hhex : ¬ IsHex stop)
    (front back : List Char) :
    percentDecode (front ++ stop :: back) =
      percentDecode front ++ stop :: percentDecode back := by
  have hnone : digit? 16 stop = none := Option.eq_none_iff_forall_ne_some.mpr
    fun value hvalue => hhex ⟨value, hvalue⟩
  have hstop : percentDecode (stop :: back) = stop :: percentDecode back := by
    rw [percentDecode]
    intro _ _ _ heq _
    exact hpercent heq
  have hkeep : ∀ c rest, c ≠ '%' → percentDecode (c :: rest) = c :: percentDecode rest := by
    intro c rest hc
    rw [percentDecode]
    intro _ _ _ heq _
    exact hc heq
  induction hlength : front.length using Nat.strong_induction_on generalizing front with
  | _ length ih =>
      cases front with
      | nil => exact hstop
      | cons c rest =>
          by_cases hc : c = '%'
          · subst hc
            match rest with
            | [] =>
                cases back with
                | nil => simp [percentDecode]
                | cons low rest =>
                    rw [List.cons_append, List.nil_append, percentDecode, hnone]
                    dsimp only
                    rw [hstop]
                    simp [percentDecode]
            | [high] =>
                rw [List.cons_append, List.cons_append, List.nil_append, percentDecode, hnone]
                have hrest := ih 1 (by simp [← hlength]) [high] rfl
                rw [List.singleton_append] at hrest
                cases digit? 16 high with
                | none =>
                    dsimp only
                    rw [hrest]
                    simp [percentDecode]
                | some value =>
                    dsimp only
                    rw [hrest]
                    simp [percentDecode]
            | high :: low :: rest =>
                rw [List.cons_append, List.cons_append, List.cons_append, percentDecode,
                  percentDecode]
                have hall := ih _ (by simp [← hlength]) (high :: low :: rest) rfl
                have hrest := ih _ (by simp [← hlength]; omega) rest rfl
                cases digit? 16 high with
                | none =>
                    dsimp only
                    rw [← List.cons_append, ← List.cons_append, hall]
                    rfl
                | some h =>
                    cases digit? 16 low with
                    | none =>
                        dsimp only
                        rw [← List.cons_append, ← List.cons_append, hall]
                        rfl
                    | some l =>
                        dsimp only
                        rw [hrest]
                        rfl
          · rw [List.cons_append, hkeep c _ hc, hkeep c _ hc,
              ih _ (by simp [← hlength]) rest rfl]
            rfl

/-- Decoding removes no such character. -/
theorem count_le_percent_decode {stop : Char} (hpercent : stop ≠ '%') (hhex : ¬ IsHex stop)
    (text : List Char) : text.count stop ≤ (percentDecode text).count stop := by
  induction hcount : text.count stop generalizing text with
  | zero => exact Nat.zero_le _
  | succ count ih =>
      have hmem : stop ∈ text := List.count_pos_iff.mp (by omega)
      obtain ⟨front, back, rfl, hfront⟩ := List.eq_append_cons_of_mem hmem
      rw [List.count_append, List.count_eq_zero.mpr hfront, List.count_cons_self,
        Nat.zero_add] at hcount
      have hback := ih back (Nat.succ.inj hcount)
      rw [percent_decode_append_cons hpercent hhex, List.count_append, List.count_cons_self]
      omega

theorem mem_percent_decode {stop : Char} (hpercent : stop ≠ '%') (hhex : ¬ IsHex stop)
    {text : List Char} (h : stop ∈ text) : stop ∈ percentDecode text := by
  have hle := count_le_percent_decode hpercent hhex text
  exact List.count_pos_iff.mp (Nat.lt_of_lt_of_le (List.count_pos_iff.mpr h) hle)

/-- Only nothing is decoded to nothing. -/
theorem percent_decode_eq_nil_iff {text : List Char} : percentDecode text = [] ↔ text = [] := by
  constructor
  · intro h
    unfold percentDecode at h
    split at h
    · split at h
      · cases h
      · cases h
    · cases h
    · rfl
  · rintro rfl
    rfl

end CorvidNano.InternetAddress
