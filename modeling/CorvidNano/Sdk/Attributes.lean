import CorvidNano.Host.Signature
import CorvidNano.Library.Text
import CorvidNano.Library.Utf8
import Mathlib.Data.List.DropRight
import Mathlib.Data.List.Nodup

/-!
# The attribute of `corvid_tool`

`extract_attr_value` of the plugin macros looks for a key in a text of `key = "value"` pairs. It
splits the text at every comma, also at those in values, and gives up at the first part that begins
with the key and goes on with something else than `=`.

`extract_faithful_iff` is the main result: the keys of a list have their values, and other keys
none, exactly if no value has a comma and no key begins an earlier one.
-/

namespace CorvidNano.Sdk.Attributes

open Host.Signature (isWhiteSpace trim)

/-- The character around a value. -/
def quote : Char := '"'

/-- What the loop of `extract_attr_value` makes of a part: it returns the value, returns without
one, or goes on. -/
inductive Outcome where
  | found (value : List Char)
  | stopped
  | next
  deriving DecidableEq

/-- The body of the loop. -/
def readPart (search part : List Char) : Outcome :=
  let part := trim part
  if search <+: part then
    match trim (part.drop search.length) with
    | '=' :: rest =>
        let rest := trim rest
        if rest.head? = some quote ∧ rest.getLast? = some quote ∧ 2 ≤ Utf8.size rest then
          .found (rest.drop 1).dropLast
        else .next
    -- The operator `?` leaves the function, not only the part.
    | _ => .stopped
  else .next

/-- The loop over the parts. -/
def searchParts (search : List Char) : List (List Char) → Option (List Char)
  | [] => none
  | part :: rest =>
      match readPart search part with
      | .found value => some value
      | .stopped => none
      | .next => searchParts search rest

/-- `extract_attr_value`. -/
def extractAttrValue (attrs key : List Char) : Option (List Char) :=
  searchParts key (attrs.splitOn ',')

/-- The name and the description that `corvid_tool` gives a tool, with `to_lowercase` of the
standard library. -/
def corvidTool (toLowercase : List Char → List Char) (structName attrStr : List Char) :
    List Char × List Char :=
  ((extractAttrValue attrStr "name".toList).getD (toLowercase structName),
    (extractAttrValue attrStr "description".toList).getD [])

/-! ## Lists of pairs -/

/-- A key: a name without white space and without the characters around it. -/
structure Key where
  text : List Char
  ne_nil : text ≠ []
  plain : ∀ c ∈ text, isWhiteSpace c = false ∧ c ≠ ',' ∧ c ≠ '=' ∧ c ≠ quote
  deriving DecidableEq

/-- White space. -/
structure Spaces where
  text : List Char
  white : ∀ c ∈ text, isWhiteSpace c = true

/-- A pair as it is written, with a value that has no double quote. -/
structure Attr where
  key : Key
  value : List Char
  no_quote : quote ∉ value
  beforeKey : Spaces
  afterKey : Spaces
  beforeValue : Spaces
  afterValue : Spaces

/-- The text of a pair up to its value, followed by `rest`. -/
def Attr.opening (attr : Attr) (rest : List Char) : List Char :=
  attr.beforeKey.text ++ (attr.key.text ++ (attr.afterKey.text ++
    '=' :: (attr.beforeValue.text ++ quote :: rest)))

/-- The text of a pair. -/
def Attr.render (attr : Attr) : List Char :=
  attr.opening (attr.value ++ quote :: attr.afterValue.text)

/-- Pairs with distinct keys. -/
structure AttrList where
  attrs : List Attr
  distinct : (attrs.map Attr.key).Nodup

/-- The pairs separated by commas. -/
def AttrList.render (list : AttrList) : List Char :=
  [','].intercalate (list.attrs.map Attr.render)

/-- The value of a key. -/
def AttrList.lookup (list : AttrList) (key : Key) : Option (List Char) :=
  (list.attrs.find? fun attr => attr.key = key).map Attr.value

/-- Every key has its value, and no other key has one. -/
def Faithful (list : AttrList) : Prop :=
  ∀ key : Key, extractAttrValue list.render key.text = list.lookup key

/-- No value has a comma, and no key begins an earlier one. -/
def Readable (list : AttrList) : Prop :=
  (∀ attr ∈ list.attrs, ',' ∉ attr.value) ∧
    list.attrs.Pairwise fun earlier later => ¬ later.key.text <+: earlier.key.text

/-! ## Trimming -/

/-- White space at the end of a text is dropped behind the last other character. -/
theorem rdrop_while_append {c : Char} (hc : isWhiteSpace c = false) (front text : List Char) :
    (front ++ c :: text).rdropWhile isWhiteSpace =
      front ++ c :: text.rdropWhile isWhiteSpace := by
  induction text using List.reverseRecOn with
  | nil => exact List.rdropWhile_concat_neg _ _ _ (by rw [hc]; decide)
  | append_singleton text d ih =>
      rw [← List.cons_append, ← List.append_assoc]
      by_cases hd : isWhiteSpace d = true
      · rw [List.rdropWhile_concat_pos _ _ _ hd, List.rdropWhile_concat_pos _ _ _ hd, ih]
      · rw [List.rdropWhile_concat_neg _ _ _ hd, List.rdropWhile_concat_neg _ _ _ hd,
          List.append_assoc, List.cons_append]

/-- White space in front of a text is trimmed, and so is that at its end. -/
theorem trim_white_append {front : List Char} {c : Char}
    (hfront : ∀ d ∈ front, isWhiteSpace d = true) (hc : isWhiteSpace c = false)
    (text : List Char) :
    trim (front ++ c :: text) = c :: text.rdropWhile isWhiteSpace := by
  show ((front ++ c :: text).dropWhile isWhiteSpace).rdropWhile isWhiteSpace = _
  rw [List.dropWhile_append_of_pos hfront, List.dropWhile_cons_of_neg (by rw [hc]; decide)]
  exact rdrop_while_append hc [] text

theorem trim_sublist (text : List Char) : (trim text).Sublist text :=
  (List.rdropWhile_prefix _ _).sublist.trans (List.dropWhile_sublist _)

/-! ## A part -/

theorem read_part_next {search part : List Char} (h : ¬ search <+: trim part) :
    readPart search part = .next := by
  rw [readPart, if_neg h]

theorem read_part_stopped {search part rest : List Char} (h : trim part = search ++ rest)
    (hrest : (trim rest).head? ≠ some '=') : readPart search part = .stopped := by
  unfold readPart
  simp only [h, List.prefix_append, if_true, List.drop_left]
  split
  next heq => exact absurd (by rw [heq]; rfl) hrest
  next => rfl

theorem read_part_value {search part rest value : List Char} (h : trim part = search ++ rest)
    (hrest : trim rest = '=' :: value) :
    readPart search part =
      if (trim value).head? = some quote ∧ (trim value).getLast? = some quote ∧
          2 ≤ Utf8.size (trim value) then
        .found ((trim value).drop 1).dropLast
      else .next := by
  unfold readPart
  simp only [h, List.prefix_append, if_true, List.drop_left, hrest]

/-- A value is found only between two double quotes. -/
theorem two_le_count_of_found {search part value : List Char}
    (h : readPart search part = .found value) : 2 ≤ part.count quote := by
  by_cases hprefix : search <+: trim part
  · obtain ⟨rest, hpart⟩ := hprefix
    cases htrim : trim rest with
    | nil =>
        rw [read_part_stopped hpart.symm (by rw [htrim]; decide)] at h
        cases h
    | cons c text =>
        by_cases hc : c = '='
        · subst hc
          rw [read_part_value hpart.symm htrim] at h
          split at h
          next hquoted =>
            obtain ⟨hhead, hlast, hsize⟩ := hquoted
            have hsub : (trim text).Sublist part := by
              have hpartSub := trim_sublist part
              rw [← hpart] at hpartSub
              have hrestSub := trim_sublist rest
              rw [htrim] at hrestSub
              exact (trim_sublist text).trans ((List.sublist_cons_self _ _).trans
                (hrestSub.trans ((List.sublist_append_right _ _).trans hpartSub)))
            refine le_trans ?_ (hsub.count_le quote)
            cases hvalue : trim text with
            | nil =>
                rw [hvalue] at hhead
                cases hhead
            | cons first inner =>
                rw [hvalue] at hhead hlast hsize
                obtain rfl := Option.some.inj hhead
                cases inner with
                | nil => exact absurd hsize (by decide)
                | cons d inner =>
                    rw [List.getLast?_cons_cons] at hlast
                    have hmem := List.mem_of_getLast? hlast
                    rw [List.count_cons_self]
                    exact Nat.succ_le_succ (List.count_pos_iff.mpr hmem)
          next => cases h
        · rw [read_part_stopped hpart.symm (by rw [htrim]; simpa using hc)] at h
          cases h
  · rw [read_part_next hprefix] at h
    cases h

/-! ## The parts of a pair -/

theorem Spaces.not_mem {c : Char} (hc : isWhiteSpace c = false) (spaces : Spaces) :
    c ∉ spaces.text := by
  intro hmem
  have hwhite := spaces.white c hmem
  rw [hc] at hwhite
  cases hwhite

/-- The text of a pair has the double quotes of its rest and one more. -/
theorem Attr.count_opening (attr : Attr) (rest : List Char) :
    (attr.opening rest).count quote = rest.count quote + 1 := by
  have hkey : quote ∉ attr.key.text := fun hmem => (attr.key.plain quote hmem).2.2.2 rfl
  have hspaces : ∀ spaces : Spaces, spaces.text.count quote = 0 := fun spaces =>
    List.count_eq_zero.mpr (spaces.not_mem (by decide))
  unfold Attr.opening
  rw [List.count_append, List.count_append, List.count_append, List.count_cons, List.count_append,
    List.count_cons_self, hspaces, hspaces, hspaces, List.count_eq_zero.mpr hkey]
  have hne : ('=' == quote) = false := by decide
  rw [hne]
  simp

/-- The text of a pair has a comma only in its rest. -/
theorem Attr.comma_mem_opening {attr : Attr} {rest : List Char}
    (h : ',' ∈ attr.opening rest) : ',' ∈ rest := by
  have hspaces : ∀ spaces : Spaces, ',' ∉ spaces.text := fun spaces =>
    spaces.not_mem (by decide)
  have hkey : ',' ∉ attr.key.text := fun hmem => (attr.key.plain ',' hmem).2.1 rfl
  have hquote : ',' ≠ quote := by decide
  unfold Attr.opening at h
  simpa [hspaces, hkey, hquote] using h

theorem Attr.opening_append (attr : Attr) (first second : List Char) :
    attr.opening (first ++ second) = attr.opening first ++ second := by
  simp [Attr.opening]

/-- A pair without the white space around it. -/
theorem Attr.trim_opening (attr : Attr) (rest : List Char) :
    trim (attr.opening rest) = attr.key.text ++ (attr.afterKey.text ++
      '=' :: (attr.beforeValue.text ++ quote :: rest.rdropWhile isWhiteSpace)) := by
  have hquote : isWhiteSpace quote = false := by decide
  unfold Attr.opening
  cases hkey : attr.key.text with
  | nil => exact absurd hkey attr.key.ne_nil
  | cons c key =>
      have hc := (attr.key.plain c (by rw [hkey]; exact List.mem_cons_self)).1
      have hsplit : key ++ (attr.afterKey.text ++ '=' :: (attr.beforeValue.text ++ quote :: rest)) =
          (key ++ (attr.afterKey.text ++ '=' :: attr.beforeValue.text)) ++ quote :: rest := by
        simp
      rw [List.cons_append, trim_white_append attr.beforeKey.white hc, hsplit,
        rdrop_while_append hquote]
      simp

/-- What the loop makes of a pair with its own key. -/
theorem Attr.read_part_own (attr : Attr) (rest : List Char) :
    readPart attr.key.text (attr.opening rest) =
      let value := quote :: rest.rdropWhile isWhiteSpace
      if value.head? = some quote ∧ value.getLast? = some quote ∧ 2 ≤ Utf8.size value then
        .found (value.drop 1).dropLast
      else .next := by
  have hquote : isWhiteSpace quote = false := by decide
  have hequals : isWhiteSpace '=' = false := by decide
  have hrest := trim_white_append attr.afterKey.white hequals
    (attr.beforeValue.text ++ quote :: rest.rdropWhile isWhiteSpace)
  rw [rdrop_while_append hquote, List.rdropWhile_idempotent] at hrest
  have hvalue := trim_white_append attr.beforeValue.white hquote (rest.rdropWhile isWhiteSpace)
  rw [List.rdropWhile_idempotent] at hvalue
  rw [read_part_value (attr.trim_opening rest) hrest, hvalue]

/-- The value of a pair is found if it is all in one part. -/
theorem Attr.read_part_render (attr : Attr) :
    readPart attr.key.text attr.render = .found attr.value := by
  have hquote : isWhiteSpace quote = false := by decide
  have hsize : Utf8.size [quote] = 1 := by decide
  unfold Attr.render
  rw [attr.read_part_own, rdrop_while_append hquote,
    List.rdropWhile_eq_nil_iff.mpr attr.afterValue.white]
  dsimp only
  rw [if_pos, List.drop_one, List.tail_cons, List.dropLast_concat]
  refine ⟨rfl, ?_, ?_⟩
  · rw [← List.cons_append, List.getLast?_concat]
  · rw [Utf8.size_cons, Utf8.size_append, hsize]
    have hpos := quote.utf8Size_pos
    omega

/-- A text without a character begins only with what is in front of it. -/
theorem initial_of_not_mem {text front rest : List Char} {c : Char} (hc : c ∉ text)
    (h : text <+: front ++ c :: rest) : text <+: front := by
  rcases List.prefix_or_prefix_of_prefix h (List.prefix_append front (c :: rest)) with hle | hlong
  · exact hle
  · obtain ⟨more, rfl⟩ := hlong
    cases more with
    | nil => rw [List.append_nil]
    | cons d more =>
        have hmore := (List.prefix_append_right_inj front).mp h
        obtain ⟨rfl, -⟩ := List.cons_prefix_cons.mp hmore
        exact absurd (List.mem_append_right front List.mem_cons_self) hc

/-- Another key stops the loop at a pair whose key it begins, and passes any other. -/
theorem Attr.read_part_other {attr : Attr} {search : Key} (hne : attr.key ≠ search)
    (rest : List Char) :
    readPart search.text (attr.opening rest) =
      if search.text <+: attr.key.text then .stopped else .next := by
  have htrim := attr.trim_opening rest
  by_cases hprefix : search.text <+: attr.key.text
  · obtain ⟨more, hmore⟩ := hprefix
    rw [if_pos ⟨more, hmore⟩]
    rw [← hmore, List.append_assoc] at htrim
    apply read_part_stopped htrim
    cases more with
    | nil =>
        rw [List.append_nil] at hmore
        exact absurd (by cases hsearch : search; cases hkey : attr.key; simp_all) hne
    | cons c more =>
        have hc := attr.key.plain c (by rw [← hmore]; simp)
        rw [List.cons_append, ← List.nil_append (c :: _), trim_white_append (by simp) hc.1]
        simpa using hc.2.2.1
  · rw [if_neg hprefix]
    apply read_part_next
    rw [htrim]
    intro hlong
    apply hprefix
    -- The key of the pair ends with white space or the equals sign.
    cases hafter : attr.afterKey.text with
    | nil =>
        rw [hafter, List.nil_append] at hlong
        exact initial_of_not_mem (fun hmem => (search.plain '=' hmem).2.2.1 rfl) hlong
    | cons d after =>
        have hd : isWhiteSpace d = true :=
          attr.afterKey.white d (by rw [hafter]; exact List.mem_cons_self)
        rw [hafter, List.cons_append] at hlong
        refine initial_of_not_mem (fun hmem => ?_) hlong
        rw [(search.plain d hmem).1] at hd
        cases hd

/-- The parts of a pair's text. -/
def Attr.parts (attr : Attr) : List (List Char) :=
  attr.render.splitOn ','

theorem Attr.parts_of_not_mem {attr : Attr} (h : ',' ∉ attr.value) :
    attr.parts = [attr.render] := by
  have hspaces := attr.afterValue.not_mem (c := ',') (by decide)
  have hquote : ',' ≠ quote := by decide
  apply List.splitOn_eq_singleton
  intro hmem
  have hrest := comma_mem_opening hmem
  simp [h, hspaces, hquote] at hrest

/-- The two double quotes of a value with a comma are in different parts. -/
theorem Attr.count_le_one {attr : Attr} (h : ',' ∈ attr.value) {part : List Char}
    (hpart : part ∈ attr.parts) : part.count quote ≤ 1 := by
  have hvalue : attr.value.count quote = 0 := List.count_eq_zero.mpr attr.no_quote
  have hspaces : attr.afterValue.text.count quote = 0 :=
    List.count_eq_zero.mpr (attr.afterValue.not_mem (by decide))
  obtain ⟨first, second, hsplit⟩ := List.append_of_mem h
  rw [hsplit, List.count_append, List.count_cons_of_ne (by decide)] at hvalue
  unfold Attr.parts Attr.render at hpart
  rw [hsplit, List.append_assoc, List.cons_append, Attr.opening_append,
    List.splitOn_append_cons_self, List.mem_append] at hpart
  rcases hpart with hpart | hpart
  · have hle := (Text.sublist_of_mem_split_on hpart).count_le quote
    rw [attr.count_opening] at hle
    omega
  · have hle := (Text.sublist_of_mem_split_on hpart).count_le quote
    rw [List.count_append, List.count_cons_self, hspaces] at hle
    omega

/-- No value is found at a pair with another key, or with a comma in its value. -/
theorem Attr.not_found {attr : Attr} {search : Key}
    (h : attr.key ≠ search ∨ ',' ∈ attr.value) {part : List Char} (hpart : part ∈ attr.parts)
    (value : List Char) : readPart search.text part ≠ .found value := by
  intro hfound
  by_cases hcomma : ',' ∈ attr.value
  · have htwo := two_le_count_of_found hfound
    have hone := attr.count_le_one hcomma hpart
    omega
  · rw [attr.parts_of_not_mem hcomma, List.mem_singleton] at hpart
    subst hpart
    rw [Attr.render, attr.read_part_other (h.resolve_right hcomma)] at hfound
    split at hfound
    next => cases hfound
    next => cases hfound

/-! ## The loop -/

variable {search : List Char} {parts before after : List (List Char)}

/-- The loop passes parts in which it finds nothing, or stops at one of them. -/
theorem search_append_eq_some_iff {value : List Char}
    (h : ∀ part ∈ before, ∀ other, readPart search part ≠ .found other) :
    searchParts search (before ++ after) = some value ↔
      (∀ part ∈ before, readPart search part = .next) ∧
        searchParts search after = some value := by
  induction before with
  | nil => simp
  | cons part before ih =>
      rw [List.forall_mem_cons] at h
      rw [List.cons_append, searchParts, List.forall_mem_cons, and_assoc, ← ih h.2]
      cases hpart : readPart search part with
      | found other => exact absurd hpart (h.1 other)
      | stopped => simp
      | next => simp

/-- Nothing is returned if nothing is found. -/
theorem search_eq_none (h : ∀ part ∈ parts, ∀ value, readPart search part ≠ .found value) :
    searchParts search parts = none := by
  cases hsearch : searchParts search parts with
  | none => rfl
  | some value =>
      rw [← List.append_nil parts, search_append_eq_some_iff h] at hsearch
      cases hsearch.2

/-- The parts of a text of pairs are those of the pairs. -/
theorem split_on_render {attrs : List Attr} (h : attrs ≠ []) :
    ([','].intercalate (attrs.map Attr.render)).splitOn ',' = attrs.flatMap Attr.parts := by
  induction attrs with
  | nil => exact absurd rfl h
  | cons attr rest ih =>
      cases rest with
      | nil => simp [Attr.parts]
      | cons other rest =>
          rw [List.map_cons, List.intercalate_cons_of_ne_nil (by simp), List.append_assoc,
            List.singleton_append, List.splitOn_append_cons_self, ih (List.cons_ne_nil _ _),
            List.flatMap_cons]
          rfl

/-- The loop goes through the parts of all pairs. -/
theorem extract_eq_search (list : AttrList) (key : Key) :
    extractAttrValue list.render key.text =
      searchParts key.text (list.attrs.flatMap Attr.parts) := by
  unfold extractAttrValue AttrList.render
  cases hattrs : list.attrs with
  | nil =>
      have hnext : readPart key.text [] = .next :=
        read_part_next fun h => key.ne_nil (List.prefix_nil.mp h)
      show searchParts key.text [[]] = none
      rw [searchParts, hnext]
      rfl
  | cons attr rest => rw [split_on_render (List.cons_ne_nil attr rest)]

/-! ## Lists of distinct keys -/

/-- The loop passes a pair. -/
def Attr.Passed (search : Key) (attr : Attr) : Prop :=
  ∀ part ∈ attr.parts, readPart search.text part = .next

/-- A pair without a comma in its value is passed if the key does not begin its own. -/
theorem Attr.passed_iff {attr : Attr} {search : Key} (hne : attr.key ≠ search)
    (hcomma : ',' ∉ attr.value) : attr.Passed search ↔ ¬ search.text <+: attr.key.text := by
  unfold Attr.Passed
  rw [attr.parts_of_not_mem hcomma, List.forall_mem_singleton, Attr.render,
    attr.read_part_other hne]
  by_cases h : search.text <+: attr.key.text
  · simp [h]
  · simp [h]

/-- The keys before and after a pair are other ones. -/
theorem AttrList.others_ne {list : AttrList} {attr : Attr} {before after : List Attr}
    (h : list.attrs = before ++ attr :: after) :
    (∀ other ∈ before, other.key ≠ attr.key) ∧ ∀ other ∈ after, other.key ≠ attr.key := by
  have hdistinct := list.distinct
  rw [h, List.map_append, List.map_cons, List.nodup_append, List.nodup_cons] at hdistinct
  obtain ⟨-, ⟨hafter, -⟩, hbefore⟩ := hdistinct
  refine ⟨fun other hother => ?_, fun other hother hkey => ?_⟩
  · exact hbefore _ (List.mem_map_of_mem hother) _ List.mem_cons_self
  · exact hafter (hkey ▸ List.mem_map_of_mem hother)

/-- A key of the list has the value of its pair. -/
theorem AttrList.lookup_of_split {list : AttrList} {attr : Attr} {before after : List Attr}
    (h : list.attrs = before ++ attr :: after) : list.lookup attr.key = some attr.value := by
  have hbefore : before.find? (fun other => decide (other.key = attr.key)) = none :=
    List.find?_eq_none.mpr fun other hother => by simpa using (list.others_ne h).1 other hother
  unfold lookup
  rw [h, List.find?_append, hbefore, Option.none_or, List.find?_cons_of_pos (by simp)]
  rfl

/-- A key of the list is extracted exactly if its value has no comma and the loop passes all
earlier pairs. -/
theorem extract_eq_some_iff {list : AttrList} {attr : Attr} {before after : List Attr}
    (h : list.attrs = before ++ attr :: after) :
    extractAttrValue list.render attr.key.text = some attr.value ↔
      ',' ∉ attr.value ∧ ∀ other ∈ before, other.Passed attr.key := by
  obtain ⟨hbefore, hafter⟩ := list.others_ne h
  have hnone : ∀ part ∈ before.flatMap Attr.parts, ∀ value,
      readPart attr.key.text part ≠ .found value := by
    intro part hpart
    obtain ⟨other, hother, hpart⟩ := List.mem_flatMap.mp hpart
    exact other.not_found (Or.inl (hbefore other hother)) hpart
  have hpassed : (∀ part ∈ before.flatMap Attr.parts, readPart attr.key.text part = .next) ↔
      ∀ other ∈ before, other.Passed attr.key :=
    List.forall_mem_flatMap
  rw [extract_eq_search, h, List.flatMap_append, List.flatMap_cons,
    search_append_eq_some_iff hnone, hpassed, and_comm]
  refine and_congr_left fun _ => ?_
  constructor
  · intro hfound hcomma
    rw [search_eq_none] at hfound
    · cases hfound
    · intro part hpart
      rcases List.mem_append.mp hpart with hpart | hpart
      · exact attr.not_found (Or.inr hcomma) hpart
      · obtain ⟨other, hother, hpart⟩ := List.mem_flatMap.mp hpart
        exact other.not_found (Or.inl (hafter other hother)) hpart
  · intro hcomma
    rw [attr.parts_of_not_mem hcomma, List.singleton_append, searchParts, attr.read_part_render]

/-- Any other key is not found. -/
theorem extract_eq_none {list : AttrList} {key : Key}
    (h : ∀ attr ∈ list.attrs, attr.key ≠ key) :
    extractAttrValue list.render key.text = none := by
  rw [extract_eq_search]
  apply search_eq_none
  intro part hpart
  obtain ⟨attr, hattr, hpart⟩ := List.mem_flatMap.mp hpart
  exact attr.not_found (Or.inl (h attr hattr)) hpart

/-- A relation holds between all earlier and later elements exactly if it holds at each split. -/
theorem pairwise_iff_split {α : Type} {relation : α → α → Prop} {elements : List α} :
    elements.Pairwise relation ↔
      ∀ before later after, elements = before ++ later :: after →
        ∀ earlier ∈ before, relation earlier later := by
  constructor
  · rintro h before later after rfl earlier hearlier
    exact (List.pairwise_append.mp h).2.2 earlier hearlier later List.mem_cons_self
  · intro h
    induction elements with
    | nil => exact List.Pairwise.nil
    | cons first rest ih =>
        refine List.Pairwise.cons (fun later hlater => ?_) (ih fun before later after heq => ?_)
        · obtain ⟨before, after, heq⟩ := List.append_of_mem hlater
          exact h (first :: before) later after (by rw [heq, List.cons_append]) first
            List.mem_cons_self
        · exact fun earlier hearlier => h (first :: before) later after
            (by rw [heq, List.cons_append]) earlier (List.mem_cons_of_mem _ hearlier)

/-- Every key of a list that can be read is extracted, and no other key. -/
theorem extract_of_readable {list : AttrList} (h : Readable list) (key : Key) :
    extractAttrValue list.render key.text = list.lookup key := by
  obtain ⟨hcomma, hkeys⟩ := h
  rw [pairwise_iff_split] at hkeys
  by_cases hkey : ∃ attr ∈ list.attrs, attr.key = key
  · obtain ⟨attr, hattr, rfl⟩ := hkey
    obtain ⟨before, after, hsplit⟩ := List.append_of_mem hattr
    rw [list.lookup_of_split hsplit]
    refine (extract_eq_some_iff hsplit).mpr ⟨hcomma attr hattr, fun other hother => ?_⟩
    have hmem : other ∈ list.attrs := by
      rw [hsplit]
      exact List.mem_append_left _ hother
    exact (other.passed_iff ((list.others_ne hsplit).1 other hother) (hcomma other hmem)).mpr
      (hkeys before attr after hsplit other hother)
  · have hnone : ∀ attr ∈ list.attrs, attr.key ≠ key := fun attr hattr heq =>
      hkey ⟨attr, hattr, heq⟩
    have hlookup : list.attrs.find? (fun attr => decide (attr.key = key)) = none :=
      List.find?_eq_none.mpr fun attr hattr => by simpa using hnone attr hattr
    rw [extract_eq_none hnone, AttrList.lookup, hlookup]
    rfl

/-- Every key of a list is extracted, and no other key, exactly if no value has a comma and no key
begins an earlier one. -/
theorem extract_faithful_iff (list : AttrList) : Faithful list ↔ Readable list := by
  refine ⟨fun hfaithful => ?_, extract_of_readable⟩
  have hextract : ∀ {before attr after}, list.attrs = before ++ attr :: after →
      ',' ∉ attr.value ∧ ∀ other ∈ before, other.Passed attr.key := fun h =>
    (extract_eq_some_iff h).mp ((hfaithful _).trans (list.lookup_of_split h))
  have hcomma : ∀ attr ∈ list.attrs, ',' ∉ attr.value := by
    intro attr hattr
    obtain ⟨before, after, h⟩ := List.append_of_mem hattr
    exact (hextract h).1
  refine ⟨hcomma, pairwise_iff_split.mpr fun before attr after h other hother => ?_⟩
  have hmem : other ∈ list.attrs := by
    rw [h]
    exact List.mem_append_left _ hother
  exact (other.passed_iff ((list.others_ne h).1 other hother) (hcomma other hmem)).mp
    ((hextract h).2 other hother)

/-- A property of all characters of a text from a test of them. -/
theorem forall_of_all {P : Char → Prop} [DecidablePred P] {text : List Char}
    (h : (text.all fun c => decide (P c)) = true) : ∀ c ∈ text, P c :=
  fun c hc => of_decide_eq_true (List.all_eq_true.mp h c hc)

/-- The key of the name. -/
def nameKey : Key := ⟨"name".toList, by decide, forall_of_all (by decide)⟩

/-- The key of the description. -/
def descriptionKey : Key := ⟨"description".toList, by decide, forall_of_all (by decide)⟩

/-- A tool has the name and the description of an attribute that can be read. -/
theorem corvid_tool_of_readable {list : AttrList} (h : Readable list)
    (toLowercase : List Char → List Char) (structName : List Char) :
    corvidTool toLowercase structName list.render =
      ((list.lookup nameKey).getD (toLowercase structName),
        (list.lookup descriptionKey).getD []) := by
  rw [← extract_of_readable h, ← extract_of_readable h]
  rfl

/-- A description with a comma. -/
def listing : AttrList where
  attrs := [{
    key := descriptionKey
    value := "a, b".toList
    no_quote := by decide
    beforeKey := ⟨[], forall_of_all rfl⟩
    afterKey := ⟨[' '], forall_of_all (by decide)⟩
    beforeValue := ⟨[' '], forall_of_all (by decide)⟩
    afterValue := ⟨[], forall_of_all rfl⟩ }]
  distinct := List.nodup_singleton _

/-- The description is lost, and so is a name behind a key that begins with `name`. -/
theorem listing_lost :
    listing.render = "description = \"a, b\"".toList ∧ ¬ Faithful listing ∧
      extractAttrValue "name_space = \"x\", name = \"y\"".toList nameKey.text = none := by
  refine ⟨by decide +kernel, fun hfaithful => ?_, by decide +kernel⟩
  have hlost : extractAttrValue listing.render descriptionKey.text = none := by decide +kernel
  have hvalue : listing.lookup descriptionKey = some "a, b".toList := by decide +kernel
  have hsame := hfaithful descriptionKey
  rw [hlost, hvalue] at hsame
  cases hsame

end CorvidNano.Sdk.Attributes
