import Mathlib.Data.List.Infix
import Mathlib.Data.List.TakeWhile
import Mathlib.Data.String.Basic

/-!
# Strings as lists of characters

The string operations that the modelled code uses, on `List Char`, and the facts about them
that hold for any text.
-/

namespace CorvidNano.Text

/-- The anchored regular expression of one `head` character and at most `max` characters of
`tail`. -/
def matchesName (head tail : Char → Bool) (max : Nat) (text : String) : Bool :=
  match text.toList with
  | [] => false
  | first :: rest => head first && rest.all tail && decide (rest.length ≤ max)

/-- The text before the first `stop`, or all of it. -/
def before (stop : Char) (text : List Char) : List Char :=
  text.takeWhile (· != stop)

/-- The text after the last `stop`, or all of it. -/
def afterLast (stop : Char) (text : List Char) : List Char :=
  (before stop text.reverse).reverse

/-- ASCII letters in lower case, and every other character as it is. -/
def lower (text : List Char) : List Char :=
  text.map Char.toLower

/-- The text contains the pattern. -/
def contains (pattern text : String) : Bool :=
  decide (pattern.toList <:+: text.toList)

/-! ## Cutting at a character -/

theorem not_mem_before (stop : Char) (text : List Char) : stop ∉ before stop text := by
  intro hmem
  simpa using List.mem_takeWhile_imp hmem

theorem before_initial (stop : Char) (text : List Char) : before stop text <+: text :=
  List.takeWhile_prefix _

/-- The character follows the text before it. -/
theorem before_concat_initial {stop : Char} {text : List Char} (h : stop ∈ text) :
    before stop text ++ [stop] <+: text := by
  induction text with
  | nil => cases h
  | cons c rest ih =>
      by_cases hc : c = stop
      · subst hc
        simp [before]
      · have hrest := ih (List.mem_of_ne_of_mem (Ne.symm hc) h)
        have hcons : before stop (c :: rest) = c :: before stop rest := by
          simp [before, hc]
        rw [hcons]
        exact List.cons_prefix_cons.mpr ⟨rfl, hrest⟩

/-- Only a text that contains the character is cut. -/
theorem before_eq_self_iff {stop : Char} {text : List Char} :
    before stop text = text ↔ stop ∉ text := by
  unfold before
  rw [List.takeWhile_eq_self_iff]
  constructor
  · intro h hmem
    simpa using h stop hmem
  · intro h c hmem
    rw [bne_iff_ne]
    rintro rfl
    exact h hmem

theorem not_mem_after_last (stop : Char) (text : List Char) : stop ∉ afterLast stop text := by
  intro hmem
  exact not_mem_before stop text.reverse (List.mem_reverse.mp hmem)

theorem after_last_eq_self {stop : Char} {text : List Char} (h : stop ∉ text) :
    afterLast stop text = text := by
  unfold afterLast
  rw [before_eq_self_iff.mpr (by simpa using h), List.reverse_reverse]

/-- Up to the first `stop`, a text without one before it. -/
theorem before_append_cons {stop : Char} {text : List Char} (h : stop ∉ text)
    (rest : List Char) : before stop (text ++ stop :: rest) = text := by
  unfold before
  rw [List.takeWhile_append_of_pos]
  · simp
  · intro c hmem
    rw [bne_iff_ne]
    rintro rfl
    exact h hmem

/-- After the last `stop`, a text without one after it. -/
theorem after_last_append_cons {stop : Char} {text : List Char} (h : stop ∉ text)
    (front : List Char) : afterLast stop (front ++ stop :: text) = text := by
  unfold afterLast
  have hreverse : (front ++ stop :: text).reverse = text.reverse ++ stop :: front.reverse := by
    simp
  rw [hreverse, before_append_cons (by simpa using h), List.reverse_reverse]

/-- Two texts that are cut at their first `stop` are equal part by part. -/
theorem append_cons_inj {stop : Char} {first second rest others : List Char}
    (hfirst : stop ∉ first) (hsecond : stop ∉ second)
    (h : first ++ stop :: rest = second ++ stop :: others) : first = second ∧ rest = others := by
  have hbefore : first = second := by
    rw [← before_append_cons hfirst rest, h, before_append_cons hsecond]
  subst hbefore
  exact ⟨rfl, List.cons_inj_right stop |>.mp (List.append_cancel_left h)⟩

/-- A name has only characters of its two classes. -/
theorem not_mem_of_matches_name {head tail : Char → Bool} {max : Nat} {text : String} {c : Char}
    (hhead : head c = false) (htail : tail c = false)
    (h : matchesName head tail max text = true) : c ∉ text.toList := by
  unfold matchesName at h
  cases htext : text.toList with
  | nil => simp
  | cons first rest =>
      rw [htext] at h
      simp only [Bool.and_eq_true] at h
      obtain ⟨⟨hfirst, hrest⟩, _⟩ := h
      intro hmem
      rcases List.mem_cons.mp hmem with rfl | hmem
      · rw [hhead] at hfirst
        cases hfirst
      · have hc := List.all_eq_true.mp hrest c hmem
        rw [htail] at hc
        cases hc

/-- A text matches two expressions of one length if its characters are in the classes of both. -/
theorem matches_name_and {head tail head' tail' : Char → Bool} {max : Nat} {text : String} :
    matchesName head tail max text = true ∧ matchesName head' tail' max text = true ↔
      matchesName (fun c => head c && head' c) (fun c => tail c && tail' c) max text = true := by
  unfold matchesName
  cases text.toList with
  | nil => simp
  | cons first rest =>
      simp only [Bool.and_eq_true, List.all_eq_true]
      constructor
      · rintro ⟨⟨⟨hhead, htail⟩, hlength⟩, ⟨hhead', htail'⟩, -⟩
        exact ⟨⟨⟨hhead, hhead'⟩, fun c hc => ⟨htail c hc, htail' c hc⟩⟩, hlength⟩
      · rintro ⟨⟨⟨hhead, hhead'⟩, htails⟩, hlength⟩
        exact ⟨⟨⟨hhead, fun c hc => (htails c hc).1⟩, hlength⟩,
          ⟨hhead', fun c hc => (htails c hc).2⟩, hlength⟩

/-! ## Splitting -/

theorem length_split_on (stop : Char) (text : List Char) :
    (text.splitOn stop).length = text.count stop + 1 := by
  induction text with
  | nil => rfl
  | cons c rest ih =>
      rw [List.splitOn_cons_eq_if_modifyHead, List.count_cons]
      split
      · rw [List.length_cons, ih]
      · rw [List.length_modifyHead, ih]

/-- A part of a split text has no other characters. -/
theorem sublist_of_mem_split_on {stop : Char} {text part : List Char}
    (h : part ∈ text.splitOn stop) : part.Sublist text := by
  induction text generalizing part with
  | nil =>
      rw [List.splitOn_nil, List.mem_singleton] at h
      rw [h]
  | cons c rest ih =>
      rw [List.splitOn_cons_eq_if_modifyHead] at h
      by_cases hc : (c == stop) = true
      · rw [if_pos hc, List.mem_cons] at h
        rcases h with rfl | h
        · exact List.nil_sublist _
        · exact (ih h).cons c
      · obtain ⟨first, others, hsplit⟩ :=
          List.exists_cons_of_ne_nil (List.splitOn_ne_nil stop rest)
        rw [if_neg hc, hsplit, List.modifyHead_cons, List.mem_cons] at h
        rcases h with rfl | h
        · exact (ih (by rw [hsplit]; exact List.mem_cons_self)).cons_cons c
        · exact (ih (by rw [hsplit]; exact List.mem_cons_of_mem _ h)).cons c

/-- No part of a split text has the character at which it is split. -/
theorem not_mem_of_mem_split_on {stop : Char} {text piece : List Char}
    (h : piece ∈ text.splitOn stop) : stop ∉ piece := by
  induction text generalizing piece with
  | nil =>
      rw [List.splitOn_nil, List.mem_singleton] at h
      rw [h]
      exact List.not_mem_nil
  | cons a rest ih =>
      rw [List.splitOn_cons_eq_if_modifyHead] at h
      split at h
      next heq =>
        rcases List.mem_cons.mp h with rfl | hmem
        · exact List.not_mem_nil
        · exact ih hmem
      next hne =>
        obtain ⟨first, others, hsplit⟩ :=
          List.exists_cons_of_ne_nil (List.splitOn_ne_nil stop rest)
        rw [hsplit, List.modifyHead_cons] at h
        rw [hsplit] at ih
        rcases List.mem_cons.mp h with rfl | hmem
        · intro hstop
          rcases List.mem_cons.mp hstop with rfl | hstop
          · exact hne BEq.rfl
          · exact ih (List.mem_cons_self ..) hstop
        · exact ih (List.mem_cons_of_mem _ hmem)

/-- Every other character is in a part. -/
theorem exists_mem_split_on {stop c : Char} {text : List Char} (h : c ∈ text) (hc : c ≠ stop) :
    ∃ part ∈ text.splitOn stop, c ∈ part := by
  induction text with
  | nil => cases h
  | cons first rest ih =>
      obtain ⟨part, others, hsplit⟩ :=
        List.exists_cons_of_ne_nil (List.splitOn_ne_nil stop rest)
      rw [List.splitOn_cons_eq_if_modifyHead]
      rw [hsplit] at ih ⊢
      rcases List.mem_cons.mp h with rfl | hrest
      · rw [if_neg (by simpa using hc)]
        exact ⟨c :: part, by simp, List.mem_cons_self⟩
      · obtain ⟨found, hfound, hmem⟩ := ih hrest
        split
        · exact ⟨found, List.mem_cons_of_mem _ hfound, hmem⟩
        · rw [List.modifyHead_cons]
          rcases List.mem_cons.mp hfound with rfl | hothers
          · exact ⟨first :: found, List.mem_cons_self, List.mem_cons_of_mem _ hmem⟩
          · exact ⟨found, List.mem_cons_of_mem _ hothers, hmem⟩

/-! ## Letter case -/

@[simp] theorem length_lower (text : List Char) : (lower text).length = text.length := by
  simp [lower]

/-- The lower case of an upper-case letter is a lower-case letter. -/
theorem is_lower_to_lower {c : Char} (h : c.toLower ≠ c) : c.toLower.isLower = true := by
  unfold Char.toLower at h ⊢
  split at h
  · rename_i hupper
    rw [dif_pos hupper]
    -- The addition stays within 32 bits, so the bounds on `A` to `Z` carry over to `a` to `z`.
    have hlow : 65 ≤ c.val.toNat := hupper.1
    have hhigh : c.val.toNat ≤ 90 := hupper.2
    have hval : (c.val + ('a'.val - 'A'.val)).toNat = c.val.toNat + 32 := by
      rw [UInt32.toNat_add, show ('a'.val - 'A'.val).toNat = 32 from rfl]
      exact Nat.mod_eq_of_lt (by omega)
    refine Bool.and_eq_true_iff.mpr ⟨decide_eq_true ?_, decide_eq_true ?_⟩
    · rw [ge_iff_le, UInt32.le_iff_toNat_le, hval]
      show 97 ≤ _
      omega
    · rw [UInt32.le_iff_toNat_le, hval]
      show _ ≤ 122
      omega
  · exact absurd rfl h

/-- A character that is no letter has no other lower-case origin. -/
theorem to_lower_eq_iff {c stop : Char} (hlower : stop.isLower = false)
    (hstop : stop.toLower = stop) : c.toLower = stop ↔ c = stop := by
  constructor
  · intro h
    by_contra hne
    have hcased : c.toLower ≠ c := fun hsame => hne (hsame.symm.trans h)
    have hletter := is_lower_to_lower hcased
    rw [h, hlower] at hletter
    cases hletter
  · rintro rfl
    exact hstop

/-- Lowering a text neither adds nor removes a character that is no letter. -/
theorem mem_lower_iff {stop : Char} {text : List Char} (hlower : stop.isLower = false)
    (hstop : stop.toLower = stop) : stop ∈ lower text ↔ stop ∈ text := by
  unfold lower
  rw [List.mem_map]
  constructor
  · rintro ⟨c, hmem, hc⟩
    rwa [← (to_lower_eq_iff hlower hstop).mp hc]
  · intro hmem
    exact ⟨stop, hmem, hstop⟩

/-- Lowering a text keeps the number of such characters. -/
theorem count_lower {stop : Char} {text : List Char} (hlower : stop.isLower = false)
    (hstop : stop.toLower = stop) : (lower text).count stop = text.count stop := by
  unfold lower
  rw [List.count_eq_countP, List.countP_map, List.count_eq_countP]
  refine List.countP_congr fun c _ => ?_
  rw [Function.comp_apply, beq_iff_eq, beq_iff_eq, to_lower_eq_iff hlower hstop]

end CorvidNano.Text
