import Mathlib.Algebra.Group.Nat.Defs
import Mathlib.Data.List.Basic

/-!
# Regrouping bits

A list of numbers of one width, read as a stream of bits with the most significant bit first, is
cut into numbers of another width. The loop keeps the bits that are not yet written in a machine
word, shifts each number in, and writes a group as soon as the word holds enough bits.

`regroup_stream` is the loop's invariant: the groups written so far and the bits in the word are
the stream of the numbers read. `regroup_padded_stream` adds the last group, which is filled up
with zeros.
-/

namespace CorvidNano.BitGroups

/-- The lowest `width` bits of a number, the most significant one first. -/
def bits : Nat → Nat → List Bool
  | 0, _ => []
  | width + 1, value => value.testBit width :: bits width value

/-- The bits of numbers of one width, one number after the other. -/
def stream (width : Nat) (values : List Nat) : List Bool :=
  values.flatMap (bits width)

/-- The loop's variables: the machine word, how many of its bits are not yet written, and the
groups that are. -/
structure Packer where
  buffer : Nat
  numBits : Nat
  output : List Nat
  deriving DecidableEq

/-- The inner loop: write groups while the word holds enough bits. The fuel bounds the turns. -/
def emit (outWidth buffer : Nat) : Nat → Nat → List Nat × Nat
  | 0, numBits => ([], numBits)
  | fuel + 1, numBits =>
      if outWidth ≤ numBits then
        let (groups, rest) := emit outWidth buffer fuel (numBits - outWidth)
        ((buffer >>> (numBits - outWidth)) % 2 ^ outWidth :: groups, rest)
      else ([], numBits)

/-- One turn of the outer loop: shift a number into the word, whose highest bits drop out, and
write what is complete. -/
def Packer.push (wordBits inWidth outWidth : Nat) (packer : Packer) (value : Nat) : Packer :=
  let buffer := (packer.buffer <<< inWidth) % 2 ^ wordBits ||| value
  let (groups, numBits) :=
    emit outWidth buffer (packer.numBits + inWidth) (packer.numBits + inWidth)
  { buffer, numBits, output := packer.output ++ groups }

/-- The loop over all numbers. -/
def regroup (wordBits inWidth outWidth : Nat) (values : List Nat) : Packer :=
  values.foldl (Packer.push wordBits inWidth outWidth) { buffer := 0, numBits := 0, output := [] }

/-- The groups with a last one that is filled up with zeros on the right. -/
def regroupPadded (wordBits inWidth outWidth : Nat) (values : List Nat) : List Nat :=
  let packer := regroup wordBits inWidth outWidth values
  if 0 < packer.numBits then
    packer.output ++
      [(packer.buffer <<< (outWidth - packer.numBits)) % 2 ^ wordBits % 2 ^ outWidth]
  else packer.output

/-! ## Bits of a number -/

@[simp] theorem length_bits (width value : Nat) : (bits width value).length = width := by
  induction width with
  | zero => rfl
  | succ width ih => simp [bits, ih]

/-- Two numbers have the same lowest bits if and only if each of these agrees. -/
theorem bits_eq_iff {width first second : Nat} :
    bits width first = bits width second ↔
      ∀ i < width, first.testBit i = second.testBit i := by
  induction width with
  | zero => simp [bits]
  | succ width ih =>
      rw [bits, bits, List.cons.injEq, ih]
      constructor
      · rintro ⟨htop, hrest⟩ i hi
        rcases Nat.lt_succ_iff_lt_or_eq.mp hi with hlt | rfl
        · exact hrest i hlt
        · exact htop
      · intro hall
        exact ⟨hall width (Nat.lt_succ_self width), fun i hi => hall i (Nat.lt_succ_of_lt hi)⟩

/-- The bits of two parts of a number, the higher part first. -/
theorem bits_add (high low value : Nat) :
    bits (high + low) value = bits high (value >>> low) ++ bits low value := by
  induction high with
  | zero => simp [bits]
  | succ high ih =>
      rw [Nat.succ_add, bits, bits, ih, Nat.testBit_shiftRight, Nat.add_comm low high]
      rfl

/-- A number that is shifted in below others comes after them. -/
theorem bits_shift_or {wordBits high low : Nat} (value : Nat) {added : Nat}
    (hword : high + low ≤ wordBits) (hadded : added < 2 ^ low) :
    bits (high + low) ((value <<< low) % 2 ^ wordBits ||| added) =
      bits high value ++ bits low added := by
  rw [bits_add]
  congr 1
  · refine bits_eq_iff.mpr fun i hi => ?_
    have hzero : added.testBit (low + i) = false :=
      Nat.testBit_lt_two_pow
        (Nat.lt_of_lt_of_le hadded (Nat.pow_le_pow_right (by decide) (by omega)))
    have hinside : low + i < wordBits := by omega
    simp [hzero, hinside]
  · refine bits_eq_iff.mpr fun i hi => ?_
    have hbelow : ¬ low ≤ i := by omega
    simp [hbelow]

/-- The bits of a number do not depend on its higher bits. -/
theorem bits_mod {width modulus value : Nat} (h : width ≤ modulus) :
    bits width (value % 2 ^ modulus) = bits width value := by
  refine bits_eq_iff.mpr fun i hi => ?_
  have hinside : i < modulus := by omega
  simp [hinside]

/-- A number that is shifted to the left is followed by zeros. -/
theorem bits_shift (high low value : Nat) :
    bits (high + low) (value <<< low) = bits high value ++ List.replicate low false := by
  have hzeros : bits low 0 = List.replicate low false := by
    induction low with
    | zero => rfl
    | succ low ih => rw [bits, ih, Nat.zero_testBit, List.replicate_succ]
  have hshift := bits_shift_or value (Nat.le_refl (high + low)) (Nat.two_pow_pos low)
  rwa [Nat.or_zero, bits_mod (Nat.le_refl _), hzeros] at hshift

/-- Numbers of the same width with the same bits are equal. -/
theorem bits_injective {width first second : Nat} (hfirst : first < 2 ^ width)
    (hsecond : second < 2 ^ width) (h : bits width first = bits width second) :
    first = second := by
  refine Nat.eq_of_testBit_eq fun i => ?_
  by_cases hi : i < width
  · exact bits_eq_iff.mp h i hi
  · have hpow : 2 ^ width ≤ 2 ^ i := Nat.pow_le_pow_right (by decide) (by omega)
    rw [Nat.testBit_lt_two_pow (Nat.lt_of_lt_of_le hfirst hpow),
      Nat.testBit_lt_two_pow (Nat.lt_of_lt_of_le hsecond hpow)]

/-! ## Streams -/

@[simp] theorem length_stream (width : Nat) (values : List Nat) :
    (stream width values).length = values.length * width := by
  induction values with
  | nil => simp [stream]
  | cons value rest ih =>
      have hrest : (rest.flatMap (bits width)).length = rest.length * width := ih
      simp only [stream, List.flatMap_cons, List.length_append, length_bits, hrest,
        List.length_cons]
      rw [Nat.succ_mul, Nat.add_comm]

@[simp] theorem stream_append (width : Nat) (first second : List Nat) :
    stream width (first ++ second) = stream width first ++ stream width second :=
  List.flatMap_append

/-- The stream of the first numbers is the first part of the stream. -/
theorem stream_take (width count : Nat) (values : List Nat) :
    stream width (values.take count) = (stream width values).take (count * width) := by
  induction values generalizing count with
  | nil => simp [stream]
  | cons value rest ih =>
      cases count with
      | zero => simp [stream]
      | succ count =>
          have hrest := ih count
          simp only [stream] at hrest
          simp only [stream, List.take_succ_cons, List.flatMap_cons, hrest]
          have hlength : (bits width value).length ≤ (count + 1) * width := by
            rw [length_bits, Nat.succ_mul]
            exact Nat.le_add_left _ _
          rw [List.take_append, List.take_of_length_le hlength, length_bits, Nat.succ_mul,
            Nat.add_sub_cancel]

/-- A bit of a number, counted from the most significant one. -/
theorem getElem?_bits {width i : Nat} (value : Nat) (hi : i < width) :
    (bits width value)[i]? = some (value.testBit (width - 1 - i)) := by
  induction width generalizing i with
  | zero => cases hi
  | succ width ih =>
      cases i with
      | zero => rfl
      | succ i =>
          have hrest := ih (Nat.lt_of_succ_lt_succ hi)
          rw [bits, List.getElem?_cons_succ, hrest]
          congr 2
          omega

/-- A bit of the stream is a bit of one of the numbers. -/
theorem getElem?_stream (width : Nat) (values : List Nat) (k : Nat) {i : Nat} (hi : i < width) :
    (stream width values)[k * width + i]? =
      values[k]?.map fun value => value.testBit (width - 1 - i) := by
  induction values generalizing k with
  | nil => rfl
  | cons value rest ih =>
      show (bits width value ++ stream width rest)[k * width + i]? = _
      cases k with
      | zero =>
          rw [Nat.zero_mul, Nat.zero_add, List.getElem?_append_left (by simpa using hi),
            getElem?_bits value hi]
          rfl
      | succ k =>
          have hskip : (k + 1) * width + i - width = k * width + i := by
            rw [Nat.succ_mul]
            omega
          rw [List.getElem?_append_right (by rw [length_bits, Nat.succ_mul]; omega), length_bits,
            hskip, ih]
          rfl

/-- Numbers of one positive width are determined by their stream. -/
theorem stream_injective {width : Nat} (hwidth : 0 < width) {first second : List Nat}
    (hfirst : ∀ value ∈ first, value < 2 ^ width) (hsecond : ∀ value ∈ second, value < 2 ^ width)
    (h : stream width first = stream width second) : first = second := by
  induction first generalizing second with
  | nil =>
      have hlength := congrArg List.length h
      rw [length_stream, length_stream, List.length_nil, Nat.zero_mul] at hlength
      have hempty : second.length = 0 :=
        (Nat.mul_eq_zero.mp hlength.symm).resolve_right (Nat.ne_of_gt hwidth)
      exact (List.length_eq_zero_iff.mp hempty).symm
  | cons value rest ih =>
      cases second with
      | nil =>
          have hlength := congrArg List.length h
          rw [length_stream, length_stream, List.length_nil, Nat.zero_mul] at hlength
          have hempty : rest.length + 1 = 0 :=
            (Nat.mul_eq_zero.mp hlength).resolve_right (Nat.ne_of_gt hwidth)
          cases hempty
      | cons other others =>
          have hsplit : bits width value ++ stream width rest =
              bits width other ++ stream width others := h
          obtain ⟨hhead, htail⟩ := List.append_inj hsplit (by simp)
          rw [List.forall_mem_cons] at hfirst hsecond
          rw [bits_injective hfirst.1 hsecond.1 hhead, ih hfirst.2 hsecond.2 htail]

/-! ## The loop -/

/-- The inner loop splits the bits in the word into groups and a rest that is shorter than a
group. -/
theorem emit_stream {outWidth : Nat} (buffer : Nat) {fuel numBits : Nat} (hwidth : 0 < outWidth)
    (hfuel : numBits ≤ fuel) :
    stream outWidth (emit outWidth buffer fuel numBits).1 ++
        bits (emit outWidth buffer fuel numBits).2 buffer = bits numBits buffer ∧
      (emit outWidth buffer fuel numBits).2 < outWidth ∧
      ∀ group ∈ (emit outWidth buffer fuel numBits).1, group < 2 ^ outWidth := by
  induction fuel generalizing numBits with
  | zero =>
      obtain rfl := Nat.le_zero.mp hfuel
      simp [emit, stream, hwidth]
  | succ fuel ih =>
      unfold emit
      split
      · rename_i hcomplete
        have hless : numBits - outWidth ≤ fuel := by omega
        obtain ⟨hstream, hrest, hgroups⟩ := ih hless
        refine ⟨?_, hrest, ?_⟩
        · have hsplit := bits_add outWidth (numBits - outWidth) buffer
          rw [Nat.add_sub_cancel' hcomplete] at hsplit
          rw [hsplit, ← hstream, ← bits_mod (Nat.le_refl outWidth)]
          exact List.append_assoc _ _ _
        · exact List.forall_mem_cons.mpr ⟨Nat.mod_lt _ (Nat.two_pow_pos _), hgroups⟩
      · rename_i hrest
        exact ⟨rfl, Nat.lt_of_not_le hrest, by simp⟩

/-- The groups written so far and the bits in the word are the stream that was read, and the word
holds less than a group. -/
structure Holds (outWidth : Nat) (packer : Packer) (read : List Bool) : Prop where
  stream_eq : stream outWidth packer.output ++ bits packer.numBits packer.buffer = read
  numBits_lt : packer.numBits < outWidth
  output_lt : ∀ group ∈ packer.output, group < 2 ^ outWidth

/-- Shifting in a number adds its bits to the stream, if the word has room for them beside the
bits that are not yet written. -/
theorem Holds.push {wordBits inWidth outWidth value : Nat} {packer : Packer} {read : List Bool}
    (h : Holds outWidth packer read) (hword : inWidth + outWidth ≤ wordBits + 1)
    (hvalue : value < 2 ^ inWidth) :
    Holds outWidth (packer.push wordBits inWidth outWidth value)
      (read ++ bits inWidth value) := by
  have hlt := h.numBits_lt
  have hwidth : 0 < outWidth := by omega
  obtain ⟨hstream, hrest, hgroups⟩ := emit_stream
    ((packer.buffer <<< inWidth) % 2 ^ wordBits ||| value) hwidth
    (Nat.le_refl (packer.numBits + inWidth))
  refine ⟨?_, hrest, ?_⟩
  · rw [bits_shift_or _ (by omega) hvalue] at hstream
    show stream outWidth (packer.output ++ _) ++
      bits _ ((packer.buffer <<< inWidth) % 2 ^ wordBits ||| value) = _
    rw [stream_append, List.append_assoc]
    show stream outWidth packer.output ++ (stream outWidth (emit _ _ _ _).1 ++
      bits (emit _ _ _ _).2 _) = _
    rw [hstream, ← h.stream_eq, List.append_assoc]
  · intro group hmem
    rcases List.mem_append.mp hmem with hmem | hmem
    · exact h.output_lt group hmem
    · exact hgroups group hmem

/-- The loop writes the stream of the numbers. -/
theorem regroup_stream (wordBits inWidth outWidth : Nat) {values : List Nat}
    (hwidth : 0 < outWidth) (hword : inWidth + outWidth ≤ wordBits + 1)
    (hvalues : ∀ value ∈ values, value < 2 ^ inWidth) :
    Holds outWidth (regroup wordBits inWidth outWidth values) (stream inWidth values) := by
  have hloop : ∀ (rest : List Nat) (packer : Packer) (read : List Bool),
      (∀ value ∈ rest, value < 2 ^ inWidth) → Holds outWidth packer read →
      Holds outWidth (rest.foldl (Packer.push wordBits inWidth outWidth) packer)
        (read ++ stream inWidth rest) := by
    intro rest
    induction rest with
    | nil =>
        intro packer read _ h
        simpa [stream] using h
    | cons value rest ih =>
        intro packer read hrest h
        rw [List.forall_mem_cons] at hrest
        have hpushed := ih _ _ hrest.2 (h.push hword hrest.1)
        rwa [List.append_assoc] at hpushed
  have hstart : Holds outWidth { buffer := 0, numBits := 0, output := [] } [] :=
    ⟨rfl, hwidth, fun group hmem => nomatch hmem⟩
  exact hloop values _ [] hvalues hstart

/-- The padded groups are the stream of the numbers, filled up with zeros to whole groups. -/
theorem regroup_padded_stream (wordBits inWidth outWidth : Nat) {values : List Nat}
    (hwidth : 0 < outWidth) (houter : outWidth ≤ wordBits)
    (hword : inWidth + outWidth ≤ wordBits + 1) (hvalues : ∀ value ∈ values, value < 2 ^ inWidth) :
    ∃ padding < outWidth,
      stream outWidth (regroupPadded wordBits inWidth outWidth values) =
        stream inWidth values ++ List.replicate padding false ∧
      ∀ group ∈ regroupPadded wordBits inWidth outWidth values, group < 2 ^ outWidth := by
  have h := regroup_stream wordBits inWidth outWidth hwidth hword hvalues
  unfold regroupPadded
  dsimp only
  split
  · rename_i hrest
    refine ⟨outWidth - (regroup wordBits inWidth outWidth values).numBits, by omega, ?_, ?_⟩
    · have hlt := h.numBits_lt
      have hlast := bits_shift (regroup wordBits inWidth outWidth values).numBits
        (outWidth - (regroup wordBits inWidth outWidth values).numBits)
        (regroup wordBits inWidth outWidth values).buffer
      rw [Nat.add_sub_cancel' (Nat.le_of_lt hlt)] at hlast
      rw [stream_append, ← h.stream_eq, List.append_assoc, ← hlast]
      congr 1
      simp only [stream, List.flatMap_cons, List.flatMap_nil, List.append_nil]
      rw [bits_mod (Nat.le_refl _), bits_mod houter]
    · intro group hmem
      rcases List.mem_append.mp hmem with hmem | hmem
      · exact h.output_lt group hmem
      · obtain rfl := List.mem_singleton.mp hmem
        exact Nat.mod_lt _ (Nat.two_pow_pos _)
  · rename_i hrest
    refine ⟨0, hwidth, ?_, h.output_lt⟩
    have hempty : (regroup wordBits inWidth outWidth values).numBits = 0 := by omega
    have hstream := h.stream_eq
    rw [hempty, bits, List.append_nil] at hstream
    rw [hstream, List.replicate_zero, List.append_nil]

end CorvidNano.BitGroups
