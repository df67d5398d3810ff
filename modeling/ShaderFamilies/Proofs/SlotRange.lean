import ShaderFamilies.Proofs.BackendSimulation

/-!
# Slots and locations

A location holds a signed number and a slot is an unsigned one.  The slots that
have a location are those up to the largest signed number; on them, the index of
a location and the location of a slot undo each other, and they keep the order.
A location that is not found has no index, whatever its number, and goes before
all that are found.
-/

namespace ShaderFamilies

namespace Location

variable {location first second : Location} {slot : UInt32}

/-! ## The index of a location -/

theorem eq_iff_toInt : first = second ↔ first.raw.toInt = second.raw.toInt := by
  rw [Int32.toInt_inj]
  constructor
  · intro heq
    rw [heq]
  · intro hraw
    cases first
    cases second
    exact congrArg Location.mk hraw

theorem isFound_iff : location.isFound = true ↔ 0 ≤ location.raw.toInt := by
  unfold isFound
  rw [decide_eq_true_iff, Int32.le_iff_toInt_le]
  rfl

theorem not_isFound_iff : location.isFound = false ↔ location.raw.toInt < 0 := by
  rw [Bool.eq_false_iff, Ne, isFound_iff, Int.not_le]

/-- The index is the slot as OpenGL gives it. -/
theorem index?_eq_slotOf (location : Location) : location.index? = slotOf location.raw := by
  unfold index? slotOf isFound
  simp only [decide_eq_true_iff]

theorem index?_of_isFound (hfound : location.isFound = true) :
    location.index? = some location.raw.toUInt32 :=
  if_pos hfound

theorem index?_of_not_isFound (hmissing : location.isFound = false) :
    location.index? = none := by
  unfold index?
  rw [hmissing]
  rfl

theorem isSome_index? (location : Location) :
    location.index?.isSome = location.isFound := by
  cases hfound : location.isFound with
  | true => rw [index?_of_isFound hfound, Option.isSome_some]
  | false => rw [index?_of_not_isFound hfound, Option.isSome_none]

/-- The index and the location are the same number. -/
theorem index?_eq_some_iff :
    location.index? = some slot ↔ (slot.toNat : Int) = location.raw.toInt := by
  cases hfound : location.isFound with
  | true =>
      have hnonneg := isFound_iff.mp hfound
      have hindex : location.raw.toUInt32.toNat = location.raw.toInt.toNat :=
        Int32.toNat_toUInt32_of_le (Int32.le_iff_toInt_le.mpr hnonneg)
      rw [index?_of_isFound hfound, Option.some.injEq, ← UInt32.toNat_inj, hindex]
      omega
  | false =>
      have hneg := not_isFound_iff.mp hfound
      rw [index?_of_not_isFound hfound]
      constructor
      · intro hnone
        cases hnone
      · intro heq
        omega

/-! ## The location of a slot -/

theorem toInt_toInt32 (hslot : slot.toNat ≤ 2147483647) :
    slot.toInt32.toInt = slot.toNat := by
  have hsigned : 2 * slot.toBitVec.toNat < 2 ^ 32 := by
    change 2 * slot.toNat < 4294967296
    omega
  exact BitVec.toInt_eq_toNat_of_lt hsigned

theorem ofSlot_of_le (hslot : slot.toNat ≤ 2147483647) :
    (ofSlot (some slot)).raw.toInt = slot.toNat := by
  have hbound : slot.toNat < Nat.pow 2 31 := Nat.lt_succ_of_le hslot
  have hlocation : ofSlot (some slot) = ⟨slot.toInt32⟩ := if_pos hbound
  rw [hlocation]
  exact toInt_toInt32 hslot

theorem ofSlot_of_gt (hslot : 2147483647 < slot.toNat) :
    ofSlot (some slot) = notFound := by
  have hbound : ¬ slot.toNat < Nat.pow 2 31 := Nat.not_lt_of_le hslot
  exact if_neg hbound

theorem isFound_notFound : notFound.isFound = false :=
  rfl

theorem index?_ofSlot (slot : UInt32) :
    (ofSlot (some slot)).index? = if slot.toNat ≤ 2147483647 then some slot else none := by
  by_cases hslot : slot.toNat ≤ 2147483647
  · rw [if_pos hslot, index?_eq_some_iff, ofSlot_of_le hslot]
  · rw [if_neg hslot, ofSlot_of_gt (Nat.lt_of_not_le hslot)]
    exact index?_of_not_isFound isFound_notFound

theorem ofSlot_eq_notFound_iff (slot : UInt32) :
    ofSlot (some slot) = notFound ↔ 2147483647 < slot.toNat := by
  constructor
  · intro hmissing
    apply Nat.lt_of_not_le
    intro hslot
    have hindex := index?_ofSlot slot
    rw [hmissing, index?_of_not_isFound isFound_notFound, if_pos hslot] at hindex
    cases hindex
  · exact ofSlot_of_gt

/-! ## There and back -/

theorem ofSlot_index? (location : Location) :
    ofSlot location.index? = location.standard := by
  rw [index?_eq_slotOf]
  exact ofSlot_slotOf location.raw

theorem standard_of_isFound (hfound : location.isFound = true) :
    location.standard = location :=
  if_pos hfound

theorem standard_of_not_isFound (hmissing : location.isFound = false) :
    location.standard = notFound := by
  unfold standard
  rw [hmissing]
  rfl

theorem standard_eq_ite (location : Location) :
    location.standard = if 0 ≤ location.raw.toInt then location else notFound := by
  unfold standard
  simp only [isFound_iff]

theorem standard_standard (location : Location) :
    location.standard.standard = location.standard := by
  cases hfound : location.isFound with
  | true => rw [standard_of_isFound hfound, standard_of_isFound hfound]
  | false =>
      rw [standard_of_not_isFound hfound]
      rfl

theorem index?_standard (location : Location) :
    location.standard.index? = location.index? := by
  cases hfound : location.isFound with
  | true => rw [standard_of_isFound hfound]
  | false =>
      rw [standard_of_not_isFound hfound, index?_of_not_isFound hfound]
      rfl

theorem text_standard (location : Location) : location.standard.text = location.text := by
  cases hfound : location.isFound with
  | true => rw [standard_of_isFound hfound]
  | false =>
      rw [standard_of_not_isFound hfound]
      unfold text
      rw [hfound]
      rfl

/-! ## Order -/

theorem ofSlot_inj {other : UInt32} (hslot : slot.toNat ≤ 2147483647)
    (hother : other.toNat ≤ 2147483647) :
    ofSlot (some slot) = ofSlot (some other) ↔ slot = other := by
  rw [eq_iff_toInt, ofSlot_of_le hslot, ofSlot_of_le hother, Int.ofNat_inj, UInt32.toNat_inj]

theorem ofSlot_lt_iff {other : UInt32} (hslot : slot.toNat ≤ 2147483647)
    (hother : other.toNat ≤ 2147483647) :
    (ofSlot (some slot)).raw < (ofSlot (some other)).raw ↔ slot < other := by
  rw [Int32.lt_iff_toInt_lt, ofSlot_of_le hslot, ofSlot_of_le hother, Int.ofNat_lt,
    UInt32.lt_iff_toNat_lt]

theorem lt_ofSlot_of_not_isFound (hmissing : location.isFound = false)
    (hslot : slot.toNat ≤ 2147483647) : location.raw < (ofSlot (some slot)).raw := by
  have hneg := not_isFound_iff.mp hmissing
  rw [Int32.lt_iff_toInt_lt, ofSlot_of_le hslot]
  omega

/-- The conversions between locations and slots agree on every signed and on every
unsigned number.  What has no counterpart becomes the standard location of what is not
found, and the order is that of the numbers. -/
theorem conversions_agree :
    (∀ raw : Int32,
      let location : Location := ⟨raw⟩
      let normal := ofSlot location.index?
      location.raw = raw ∧
      (location.isFound = true ↔ 0 ≤ raw.toInt) ∧
      location.index?.isSome = location.isFound ∧
      (∀ slot : UInt32, location.index? = some slot ↔ (slot.toNat : Int) = raw.toInt) ∧
      normal = (if 0 ≤ raw.toInt then location else notFound) ∧
      ofSlot normal.index? = normal ∧ normal.isFound = location.isFound ∧
      normal.index? = location.index? ∧ normal.text = location.text) ∧
    (∀ slot : UInt32,
      ((ofSlot (some slot)).index? = if slot.toNat ≤ 2147483647 then some slot else none) ∧
      (ofSlot (some slot) = notFound ↔ 2147483647 < slot.toNat)) ∧
    (∀ slot : UInt32, slot.toNat ≤ 2147483647 →
      (∀ other : UInt32, other.toNat ≤ 2147483647 →
        (ofSlot (some slot) = ofSlot (some other) ↔ slot = other) ∧
        ((ofSlot (some slot)).raw < (ofSlot (some other)).raw ↔ slot < other)) ∧
      ∀ location : Location, location.isFound = false →
        location.raw < (ofSlot (some slot)).raw) := by
  refine ⟨?_, ?_, ?_⟩
  · intro raw location normal
    have hnormal : normal = location.standard := ofSlot_index? location
    rw [hnormal]
    refine ⟨rfl, isFound_iff, isSome_index? location, ?_, standard_eq_ite location, ?_,
      isFound_standard location, index?_standard location, text_standard location⟩
    · intro slot
      exact index?_eq_some_iff
    · rw [ofSlot_index?]
      exact standard_standard location
  · intro slot
    exact ⟨index?_ofSlot slot, ofSlot_eq_notFound_iff slot⟩
  · intro slot hslot
    constructor
    · intro other hother
      exact ⟨ofSlot_inj hslot hother, ofSlot_lt_iff hslot hother⟩
    · intro location hmissing
      exact lt_ofSlot_of_not_isFound hmissing hslot

/-- A sentinel other than the standard one, the largest slot that has a location, and
the smallest and the largest that have none. -/
theorem conversions_agree_at_limits :
    ofSlot (⟨-7⟩ : Location).index? = notFound ∧
    (ofSlot (some 2147483647)).index? = some 2147483647 ∧
    ofSlot (some 2147483648) = notFound ∧ ofSlot (some 4294967295) = notFound ∧
    (ofSlot (some 2147483646)).raw < (ofSlot (some 2147483647)).raw ∧
    (⟨-2147483648⟩ : Location).raw < (ofSlot (some 0)).raw := by
  rcases conversions_agree with ⟨hraw, hslot, horder⟩
  rcases hraw (-7) with ⟨_, _, _, _, hnormal, _⟩
  refine ⟨hnormal, (hslot 2147483647).1, (hslot 2147483648).2.mpr (by decide),
    (hslot 4294967295).2.mpr (by decide), ?_, ?_⟩
  · exact ((horder 2147483646 (by decide)).1 2147483647 (by decide)).2.mpr (by decide)
  · exact (horder 0 (by decide)).2 ⟨-2147483648⟩ (by decide)

/-! ## Sorting -/

theorem pairwise_sort (locations : List Location) :
    (sort locations).Pairwise fun first second => first.raw ≤ second.raw := by
  have htrans : ∀ first second third : Location, decide (first.raw ≤ second.raw) = true →
      decide (second.raw ≤ third.raw) = true → decide (first.raw ≤ third.raw) = true := by
    intro first second third
    simp only [decide_eq_true_iff]
    exact Int32.le_trans
  have htotal : ∀ first second : Location,
      (decide (first.raw ≤ second.raw) || decide (second.raw ≤ first.raw)) = true := by
    intro first second
    simp only [Bool.or_eq_true, decide_eq_true_iff]
    exact Int32.le_total first.raw second.raw
  apply (List.pairwise_mergeSort htrans htotal locations).imp
  intro first second hle
  exact decide_eq_true_iff.mp hle

theorem pairwise_located {slots : List UInt32}
    (hslots : ∀ slot ∈ slots, slot.toNat ≤ 2147483647)
    (hsorted : slots.Pairwise fun first second => first ≤ second) :
    (slots.map fun slot => ofSlot (some slot)).Pairwise fun first second =>
      first.raw ≤ second.raw := by
  rw [List.pairwise_map]
  apply hsorted.imp_of_mem
  intro first second hfirst hsecond hle
  rw [Int32.le_iff_toInt_le, ofSlot_of_le (hslots first hfirst),
    ofSlot_of_le (hslots second hsecond), Int.ofNat_le]
  exact UInt32.le_iff_toNat_le.mp hle

/-- Sorting puts what is not found first, and the rest in the order of their slots. -/
theorem sort_of_perm {locations missing : List Location} {slots : List UInt32}
    (hperm : locations.Perm (missing ++ slots.map fun slot => ofSlot (some slot)))
    (hmissing : ∀ location ∈ missing, location.isFound = false)
    (hslots : ∀ slot ∈ slots, slot.toNat ≤ 2147483647)
    (hsorted : slots.Pairwise fun first second => first ≤ second) :
    sort locations = sort missing ++ slots.map fun slot => ofSlot (some slot) := by
  -- two sorted arrangements of the same locations are the same
  apply List.Perm.eq_of_pairwise
  · intro first second _ _ hle hge
    rw [eq_iff_toInt]
    exact Int.le_antisymm (Int32.le_iff_toInt_le.mp hle) (Int32.le_iff_toInt_le.mp hge)
  · exact pairwise_sort locations
  · rw [List.pairwise_append]
    refine ⟨pairwise_sort missing, pairwise_located hslots hsorted, ?_⟩
    intro first hfirst second hsecond
    rcases List.mem_map.mp hsecond with ⟨slot, hslot, rfl⟩
    have hmem : first ∈ missing := (List.mergeSort_perm missing _).mem_iff.mp hfirst
    exact Int32.le_of_lt (lt_ofSlot_of_not_isFound (hmissing first hmem) (hslots slot hslot))
  · apply (List.mergeSort_perm locations _).trans
    apply hperm.trans
    exact (List.mergeSort_perm missing _).symm.append_right _

end Location

end ShaderFamilies
