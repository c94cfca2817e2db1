import OperationSamples.Text.CodePoint

/-!
Code points and the pairs they are split into.

Characters are code points, and a pair stands for one character. So a text is known from its split
form as long as it holds no pair itself (`CodeText.split_inj`); texts of characters never do.
-/

namespace OperationSamples

namespace CodePoint

theorem val_ofNat {n : Nat} (h : n < 0x110000) : (ofNat n).val = n := Nat.mod_eq_of_lt h

theorem ofNat_val (p : CodePoint) : ofNat p.val = p := Fin.ext (val_ofNat p.isLt)

theorem val_ofChar (c : Char) : (ofChar c).val = c.toNat := by
  have hcode : c.toNat < 0xD800 ∨ 0xDFFF < c.toNat ∧ c.toNat < 0x110000 := c.valid
  exact val_ofNat (by omega)

@[simp] theorem toChar_ofChar (c : Char) : (ofChar c).toChar = c := by
  rw [toChar, val_ofChar, Char.ofNat_toNat]

theorem ofChar_injective : Function.Injective ofChar :=
  Function.LeftInverse.injective toChar_ofChar

@[simp] theorem ofChar_inj {c d : Char} : ofChar c = ofChar d ↔ c = d := ofChar_injective.eq_iff

theorem toNat_toChar {p : CodePoint} (h : p.toChar ≠ '\x00') : p.toChar.toNat = p.val := by
  unfold toChar at h ⊢
  by_cases hvalid : p.val.isValidChar
  · rw [Char.ofNat, dif_pos hvalid]
    rfl
  · exact absurd (dif_neg hvalid) h

/-- A character is not half of a pair. -/
theorem isHigh_ofChar (c : Char) : (ofChar c).isHigh = false := by
  have hcode : c.toNat < 0xD800 ∨ 0xDFFF < c.toNat ∧ c.toNat < 0x110000 := c.valid
  simp only [isHigh, val_ofChar, Bool.and_eq_false_iff, decide_eq_false_iff_not]
  omega

theorem units_of_lt {p : CodePoint} (h : p.val < 0x10000) : p.units = [p] := if_pos h

/-- A character beyond the basic plane has the two halves of a pair for its units. -/
theorem exists_units {p : CodePoint} (h : 0x10000 ≤ p.val) :
    ∃ high low : CodePoint, p.units = [high, low] ∧ high.isHigh ∧ low.isLow ∧
      ofPair high low = p := by
  have hp := p.isLt
  refine ⟨_, _, if_neg (Nat.not_lt.2 h), ?_, ?_, ?_⟩
  · rw [isHigh, val_ofNat (by omega), Bool.and_eq_true, decide_eq_true_eq, decide_eq_true_eq]
    omega
  · rw [isLow, val_ofNat (by omega), Bool.and_eq_true, decide_eq_true_eq, decide_eq_true_eq]
    omega
  · rw [ofPair, val_ofNat (by omega), val_ofNat (by omega)]
    exact Fin.ext ((val_ofNat (by omega)).trans (by omega))

theorem val_of_isHigh {p : CodePoint} (h : p.isHigh) : 0xD800 ≤ p.val ∧ p.val < 0xDC00 := by
  simpa [isHigh] using h

theorem val_of_isLow {p : CodePoint} (h : p.isLow) : 0xDC00 ≤ p.val ∧ p.val < 0xE000 := by
  simpa [isLow] using h

theorem not_isLow_of_isHigh {p : CodePoint} (h : p.isHigh) : ¬p.isLow := by
  intro hlow
  have hhigh := val_of_isHigh h
  have hlow := val_of_isLow hlow
  omega

/-- Units are in the basic plane. -/
theorem val_lt_of_mem_units {p unit : CodePoint} (h : unit ∈ p.units) : unit.val < 0x10000 := by
  by_cases hp : p.val < 0x10000
  · rw [units_of_lt hp, List.mem_singleton] at h
    rwa [h]
  · obtain ⟨high, low, hunits, hhigh, hlow, -⟩ := exists_units (Nat.le_of_not_lt hp)
    have hhigh := val_of_isHigh hhigh
    have hlow := val_of_isLow hlow
    rw [hunits, List.mem_cons, List.mem_singleton] at h
    rcases h with rfl | rfl <;> omega

end CodePoint

namespace CodeText

open CodePoint

theorem ofString_append (first second : String) :
    ofString (first ++ second) = ofString first ++ ofString second := by
  simp [ofString]

theorem ofString_intercalate (separator : String) (texts : List String) :
    ofString (separator.intercalate texts) =
      (ofString separator).intercalate (texts.map ofString) := by
  induction texts with
  | nil => rfl
  | cons first rest ih =>
    cases rest with
    | nil => simp
    | cons second rest =>
      rw [String.intercalate_cons_cons, ofString_append, ofString_append, ih]
      simp [List.intercalate_cons_cons]

theorem ofString_inj {first second : String} :
    ofString first = ofString second ↔ first = second := by
  rw [ofString, ofString, List.map_inj_right ofChar_injective, String.toList_inj]

theorem split_cons (p : CodePoint) (text : CodeText) : split (p :: text) = p.units ++ split text :=
  List.flatMap_cons

theorem split_of_lt {text : CodeText} (h : ∀ p ∈ text, p.val < 0x10000) : text.split = text := by
  induction text with
  | nil => rfl
  | cons p rest ih =>
    obtain ⟨hp, hrest⟩ := List.forall_mem_cons.1 h
    rw [split_cons, units_of_lt hp, ih hrest]
    rfl

/-- Only characters of the basic plane are split into what is no half of a pair. -/
theorem split_of_mem_lt {text : CodeText} (h : ∀ unit ∈ text.split, unit.val < 0xD800) :
    text.split = text := by
  refine split_of_lt fun p hp => Nat.lt_of_not_le fun hlarge => ?_
  obtain ⟨high, low, hunits, hhigh, -⟩ := exists_units hlarge
  have hmem : high ∈ text.split := List.mem_flatMap.2 ⟨p, hp, hunits ▸ List.mem_cons_self⟩
  have hlow := h high hmem
  have hhigh := val_of_isHigh hhigh
  omega

theorem isUnpaired_ofString (text : String) : (ofString text).isUnpaired := by
  have hchars : ∀ chars : List Char, isUnpaired (chars.map ofChar) := by
    intro chars
    induction chars with
    | nil => rfl
    | cons c rest ih =>
      cases rest with
      | nil => rfl
      | cons d rest => simpa [isUnpaired, isHigh_ofChar] using ih
  exact hchars text.toList

theorem isUnpaired_of_cons {p : CodePoint} {text : CodeText} (h : isUnpaired (p :: text)) :
    text.isUnpaired := by
  cases text with
  | nil => rfl
  | cons q rest =>
    rw [isUnpaired, Bool.and_eq_true] at h
    exact h.2

/-- Only the second half of a pair that is in the text itself starts its split form. -/
theorem exists_of_split_eq_cons {text rest : CodeText} {low : CodePoint} (hlow : low.isLow)
    (h : text.split = low :: rest) : ∃ others, text = low :: others := by
  cases text with
  | nil => cases h
  | cons p others =>
    rw [split_cons] at h
    by_cases hp : p.val < 0x10000
    · rw [units_of_lt hp] at h
      exact ⟨others, by rw [List.head_eq_of_cons_eq h]⟩
    · obtain ⟨high, _, hunits, hhigh, -⟩ := exists_units (Nat.le_of_not_lt hp)
      rw [hunits] at h
      rw [← List.head_eq_of_cons_eq h] at hlow
      exact absurd hlow (not_isLow_of_isHigh hhigh)

/-- The split form of a character beyond the basic plane is not mistaken for halves of a pair that
are in the text itself, if there are none. -/
theorem split_cons_ne {p q : CodePoint} (hp : p.val < 0x10000) (hq : 0x10000 ≤ q.val)
    {first second : CodeText} (h : isUnpaired (p :: first)) :
    split (p :: first) ≠ split (q :: second) := by
  intro heq
  obtain ⟨high, low, hunits, hhigh, hlow, -⟩ := exists_units hq
  rw [split_cons, split_cons, units_of_lt hp, hunits] at heq
  injection heq with hfirst hrest
  obtain ⟨others, rfl⟩ := exists_of_split_eq_cons hlow hrest
  rw [isUnpaired, hfirst, hhigh, hlow] at h
  cases h

/-- A text that holds no pair is known from its split form. -/
theorem split_inj {first second : CodeText} (hfirst : first.isUnpaired)
    (hsecond : second.isUnpaired) (h : first.split = second.split) : first = second := by
  have hne : ∀ (p : CodePoint) (text : CodeText), split (p :: text) ≠ [] := by
    intro p text
    rw [split_cons, CodePoint.units]
    split <;> simp
  induction first generalizing second with
  | nil =>
    cases second with
    | nil => rfl
    | cons q second => exact absurd h.symm (hne q second)
  | cons p first ih =>
    cases second with
    | nil => exact absurd h (hne p first)
    | cons q second =>
      have htails := ih (isUnpaired_of_cons hfirst) (isUnpaired_of_cons hsecond)
      rcases Nat.lt_or_ge p.val 0x10000 with hp | hp <;>
        rcases Nat.lt_or_ge q.val 0x10000 with hq | hq
      · rw [split_cons, split_cons, units_of_lt hp, units_of_lt hq] at h
        injection h with hpq hrest
        rw [hpq, htails hrest]
      · exact absurd h (split_cons_ne hp hq hfirst)
      · exact absurd h.symm (split_cons_ne hq hp hsecond)
      · obtain ⟨high, low, hunits, -, -, hpair⟩ := exists_units hp
        obtain ⟨high', low', hunits', -, -, hpair'⟩ := exists_units hq
        rw [split_cons, split_cons, hunits, hunits'] at h
        simp only [List.cons_append, List.nil_append, List.cons.injEq] at h
        obtain ⟨rfl, rfl, hrest⟩ := h
        rw [← hpair, ← hpair', htails hrest]

end CodeText

end OperationSamples
