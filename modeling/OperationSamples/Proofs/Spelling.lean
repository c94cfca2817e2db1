import Mathlib.Data.List.TakeWhile
import OperationSamples.Artifact.TypeScript
import OperationSamples.Document.Lexer
import OperationSamples.Proofs.Naming

/-!
How names are spelled.

Names in documents are letters, digits and underscores, no digit first (`Lexer.isName`). What a path
of such names spells is an identifier (`ShapeName.isIdentifier_spelled`). The name of an operation
is another matter, because pascal case takes the underscores away: it consists of letters and digits
and starts with a digit where the first character that is no underscore is one, and nothing is left
of a name that has no other characters (`ShapeName.stemOf_operationName`).
-/

namespace OperationSamples

/-! ### Characters -/

/-- Whether a text is a name. -/
def Lexer.isName : List Char → Bool
  | [] => false
  | c :: rest => isNameStart c && rest.all isNamePart

namespace Text

theorem toNat_lt_of_isAlphanum {c : Char} (h : c.isAlphanum) : c.toNat < 128 := by
  unfold Char.isAlphanum Char.isAlpha Char.isUpper Char.isLower Char.isDigit at h
  simp only [Bool.or_eq_true, Bool.and_eq_true, decide_eq_true_eq, UInt32.le_iff_toNat_le,
    ge_iff_le] at h
  have hlarge : c.toNat = c.val.toNat := rfl
  rcases h with (h | h) | h
  · have hupper : c.val.toNat ≤ 90 := h.2
    omega
  · have hupper : c.val.toNat ≤ 122 := h.2
    omega
  · have hupper : c.val.toNat ≤ 57 := h.2
    omega

/-- What holds of all letters and digits can be checked one by one. -/
theorem of_isAlphanum {P : Char → Prop}
    (hall : ∀ n : Fin 128, (Char.ofNat n).isAlphanum → P (Char.ofNat n)) {c : Char}
    (h : c.isAlphanum) : P c := by
  have hc := hall ⟨c.toNat, toNat_lt_of_isAlphanum h⟩
  rw [Char.ofNat_toNat] at hc
  exact hc h

/-- What changing the case of a letter or digit leaves as it is. -/
theorem case_of_isAlphanum {c : Char} (h : c.isAlphanum) :
    (c.toUpper.isAlphanum ∧ c.toUpper.isDigit = c.isDigit) ∧
      c.toLower.isAlphanum ∧ c.toLower.isDigit = c.isDigit :=
  of_isAlphanum (P := fun c => (c.toUpper.isAlphanum ∧ c.toUpper.isDigit = c.isDigit) ∧
    c.toLower.isAlphanum ∧ c.toLower.isDigit = c.isDigit) (by decide) h

theorem not_isSeparator_of_isAlphanum {c : Char} (h : c.isAlphanum) : isSeparator c = false :=
  of_isAlphanum (P := fun c => isSeparator c = false) (by decide) h

theorem upper_of_isAlphanum {c : Char} (h : c.isAlphanum) : upper c = [c.toUpper] :=
  if_pos (toNat_lt_of_isAlphanum h)

theorem lower_of_isAlphanum {c : Char} (h : c.isAlphanum) : lower c = [c.toLower] :=
  if_pos (toNat_lt_of_isAlphanum h)

/-- A run of characters of one class ends where a character of another class follows. -/
theorem append_inj_of_run {α : Type} {p : α → Bool} {first second rest others : List α}
    (hfirst : ∀ c ∈ first, p c) (hsecond : ∀ c ∈ second, p c)
    (hrest : ∀ c ∈ rest.head?, p c = false) (hothers : ∀ c ∈ others.head?, p c = false)
    (h : first ++ rest = second ++ others) : first = second ∧ rest = others := by
  have hends : ∀ {tail : List α}, (∀ c ∈ tail.head?, p c = false) →
      tail.takeWhile p = [] := by
    intro tail htail
    cases tail with
    | nil => rfl
    | cons c more => simp [htail c rfl]
  have hrun := congrArg (List.takeWhile p) h
  rw [List.takeWhile_append_of_pos hfirst, List.takeWhile_append_of_pos hsecond, hends hrest,
    hends hothers, List.append_nil, List.append_nil] at hrun
  subst hrun
  exact ⟨rfl, List.append_cancel_left h⟩

/-! ### Pascal case -/

theorem isAlphanum_or_eq_of_isNamePart {c : Char} (h : Lexer.isNamePart c) :
    c.isAlphanum ∨ c = '_' := by simpa [Lexer.isNamePart] using h

theorem isAlphanum_of_not_isSeparator {c : Char} (h : Lexer.isNamePart c)
    (hword : isSeparator c = false) : c.isAlphanum := by
  rcases isAlphanum_or_eq_of_isNamePart h with h | rfl
  · exact h
  · cases hword

/-- Nothing but separators is taken out of a name. -/
theorem not_isDropped_of_isNamePart {c : Char} (h : Lexer.isNamePart c) : isDropped c = false := by
  rcases isAlphanum_or_eq_of_isNamePart h with h | rfl
  · exact of_isAlphanum (P := fun c => isDropped c = false) (by decide) h
  · decide

/-- Whether a text consists of words of letters and digits with one blank after each, the last one
possibly left out. The flag says that the next character starts a word. -/
def isSpaced : Bool → List Char → Bool
  | _, [] => true
  | starts, c :: rest =>
    if c == ' ' then !starts && isSpaced true rest else c.isAlphanum && isSpaced false rest

theorem isSpaced_cons_of_isAlphanum {c : Char} (h : c.isAlphanum) (starts : Bool)
    (rest : List Char) : isSpaced starts (c :: rest) = isSpaced false rest := by
  have hblank : (c == ' ') = false := by
    rw [beq_eq_false_iff_ne]
    rintro rfl
    cases h
  rw [isSpaced, hblank, h]
  simp

theorem isSpaced_joinSeparators {text : List Char} (h : ∀ c ∈ text, Lexer.isNamePart c)
    (starts : Bool) : isSpaced starts (joinSeparators starts text) := by
  induction text generalizing starts with
  | nil => rfl
  | cons c rest ih =>
    obtain ⟨hc, hrest⟩ := List.forall_mem_cons.1 h
    rw [joinSeparators]
    cases hword : isSeparator c with
    | true =>
      cases starts with
      | true => exact ih hrest true
      | false => exact ih hrest true
    | false =>
      simp only [Bool.false_eq_true, if_false]
      rw [isSpaced_cons_of_isAlphanum (isAlphanum_of_not_isSeparator hc hword)]
      exact ih hrest false

theorem isSpaced_cons {starts : Bool} {c : Char} {rest : List Char}
    (h : isSpaced starts (c :: rest)) :
    (c = ' ' ∧ starts = false ∧ isSpaced true rest) ∨ c.isAlphanum ∧ isSpaced false rest := by
  rw [isSpaced] at h
  split at h
  · next hblank => exact .inl (by simpa [beq_iff_eq.1 hblank] using h)
  · exact .inr (by simpa using h)

theorem lowerAfter_cons {c : Char} (h : c.isAlphanum) (before rest : List Char) :
    lowerAfter before (c :: rest) = c.toLower :: lowerAfter (c :: before) rest := by
  have hsigma : (c == capitalSigma) = false := by
    rw [beq_eq_false_iff_ne]
    rintro rfl
    exact absurd h (by decide)
  rw [lowerAfter, hsigma]
  simp only [Bool.false_eq_true, if_false, lower_of_isAlphanum h, List.singleton_append]

theorem isSpaced_lowerAfter {text : List Char} {starts : Bool} (h : isSpaced starts text)
    (before : List Char) : isSpaced starts (lowerAfter before text) := by
  induction text generalizing starts before with
  | nil => rfl
  | cons c rest ih =>
    rcases isSpaced_cons h with ⟨rfl, rfl, hrest⟩ | ⟨hc, hrest⟩
    · exact ih hrest _
    · rw [lowerAfter_cons hc, isSpaced_cons_of_isAlphanum (case_of_isAlphanum hc).2.1]
      exact ih hrest _

/-- Behind the first character, pascal case leaves letters and digits. -/
theorem isAlphanum_of_mem_pascalRest {text : List Char} (before : Option Char)
    (h : isSpaced false text) : ∀ c ∈ pascalRest before text, c.isAlphanum := by
  induction before, text using pascalRest.induct with
  | case1 before => simp [pascalRest]
  | case2 before => simp [pascalRest]
  | case3 before c rest ih =>
    rcases isSpaced_cons h with ⟨-, -, hword⟩ | ⟨hblank, -⟩
    · rcases isSpaced_cons hword with ⟨-, hstarts, -⟩ | ⟨hc, hrest⟩
      · cases hstarts
      · rw [pascalRest, upper_of_isAlphanum hc, List.singleton_append]
        exact List.forall_mem_cons.2 ⟨(case_of_isAlphanum hc).1.1, ih hrest⟩
    · cases hblank
  | case4 before c rest hone hmore ih =>
    rcases isSpaced_cons h with ⟨rfl, -, -⟩ | ⟨hc, hrest⟩
    · -- a blank is followed by nothing or by a character
      cases rest with
      | nil => exact (hone rfl rfl).elim
      | cons d others => exact (hmore d others rfl rfl).elim
    · rw [pascalRest.eq_4 before c rest hone hmore]
      refine List.forall_mem_append.2 ⟨?_, ih hrest⟩
      split
      · exact List.forall_mem_singleton.2 hc
      · rw [lower_of_isAlphanum hc]
        exact List.forall_mem_singleton.2 (case_of_isAlphanum hc).2.1

/-- What pascal case makes of a name: letters and digits, with a digit in front if one comes after
the leading separators, or nothing if nothing comes after them. -/
inductive StemOf (text : List Char) : List Char → Prop
  | empty (hnone : text.dropWhile isSeparator = []) : StemOf text []
  | word {d first : Char} {others rest : List Char}
      (hfirst : text.dropWhile isSeparator = d :: others)
      (hall : ∀ c ∈ first :: rest, c.isAlphanum) (hdigit : first.isDigit = d.isDigit) :
      StemOf text (first :: rest)

theorem isSeparator_of_dropWhile {text others : List Char} {d : Char}
    (h : text.dropWhile isSeparator = d :: others) : isSeparator d = false ∧ d ∈ text := by
  have hhead := List.head?_dropWhile_not isSeparator text
  rw [h] at hhead
  refine ⟨by simpa using hhead, (List.dropWhile_suffix isSeparator).subset ?_⟩
  rw [h]
  exact List.mem_cons_self

theorem exists_trimSeparators {text others : List Char} {d : Char}
    (h : text.dropWhile isSeparator = d :: others) :
    ∃ rest, trimSeparators text = d :: rest ∧ ∀ c ∈ rest, c ∈ text := by
  refine ⟨(others.reverse.dropWhile isSeparator).reverse, ?_, fun c hc => ?_⟩
  · have hword : [d].dropWhile isSeparator = [d] := by
      rw [List.dropWhile_cons, (isSeparator_of_dropWhile h).1]
      rfl
    rw [trimSeparators, h, List.reverse_cons, List.dropWhile_append, hword]
    split
    · next hempty => rw [List.isEmpty_iff.1 hempty]; rfl
    · rw [List.reverse_append]
      rfl
  · have hother : c ∈ others :=
      List.mem_reverse.1 ((List.dropWhile_suffix isSeparator).subset (List.mem_reverse.1 hc))
    refine (List.dropWhile_suffix isSeparator).subset ?_
    rw [h]
    exact List.mem_cons_of_mem d hother

/-- The words of a name start with the first character that is no separator, or the small letter
for it. -/
theorem exists_spacedWords {text others : List Char} {d : Char}
    (hname : ∀ c ∈ text, Lexer.isNamePart c) (h : text.dropWhile isSeparator = d :: others) :
    ∃ c rest, spacedWords text = c :: rest ∧ c.isAlphanum ∧ c.isDigit = d.isDigit ∧
      isSpaced false rest := by
  obtain ⟨rest, htrim, hrest⟩ := exists_trimSeparators h
  obtain ⟨hword, hmem⟩ := isSeparator_of_dropWhile h
  have hd := isAlphanum_of_not_isSeparator (hname d hmem) hword
  have hkept : (d :: rest).filter (fun c => !isDropped c) = d :: rest := by
    refine List.filter_eq_self.2 (List.forall_mem_cons.2 ⟨?_, fun c hc => ?_⟩)
    · rw [not_isDropped_of_isNamePart (hname d hmem)]
      rfl
    · rw [not_isDropped_of_isNamePart (hname c (hrest c hc))]
      rfl
  have hjoined : joinSeparators false (d :: rest) = d :: joinSeparators false rest := by
    rw [joinSeparators, hword]
    rfl
  have hspaced := isSpaced_joinSeparators (fun c hc => hname c (hrest c hc)) false
  rw [spacedWords, htrim, hkept, hjoined]
  split
  · -- a text in capitals is lowered
    rw [lowerText, lowerAfter_cons hd]
    exact ⟨_, _, rfl, (case_of_isAlphanum hd).2.1, (case_of_isAlphanum hd).2.2,
      isSpaced_lowerAfter hspaced _⟩
  · exact ⟨d, _, rfl, hd, rfl, hspaced⟩

theorem stemOf_pascal {text : List Char} (hname : ∀ c ∈ text, Lexer.isNamePart c) :
    StemOf text (pascal text) := by
  cases hfirst : text.dropWhile isSeparator with
  | nil =>
    have htrim : trimSeparators text = [] := by
      rw [trimSeparators, hfirst]
      rfl
    have hnone : pascal text = [] := by
      rw [pascal, spacedWords, htrim]
      rfl
    rw [hnone]
    exact .empty hfirst
  | cons d others =>
    obtain ⟨c, rest, hwords, hc, hdigit, hspaced⟩ := exists_spacedWords hname hfirst
    obtain ⟨⟨hupper, hsame⟩, -⟩ := case_of_isAlphanum hc
    have hpascal : pascal text = c.toUpper :: pascalRest none rest := by
      rw [pascal, hwords]
      dsimp only
      rw [upper_of_isAlphanum hc]
      rfl
    rw [hpascal]
    exact .word hfirst
      (List.forall_mem_cons.2 ⟨hupper, isAlphanum_of_mem_pascalRest none hspaced⟩)
      (hsame.trans hdigit)

end Text

/-! ### Names -/

namespace Lexer

theorem isNamePart_of_isNameStart {c : Char} (h : isNameStart c) : isNamePart c := by
  rcases Bool.or_eq_true_iff.1 h with h | h
  · rw [isNamePart, Char.isAlphanum, h]
    rfl
  · rw [isNamePart, h, Bool.or_true]

theorem isName_cons {c : Char} {rest : List Char} :
    isName (c :: rest) ↔ isNameStart c ∧ ∀ d ∈ rest, isNamePart d := by
  simp [isName]

theorem isNamePart_of_mem {text : List Char} (h : isName text) : ∀ c ∈ text, isNamePart c := by
  cases text with
  | nil => exact List.forall_mem_nil _
  | cons c rest =>
    obtain ⟨hc, hrest⟩ := isName_cons.1 h
    exact List.forall_mem_cons.2 ⟨isNamePart_of_isNameStart hc, hrest⟩

end Lexer

namespace ShapeName

open Text

/-- The name of an operation stands as it is only if it starts with a letter and has no
underscores. -/
theorem stemOf_operationName {name : String} (h : Lexer.isName name.toList) :
    StemOf name.toList (operationName name).toList := by
  unfold operationName
  dsimp only
  split
  · next hkept =>
    cases hchars : name.toList with
    | nil => rw [hchars] at h; cases h
    | cons c rest =>
      rw [hchars] at h hkept
      obtain ⟨hhead, hall⟩ := Bool.and_eq_true_iff.1 hkept
      have hupper : isUpper c := hhead
      have hletters : ∀ d ∈ c :: rest, d.isAlphanum := by
        intro d hd
        rcases isAlphanum_or_eq_of_isNamePart (Lexer.isNamePart_of_mem h d hd) with hd' | rfl
        · exact hd'
        · exact absurd (List.all_eq_true.1 hall _ hd) (by decide +kernel)
      have hword := not_isSeparator_of_isAlphanum (hletters c List.mem_cons_self)
      exact .word (by rw [List.dropWhile_cons, hword]; rfl) hletters rfl
  · rw [String.toList_ofList]
    exact stemOf_pascal (Lexer.isNamePart_of_mem h)

end ShapeName

/-! ### Identifiers -/

namespace TypeScript

theorem isIdentifierStart_of_isNameStart {c : Char} (h : Lexer.isNameStart c) :
    isIdentifierStart c := by
  rw [isIdentifierStart, ← Lexer.isNameStart, h, Bool.true_or]

theorem isIdentifierRest_of_isNamePart {c : Char} (h : Lexer.isNamePart c) :
    isIdentifierRest c := by
  rw [isIdentifierRest, ← Lexer.isNamePart, h, Bool.true_or]

theorem isIdentifierRest_of_isAlphanum {c : Char} (h : c.isAlphanum) : isIdentifierRest c := by
  rw [isIdentifierRest, h, Bool.true_or, Bool.true_or]

/-- A letter or digit can start an identifier if it is no digit. -/
theorem isIdentifierStart_eq_not_isDigit {c : Char} (h : c.isAlphanum) :
    isIdentifierStart c = !c.isDigit :=
  Text.of_isAlphanum (P := fun c => isIdentifierStart c = !c.isDigit) (by decide) h

theorem isIdentifierRest_of_isIdentifierStart {c : Char} (h : isIdentifierStart c) :
    isIdentifierRest c := by
  simp only [isIdentifierStart, isIdentifierRest, Char.isAlphanum, Bool.or_eq_true] at h ⊢
  exact h.imp_left fun h => h.imp_left .inl

theorem isIdentifier_cons {c : Char} {rest : List Char} :
    isIdentifier (c :: rest) ↔ isIdentifierStart c ∧ ∀ d ∈ rest, isIdentifierRest d := by
  simp [isIdentifier]

theorem isIdentifierRest_of_mem {text : List Char} (h : isIdentifier text) :
    ∀ c ∈ text, isIdentifierRest c := by
  cases text with
  | nil => exact List.forall_mem_nil _
  | cons c rest =>
    obtain ⟨hc, hrest⟩ := isIdentifier_cons.1 h
    exact List.forall_mem_cons.2 ⟨isIdentifierRest_of_isIdentifierStart hc, hrest⟩

theorem isIdentifier_append {first second : List Char} (h : isIdentifier first)
    (hsecond : ∀ c ∈ second, isIdentifierRest c) : isIdentifier (first ++ second) := by
  cases first with
  | nil => cases h
  | cons c rest =>
    obtain ⟨hc, hrest⟩ := isIdentifier_cons.1 h
    exact isIdentifier_cons.2 ⟨hc, List.forall_mem_append.2 ⟨hrest, hsecond⟩⟩

end TypeScript

namespace Text

open TypeScript

/-- Whether the first character of a text that is no separator is a digit. -/
def leadsWithDigit (text : List Char) : Bool := (text.dropWhile isSeparator).head?.any Char.isDigit

section StemOf

variable {text stem tail : List Char}

theorem StemOf.isIdentifierRest_of_mem (h : StemOf text stem) : ∀ c ∈ stem, isIdentifierRest c := by
  cases h with
  | empty hnone => exact List.forall_mem_nil _
  | word hfirst hall hdigit => exact fun c hc => isIdentifierRest_of_isAlphanum (hall c hc)

theorem StemOf.all_isSeparator (h : StemOf text []) : text.all isSeparator := by
  cases h with
  | empty hnone =>
    rw [List.all_eq_true]
    exact List.dropWhile_eq_nil_iff.1 hnone

/-- Before an identifier or nothing, only a digit in front or the lack of any character is amiss. -/
theorem StemOf.isIdentifier_append_iff (h : StemOf text stem)
    (htail : isIdentifier tail ∨ tail = []) :
    isIdentifier (stem ++ tail) ↔ stem ++ tail ≠ [] ∧ leadsWithDigit text = false := by
  cases h with
  | empty hnone =>
    -- what counts is the tail
    have hdigit : leadsWithDigit text = false := by rw [leadsWithDigit, hnone]; rfl
    rw [List.nil_append]
    rcases htail with htail | rfl
    · have hne : tail ≠ [] := by
        rintro rfl
        cases htail
      simp [htail, hne, hdigit]
    · simp [isIdentifier]
  | @word d first others rest hfirst hall hdigit =>
    obtain ⟨halphanum, hrest⟩ := List.forall_mem_cons.1 hall
    have hleads : leadsWithDigit text = first.isDigit := by
      rw [leadsWithDigit, hfirst, hdigit]
      rfl
    have hothers : ∀ c ∈ rest ++ tail, isIdentifierRest c := by
      refine List.forall_mem_append.2 ⟨fun c hc => isIdentifierRest_of_isAlphanum (hrest c hc), ?_⟩
      rcases htail with htail | rfl
      · exact TypeScript.isIdentifierRest_of_mem htail
      · exact List.forall_mem_nil _
    rw [hleads, List.cons_append, isIdentifier_cons, isIdentifierStart_eq_not_isDigit halphanum,
      Bool.not_eq_true']
    exact ⟨fun hstart => ⟨List.cons_ne_nil _ _, hstart.1⟩, fun hword => ⟨hword.2, hothers⟩⟩

end StemOf

end Text

namespace ShapeName

open TypeScript

theorem isIdentifier_of_isName {text : List Char} (h : Lexer.isName text) : isIdentifier text := by
  cases text with
  | nil => cases h
  | cons c rest =>
    obtain ⟨hc, hrest⟩ := Lexer.isName_cons.1 h
    exact isIdentifier_cons.2
      ⟨isIdentifierStart_of_isNameStart hc, fun d hd => isIdentifierRest_of_isNamePart (hrest d hd)⟩

/-- In upper case, a character of an identifier is as good a character of one. -/
theorem exists_upper {c : Char} (h : isIdentifierRest c) :
    ∃ d, Text.upper c = [d] ∧ isIdentifierRest d ∧ isIdentifierStart d = isIdentifierStart c := by
  simp only [isIdentifierRest, Bool.or_eq_true, beq_iff_eq] at h
  rcases h with (h | rfl) | rfl
  · obtain ⟨⟨hupper, hdigit⟩, -⟩ := Text.case_of_isAlphanum h
    refine ⟨c.toUpper, Text.upper_of_isAlphanum h, isIdentifierRest_of_isAlphanum hupper, ?_⟩
    rw [isIdentifierStart_eq_not_isDigit hupper, isIdentifierStart_eq_not_isDigit h, hdigit]
  · exact ⟨'_', rfl, rfl, rfl⟩
  · exact ⟨'$', rfl, rfl, rfl⟩

theorem isIdentifier_upperFirst {text : String} (h : ∀ c ∈ text.toList, isIdentifierRest c) :
    (∀ c ∈ (upperFirst text).toList, isIdentifierRest c) ∧
      isIdentifier (upperFirst text).toList = isIdentifier text.toList := by
  unfold upperFirst
  cases hchars : text.toList with
  | nil => exact ⟨List.forall_mem_nil _, rfl⟩
  | cons c rest =>
    rw [hchars] at h
    obtain ⟨hc, hrest⟩ := List.forall_mem_cons.1 h
    obtain ⟨d, hupper, hd, hstart⟩ := exists_upper hc
    simp only [hupper, String.toList_ofList, List.singleton_append]
    refine ⟨List.forall_mem_cons.2 ⟨hd, hrest⟩, ?_⟩
    rw [isIdentifier, isIdentifier, hstart]

/-! ### Paths -/

/-- The segments of a path hold its characters, but no dots. -/
theorem mem_of_mem_splitPath {path segment : List Char} (h : segment ∈ splitPath path) {c : Char}
    (hc : c ∈ segment) : c ∈ path ∧ c ≠ '.' := by
  induction path generalizing segment with
  | nil =>
    rw [splitPath, List.mem_singleton] at h
    rw [h] at hc
    cases hc
  | cons first rest ih =>
    rw [splitPath] at h
    split at h
    · rcases List.mem_cons.1 h with rfl | h
      · cases hc
      · exact ⟨List.mem_cons_of_mem first (ih h hc).1, (ih h hc).2⟩
    · next hdot =>
      have hfirst : first ≠ '.' := by simpa using hdot
      cases hsplit : splitPath rest with
      | nil => exact absurd hsplit (splitPath_ne_nil rest)
      | cons own others =>
        rw [hsplit] at h ih
        rcases List.mem_cons.1 h with rfl | h
        · rcases List.mem_cons.1 hc with rfl | hc
          · exact ⟨List.mem_cons_self, hfirst⟩
          · have hmem := ih List.mem_cons_self hc
            exact ⟨List.mem_cons_of_mem first hmem.1, hmem.2⟩
        · have hmem := ih (List.mem_cons_of_mem own h) hc
          exact ⟨List.mem_cons_of_mem first hmem.1, hmem.2⟩

theorem splitPath_of_not_mem {path : List Char} (h : '.' ∉ path) : splitPath path = [path] := by
  induction path with
  | nil => rfl
  | cons c rest ih =>
    rw [List.mem_cons, not_or] at h
    obtain ⟨hc, hrest⟩ := h
    have hdot : (c == '.') = false := beq_eq_false_iff_ne.2 (Ne.symm hc)
    rw [splitPath, hdot, ih hrest]
    rfl

/-- Whether a path has characters of identifiers between its dots. -/
def IsPath (path : String) : Prop := ∀ c ∈ path.toList, isIdentifierRest c ∨ c = '.'

theorem isPath_of_isIdentifier {text : String} (h : isIdentifier text.toList) : IsPath text :=
  fun c hc => .inl (isIdentifierRest_of_mem h c hc)

theorem IsPath.joinPath {first second : String} (h : IsPath first) (h' : IsPath second) :
    IsPath (joinPath [first, second]) := by
  by_cases hfirst : first = ""
  · by_cases hsecond : second = ""
    · simp [IsPath, ShapeName.joinPath, hfirst, hsecond]
    · simpa [ShapeName.joinPath, hfirst, hsecond] using h'
  · by_cases hsecond : second = ""
    · simpa [ShapeName.joinPath, hfirst, hsecond] using h
    · have hjoin : ShapeName.joinPath [first, second] = first ++ "." ++ second := by
        simp [ShapeName.joinPath, hfirst, hsecond, String.intercalate_cons_cons]
      intro c hc
      rw [hjoin, String.toList_append, String.toList_append] at hc
      rcases List.mem_append.1 hc with hc | hc
      · rcases List.mem_append.1 hc with hc | hc
        · exact h c hc
        · exact .inr (List.mem_singleton.1 hc)
      · exact h' c hc

theorem IsPath.isIdentifierRest_of_mem_spelled {path : String} (h : IsPath path) :
    ∀ c ∈ (spelled path).toList, isIdentifierRest c := by
  have hjoin : ∀ texts : List String, (∀ text ∈ texts, ∀ c ∈ text.toList, isIdentifierRest c) →
      ∀ c ∈ (String.join texts).toList, isIdentifierRest c := by
    intro texts htexts
    induction texts with
    | nil => exact List.forall_mem_nil _
    | cons text rest ih =>
      obtain ⟨hfirst, hrest⟩ := List.forall_mem_cons.1 htexts
      rw [String.join_cons, String.toList_append]
      exact List.forall_mem_append.2 ⟨hfirst, ih hrest⟩
  refine hjoin _ (List.forall_mem_map.2 fun segment hsegment => ?_)
  obtain ⟨chars, hchars, rfl⟩ := List.mem_map.1 hsegment
  refine (isIdentifier_upperFirst fun c hc => ?_).1
  rw [String.toList_ofList] at hc
  obtain ⟨hmem, hdot⟩ := mem_of_mem_splitPath (List.mem_filter.1 hchars).1 hc
  exact (h c hmem).resolve_right hdot

/-- What a key of a field spells is an identifier. -/
theorem isIdentifier_spelled {key : String} (h : Lexer.isName key.toList) :
    isIdentifier (spelled key).toList := by
  have hidentifier := isIdentifier_of_isName h
  have hrest := isIdentifierRest_of_mem hidentifier
  have hdot : '.' ∉ key.toList := fun hmem => absurd (hrest _ hmem) (by decide)
  have hne : key.toList.isEmpty = false := by
    cases hchars : key.toList with
    | nil => rw [hchars] at h; cases h
    | cons => rfl
  have hspelled : spelled key = upperFirst key := by
    simp [spelled, segments, splitPath_of_not_mem hdot, hne]
  rw [hspelled, (isIdentifier_upperFirst hrest).2]
  exact hidentifier

end ShapeName

end OperationSamples
