import Mathlib.Data.List.Infix
import OperationSamples.Sample.Pattern

/-!
Replacing words from left to right, and translating date patterns.

`Text.substitute` goes through a text and replaces, at each place, the first of a list of words that
begins there. Rules whose replacements begin with a mark, and none of whose replacements begins with
another one, can be undone: in a text without the mark, the mark shows where words have been replaced,
and the rules the other way round give the text back (`Text.substitute_swap`). Where no mark shows,
nothing has been replaced (`Text.substitute_eq_self`).

The translation of a date pattern is such a substitution (`DatePattern.replace_eq_substitute`), with
the percent sign as the mark. So it changes nothing when it is repeated, and tells patterns without a
percent sign apart (`DatePattern.directives_idempotent_and_undoable`).
-/

namespace OperationSamples

namespace Text

/-- A word and what it is replaced by. -/
abbrev Rule := List Char × List Char

/-- Replaces from left to right. At each place the first rule counts whose word begins there; `skipped`
characters still belong to the word that was replaced last. -/
def substituteFrom (rules : List Rule) : Nat → List Char → List Char
  | _, [] => []
  | skipped + 1, _ :: rest => substituteFrom rules skipped rest
  | 0, c :: rest =>
    match rules.find? fun rule => rule.1.isPrefixOf (c :: rest) with
    | some rule => rule.2 ++ substituteFrom rules (rule.1.length - 1) rest
    | none => c :: substituteFrom rules 0 rest

/-- A text in which words are replaced by the rules. -/
def substitute (rules : List Rule) (text : List Char) : List Char := substituteFrom rules 0 text

/-- Rules that can be undone: words are not empty, every replacement begins with the mark, and no
replacement begins with that of another rule. -/
structure Undoable (rules : List Rule) (mark : Char) : Prop where
  word_ne_nil : ∀ rule ∈ rules, rule.1 ≠ []
  marked : ∀ rule ∈ rules, rule.2.head? = some mark
  apart : ∀ rule ∈ rules, ∀ other ∈ rules, rule.2 <+: other.2 → rule = other

section

variable {rules : List Rule}

/-! ### What is done at a place -/

theorem substituteFrom_eq_drop (skipped : Nat) (text : List Char) :
    substituteFrom rules skipped text = substitute rules (text.drop skipped) := by
  induction text generalizing skipped with
  | nil => simp [substitute, substituteFrom]
  | cons c rest ih =>
    cases skipped with
    | zero => rfl
    | succ skipped => rw [substituteFrom, ih, List.drop_succ_cons]

/-- The first rule whose word begins here decides. -/
theorem substitute_append {word replacement rest : List Char} (hword : word ≠ [])
    (h : rules.find? (fun rule => rule.1.isPrefixOf (word ++ rest)) = some (word, replacement)) :
    substitute rules (word ++ rest) = replacement ++ substitute rules rest := by
  cases word with
  | nil => exact absurd rfl hword
  | cons c word =>
    rw [List.cons_append] at h ⊢
    rw [substitute, substituteFrom, h]
    dsimp only
    rw [substituteFrom_eq_drop, List.length_cons, Nat.add_sub_cancel, List.drop_left]

/-- Where no word begins, the character stays. -/
theorem substitute_cons {c : Char} {rest : List Char}
    (h : ∀ rule ∈ rules, ¬ rule.1 <+: c :: rest) :
    substitute rules (c :: rest) = c :: substitute rules rest := by
  have hnone : rules.find? (fun rule => rule.1.isPrefixOf (c :: rest)) = none := by
    rw [List.find?_eq_none]
    intro rule hrule hprefix
    exact h rule hrule (List.isPrefixOf_iff_prefix.1 hprefix)
  rw [substitute, substituteFrom, hnone]
  rfl

/-- Induction along a substitution: over the words that are replaced and the characters that stay. -/
theorem substitute_induction {motive : List Char → List Char → Prop}
    (hwords : ∀ rule ∈ rules, rule.1 ≠ [])
    (nil : motive [] [])
    (word : ∀ rule ∈ rules, ∀ rest replaced, motive rest replaced →
      motive (rule.1 ++ rest) (rule.2 ++ replaced))
    (char : ∀ c rest replaced, motive rest replaced → motive (c :: rest) (c :: replaced))
    (text : List Char) : motive text (substitute rules text) := by
  induction hlength : text.length using Nat.strong_induction_on generalizing text with
  | _ n ih =>
    subst hlength
    cases text with
    | nil => exact nil
    | cons c rest =>
      cases hfind : rules.find? fun rule => rule.1.isPrefixOf (c :: rest) with
      | none =>
        rw [List.find?_eq_none] at hfind
        rw [substitute_cons fun rule hrule hprefix =>
          hfind rule hrule (List.isPrefixOf_iff_prefix.2 hprefix)]
        exact char c rest _ (ih _ (Nat.lt_succ_self _) rest rfl)
      | some rule =>
        have hrule := List.mem_of_find?_eq_some hfind
        have hprefix := List.find?_some hfind
        obtain ⟨tail, htail⟩ := List.isPrefixOf_iff_prefix.1 hprefix
        rw [← htail] at hfind ih ⊢
        have hword := hwords rule hrule
        rw [substitute_append hword hfind]
        refine word rule hrule tail _ (ih _ ?_ tail rfl)
        rw [List.length_append]
        exact Nat.lt_add_of_pos_left (List.length_pos_of_ne_nil hword)

/-! ### Undoing -/

variable {mark : Char}

theorem Undoable.mark_mem (h : Undoable rules mark) {rule : Rule} (hrule : rule ∈ rules) :
    mark ∈ rule.2 :=
  List.mem_of_mem_head? (h.marked rule hrule)

/-- The rule is known by its replacement. -/
theorem Undoable.find?_swap (h : Undoable rules mark) {rule : Rule} (hrule : rule ∈ rules)
    (rest : List Char) :
    (rules.map Prod.swap).find? (fun r => r.1.isPrefixOf (rule.2 ++ rest)) =
      some (rule.2, rule.1) := by
  obtain ⟨found, hfound⟩ : ∃ found,
      (rules.map Prod.swap).find? (fun r => r.1.isPrefixOf (rule.2 ++ rest)) = some found := by
    rw [← Option.isSome_iff_exists, List.find?_isSome]
    exact ⟨rule.swap, List.mem_map_of_mem hrule,
      List.isPrefixOf_iff_prefix.2 (List.prefix_append _ _)⟩
  obtain ⟨other, hother, rfl⟩ := List.mem_map.1 (List.mem_of_find?_eq_some hfound)
  have hfits := List.find?_some hfound
  have hprefix : other.2 <+: rule.2 ++ rest := List.isPrefixOf_iff_prefix.1 hfits
  -- Of two replacements that begin the same text, one begins with the other.
  rcases List.prefix_or_prefix_of_prefix hprefix (List.prefix_append _ _) with hle | hle
  · rw [hfound, h.apart other hother rule hrule hle]
    rfl
  · rw [hfound, h.apart rule hrule other hother hle]
    rfl

/-- In a text without the mark, words and replacements can be exchanged back. -/
theorem substitute_swap (h : Undoable rules mark) {text : List Char} (hmark : mark ∉ text) :
    substitute (rules.map Prod.swap) (substitute rules text) = text := by
  revert hmark
  refine substitute_induction (motive := fun before after =>
    mark ∉ before → substitute (rules.map Prod.swap) after = before)
    h.word_ne_nil (fun _ => rfl) ?_ ?_ text
  · intro rule hrule rest replaced ih hmark
    have hne : rule.2 ≠ [] := List.ne_nil_of_mem (h.mark_mem hrule)
    rw [substitute_append hne (h.find?_swap hrule replaced),
      ih fun hmem => hmark (List.mem_append_right _ hmem)]
  · intro c rest replaced ih hmark
    have hc : c ≠ mark := fun heq => hmark (heq ▸ List.mem_cons_self)
    rw [substitute_cons, ih fun hmem => hmark (List.mem_cons_of_mem _ hmem)]
    -- A replacement that began here would begin with the mark.
    intro swapped hswapped hprefix
    obtain ⟨rule, hrule, rfl⟩ := List.mem_map.1 hswapped
    obtain ⟨tail, htail⟩ := hprefix
    have hhead := congrArg List.head? htail
    rw [Prod.fst_swap, List.head?_append, h.marked rule hrule] at hhead
    exact hc (Option.some.inj hhead).symm

theorem substitute_eq_self (h : Undoable rules mark) {text : List Char}
    (hmark : mark ∉ substitute rules text) : substitute rules text = text := by
  revert hmark
  refine substitute_induction (motive := fun before after => mark ∉ after → after = before)
    h.word_ne_nil (fun _ => rfl) ?_ ?_ text
  · intro rule hrule rest replaced _ hmark
    exact absurd (List.mem_append_left _ (h.mark_mem hrule)) hmark
  · intro c rest replaced ih hmark
    rw [ih fun hmem => hmark (List.mem_cons_of_mem _ hmem)]

end

end Text

namespace DatePattern

/-! ### Date patterns -/

/-- The tokens of a pattern and their directives; a longer token comes before its beginning. -/
def tokens : List Text.Rule :=
  [(['Y', 'Y', 'Y', 'Y'], ['%', 'Y']), (['Y', 'Y'], ['%', 'y']), (['M', 'M'], ['%', 'm']),
    (['D', 'D'], ['%', 'd']), (['H', 'H'], ['%', 'H']), (['m', 'm'], ['%', 'M']),
    (['s', 's'], ['%', 'S'])]

theorem undoable_tokens : Text.Undoable tokens '%' :=
  ⟨by decide, by decide, by decide⟩

/-- A letter that is not repeated does not begin a token of two. -/
theorem not_pair_prefix {a c : Char} {rest : List Char}
    (h : ∀ tail, c = a → rest = a :: tail → False) : ¬ [a, a] <+: c :: rest := by
  rintro ⟨tail, htail⟩
  obtain ⟨rfl, hrest⟩ := List.cons.inj htail
  exact h tail rfl hrest.symm

/-- Two letters for the year, unless there are four. -/
theorem find?_tokens_year {rest : List Char} (h : ∀ tail, rest = 'Y' :: 'Y' :: tail → False) :
    tokens.find? (fun r => r.1.isPrefixOf (['Y', 'Y'] ++ rest)) =
      some (['Y', 'Y'], ['%', 'y']) := by
  rw [tokens, List.find?_cons_of_neg]
  · rfl
  · intro hprefix
    obtain ⟨tail, htail⟩ := List.isPrefixOf_iff_prefix.1 hprefix
    have hrest : ['Y', 'Y'] ++ 'Y' :: 'Y' :: tail = ['Y', 'Y'] ++ rest := htail
    exact h tail (List.append_cancel_left hrest).symm

theorem replace_eq_substitute (text : List Char) : replace text = Text.substitute tokens text := by
  fun_induction replace text with
  | case1 rest ih => rw [ih]; rfl
  | case2 rest hyear ih =>
    rw [ih]
    exact (Text.substitute_append (by decide) (find?_tokens_year hyear)).symm
  | case3 rest ih => rw [ih]; rfl
  | case4 rest ih => rw [ih]; rfl
  | case5 rest ih => rw [ih]; rfl
  | case6 rest ih => rw [ih]; rfl
  | case7 rest ih => rw [ih]; rfl
  | case8 c rest _ hyear hmonth hday hhour hminute hsecond ih =>
    rw [ih, Text.substitute_cons]
    have hpair : ¬ ['Y', 'Y'] <+: c :: rest := not_pair_prefix hyear
    have hyears : ¬ ['Y', 'Y', 'Y', 'Y'] <+: c :: rest := fun hprefix =>
      hpair ((List.prefix_append ['Y', 'Y'] ['Y', 'Y']).trans hprefix)
    simp only [tokens, List.forall_mem_cons]
    exact ⟨hyears, hpair, not_pair_prefix hmonth, not_pair_prefix hday, not_pair_prefix hhour,
      not_pair_prefix hminute, not_pair_prefix hsecond, fun _ h => absurd h List.not_mem_nil⟩
  | case9 => rfl

/-- Without a percent sign, a pattern is translated token by token. -/
theorem toList_directives {pattern : String} (h : '%' ∉ pattern.toList) :
    (directives pattern).toList = Text.substitute tokens pattern.toList := by
  rw [directives, if_neg (by simpa using h), String.toList_ofList, replace_eq_substitute]

theorem directives_of_mem {pattern : String} (h : '%' ∈ pattern.toList) :
    directives pattern = pattern := by
  rw [directives, if_pos (by simpa using h)]

theorem directives_directives (pattern : String) :
    directives (directives pattern) = directives pattern := by
  by_cases hmark : '%' ∈ (directives pattern).toList
  · exact directives_of_mem hmark
  · -- No percent sign has come in, so nothing has been translated.
    have hpattern : '%' ∉ pattern.toList := fun h => hmark (by rwa [directives_of_mem h])
    have hself : directives pattern = pattern := by
      rw [← String.toList_inj, toList_directives hpattern]
      rw [toList_directives hpattern] at hmark
      exact Text.substitute_eq_self undoable_tokens hmark
    rw [hself, hself]

/-- The directives of a pattern without a percent sign can be replaced by their tokens. -/
theorem substitute_directives {pattern : String} (h : '%' ∉ pattern.toList) :
    Text.substitute (tokens.map Prod.swap) (directives pattern).toList = pattern.toList := by
  rw [toList_directives h, Text.substitute_swap undoable_tokens h]

/-- Translating twice is translating once. A pattern without a percent sign is translated token by
token from left to right, the longest token first; replacing the directives by their tokens, again
from left to right, gives it back, so no two such patterns have the same translation. -/
theorem directives_idempotent_and_undoable :
    (∀ pattern, directives (directives pattern) = directives pattern) ∧
    (∀ pattern, '%' ∉ pattern.toList →
      (directives pattern).toList = Text.substitute tokens pattern.toList ∧
      Text.substitute (tokens.map Prod.swap) (directives pattern).toList = pattern.toList) ∧
    ∀ pattern other, '%' ∉ pattern.toList → '%' ∉ other.toList →
      directives pattern = directives other → pattern = other := by
  refine ⟨directives_directives, fun pattern h => ⟨toList_directives h, substitute_directives h⟩, ?_⟩
  intro pattern other hpattern hother heq
  have hback := substitute_directives hpattern
  rw [heq, substitute_directives hother] at hback
  exact (String.toList_inj.1 hback).symm

/-- Five letters for a year are four and one, and three for a minute are two and one. -/
theorem directives_idempotent_and_undoable_runs :
    '%' ∉ "YYYYY-MMmmm".toList ∧ directives "YYYYY-MMmmm" = "%YY-%m%Mm" ∧
      directives "%YY-%m%Mm" = "%YY-%m%Mm" ∧
      Text.substitute (tokens.map Prod.swap) "%YY-%m%Mm".toList = "YYYYY-MMmmm".toList ∧
      directives ("YYYYY" ++ "-MMmmm") = "%YY-%m%Mm" ∧ "YYYYY" ++ "-MMmmm" = "YYYYY-MMmmm" := by
  have hpattern : '%' ∉ "YYYYY-MMmmm".toList := by decide
  have hout : directives "YYYYY-MMmmm" = "%YY-%m%Mm" := by decide +kernel
  have hparts : directives ("YYYYY" ++ "-MMmmm") = "%YY-%m%Mm" := by decide +kernel
  obtain ⟨hidempotent, hundo, hinj⟩ := directives_idempotent_and_undoable
  refine ⟨hpattern, hout, ?_, ?_, hparts,
    hinj _ _ (by decide +kernel) hpattern (hparts.trans hout.symm)⟩
  · rw [← hout, hidempotent]
  · rw [← hout, (hundo _ hpattern).2]

end DatePattern

end OperationSamples
