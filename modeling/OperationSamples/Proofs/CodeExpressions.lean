import OperationSamples.Proofs.Quotation
import OperationSamples.Proofs.Spelling

/-!
Expressions are unambiguous, but for the keys of objects.

The first character of an expression tells texts, lists and objects apart from all else, which is
written in one word: a constant, a whole number or the call of a factory. A word ends before the
first character that no word has, a quoted text at its closing quote. Lists and objects are read
item by item, so where one expression stands in front of a text no other one does
(`TypeScript.codeExpression_append_inj`). Only a key does not tell a character beyond the basic
plane from the two halves of its pair.
-/

namespace OperationSamples

namespace CodeValue

mutual

/-- Whether a value holds no doubles, and references to factories only under identifiers. -/
def plain : CodeValue → Bool
  | .float _ => false
  | .factory name => TypeScript.isIdentifier name.toList
  | .list items => plainItems items
  | .object members => plainMembers members
  | _ => true

def plainItems : List CodeValue → Bool
  | [] => true
  | item :: rest => item.plain && plainItems rest

def plainMembers : List (CodeText × CodeValue) → Bool
  | [] => true
  | (_, value) :: rest => value.plain && plainMembers rest

end

mutual

/-- Whether no key holds the two halves of a pair side by side. -/
def keysUnpaired : CodeValue → Bool
  | .list items => itemsUnpaired items
  | .object members => membersUnpaired members
  | _ => true

def itemsUnpaired : List CodeValue → Bool
  | [] => true
  | item :: rest => item.keysUnpaired && itemsUnpaired rest

def membersUnpaired : List (CodeText × CodeValue) → Bool
  | [] => true
  | (key, value) :: rest => key.isUnpaired && value.keysUnpaired && membersUnpaired rest

end

/-- How a value is written. -/
inductive Form where
  | word
  | text
  | list
  | object
deriving DecidableEq

def form : CodeValue → Form
  | .text _ => .text
  | .list _ => .list
  | .object _ => .object
  | _ => .word

end CodeValue

namespace TypeScript

open CodeValue (Form)
open CodePoint (ofChar)
open CodeText (ofString)

/-! ### Words -/

def isWordChar (c : Char) : Bool := isIdentifierRest c || c == '-' || c == '(' || c == ')'

theorem isWordChar_of_isIdentifierRest {c : Char} (h : isIdentifierRest c) : isWordChar c := by
  rw [isWordChar, h]
  rfl

theorem isWordChar_of_isDigit {c : Char} (h : c.isDigit) : isWordChar c := by
  refine isWordChar_of_isIdentifierRest (isIdentifierRest_of_isAlphanum ?_)
  unfold Char.isAlphanum
  rw [h, Bool.or_true]

theorem natOfDigits_toDigits (n : Nat) : Numeral.natOfDigits (Nat.toDigits 10 n) = n := by
  have h := Nat.ofDigitChars_toDigits (n := n) (b := 10) (by decide) (by decide)
  rwa [Nat.ofDigitChars_eq_foldl] at h

/-- The whole number that a word stands for. -/
def readWhole (word : List Char) : Int :=
  let (negative, digits) := Numeral.splitSign word
  if negative then -(Numeral.natOfDigits digits : Int) else Numeral.natOfDigits digits

/-- The value that a word stands for. -/
def readWord (word : List Char) : CodeValue :=
  if word = "null".toList then .null
  else if word = "true".toList then .bool true
  else if word = "false".toList then .bool false
  else if word.getLast? = some ')' then .factory (String.ofList (word.take (word.length - 2)))
  else .int (readWhole word)

theorem splitSign_of_isDigit {word : List Char} (h : ∀ c ∈ word, c.isDigit) :
    Numeral.splitSign word = (false, word) := by
  unfold Numeral.splitSign
  split
  · exact absurd (h '-' List.mem_cons_self) (by decide)
  · exact absurd (h '+' List.mem_cons_self) (by decide)
  · rfl

theorem isDigit_of_mem_toDigits {n : Nat} : ∀ c ∈ Nat.toDigits 10 n, c.isDigit :=
  fun _ hc => Nat.isDigit_of_mem_toDigits (by decide) (by decide) hc

/-- A whole number is digits, behind a minus sign if it is negative. -/
theorem toList_intText (n : Int) :
    (∃ k : Nat, n = k ∧ (Json.intText n).toList = Nat.toDigits 10 k) ∨
      ∃ k : Nat, n = -(k : Int) ∧ (Json.intText n).toList = '-' :: Nat.toDigits 10 k := by
  cases n with
  | ofNat k => exact .inl ⟨k, rfl, by simp [Json.intText, Double.digitText]⟩
  | negSucc k => exact .inr ⟨k + 1, rfl, by simp [Json.intText, Double.digitText]⟩

theorem readWhole_intText (n : Int) : readWhole (Json.intText n).toList = n := by
  rcases toList_intText n with ⟨k, hn, htext⟩ | ⟨k, hn, htext⟩
  · rw [htext, readWhole, splitSign_of_isDigit isDigit_of_mem_toDigits]
    simp [natOfDigits_toDigits, hn]
  · rw [htext, readWhole, Numeral.splitSign]
    simp [natOfDigits_toDigits, hn]

theorem of_mem_intText {n : Int} {c : Char} (h : c ∈ (Json.intText n).toList) :
    c.isDigit ∨ c = '-' := by
  rcases toList_intText n with ⟨k, -, htext⟩ | ⟨k, -, htext⟩
  · rw [htext] at h
    exact .inl (isDigit_of_mem_toDigits c h)
  · rw [htext] at h
    rcases List.mem_cons.1 h with rfl | h
    · exact .inr rfl
    · exact .inl (isDigit_of_mem_toDigits c h)

/-- What is written for a value in one word: characters of words, which stand for no other value. -/
structure IsWordFor (v : CodeValue) (word : List Char) : Prop where
  ne_nil : word ≠ []
  chars : ∀ c ∈ word, isWordChar c
  read : readWord word = v

theorem isWordFor_intText (n : Int) : IsWordFor (.int n) (Json.intText n).toList := by
  have hother : ∀ {c : Char} {word : List Char}, c ∈ word → c.isDigit = false → c ≠ '-' →
      (Json.intText n).toList ≠ word := by
    rintro c word hmem hdigit hminus rfl
    rcases of_mem_intText hmem with h | h
    · rw [hdigit] at h
      cases h
    · exact hminus h
  constructor
  · rcases toList_intText n with ⟨k, -, htext⟩ | ⟨k, -, htext⟩
    · rw [htext]
      exact Nat.toDigits_ne_nil
    · rw [htext]
      exact List.cons_ne_nil _ _
  · intro c hc
    rcases of_mem_intText hc with h | rfl
    · exact isWordChar_of_isDigit h
    · rfl
  · have hcall : (Json.intText n).toList.getLast? ≠ some ')' := by
      intro hlast
      exact hother (List.mem_of_getLast? hlast) rfl (by decide) rfl
    rw [readWord, if_neg (hother (c := 'l') (by decide) rfl (by decide)),
      if_neg (hother (c := 'e') (by decide) rfl (by decide)),
      if_neg (hother (c := 'e') (by decide) rfl (by decide)), if_neg hcall, readWhole_intText]

theorem isWordFor_call {name : String} (h : isIdentifier name.toList) :
    IsWordFor (.factory name) (name ++ "()").toList := by
  have htext : (name ++ "()").toList = name.toList ++ ['(', ')'] := by simp
  have hother : ∀ {word : List Char}, word.getLast? ≠ some ')' →
      name.toList ++ ['(', ')'] ≠ word := by
    rintro word hword rfl
    simp at hword
  rw [htext]
  constructor
  · simp
  · intro c hc
    rcases List.mem_append.1 hc with hc | hc
    · exact isWordChar_of_isIdentifierRest (isIdentifierRest_of_mem h c hc)
    · simp only [List.mem_cons, List.not_mem_nil, or_false] at hc
      rcases hc with rfl | rfl <;> rfl
  · rw [readWord, if_neg (hother (by decide)), if_neg (hother (by decide)),
      if_neg (hother (by decide)), if_pos (by simp)]
    simp

theorem exists_word {v : CodeValue} (depth : Int) (hform : v.form = .word) (hplain : v.plain) :
    ∃ word : String, codeExpression depth v = ofString word ∧ IsWordFor v word.toList := by
  cases v with
  | null =>
    exact ⟨"null", by rw [codeExpression], by decide, List.all_eq_true.1 (by decide), if_pos rfl⟩
  | bool b =>
    cases b with
    | false =>
      refine ⟨"false", by rw [codeExpression]; rfl, by decide, List.all_eq_true.1 (by decide), ?_⟩
      rw [readWord, if_neg (by decide), if_neg (by decide), if_pos rfl]
    | true =>
      refine ⟨"true", by rw [codeExpression]; rfl, by decide, List.all_eq_true.1 (by decide), ?_⟩
      rw [readWord, if_neg (by decide), if_pos rfl]
  | int n => exact ⟨_, by rw [codeExpression], isWordFor_intText n⟩
  | factory name => exact ⟨_, by rw [codeExpression], isWordFor_call hplain⟩
  | float x => cases hplain
  | text t => cases hform
  | list items => cases hform
  | object members => cases hform

/-! ### Keys -/

theorem exists_of_isIdentifier {text : List Char} (h : isIdentifier text) :
    ∃ c rest, text = c :: rest ∧ isIdentifierStart c := by
  cases text with
  | nil => cases h
  | cons c rest => exact ⟨c, rest, rfl, (isIdentifier_cons.1 h).1⟩

/-- A newline at the end of an identifier does no harm. -/
theorem of_isIdentifier_withoutFinalNewline {text : List Char}
    (h : isIdentifier (withoutFinalNewline text)) :
    (∃ c rest, text = c :: rest ∧ isIdentifierStart c) ∧
      ∀ c ∈ text, isIdentifierRest c ∨ c = '\n' := by
  unfold withoutFinalNewline at h
  split at h
  · next hnewline =>
    obtain ⟨word, rfl⟩ := List.getLast?_eq_some_iff.1 (beq_iff_eq.1 hnewline)
    rw [List.dropLast_concat] at h
    obtain ⟨c, rest, hword, hstart⟩ := exists_of_isIdentifier h
    refine ⟨⟨c, rest ++ ['\n'], by rw [hword]; rfl, hstart⟩, List.forall_mem_append.2 ⟨?_, ?_⟩⟩
    · exact fun c hc => .inl (isIdentifierRest_of_mem h c hc)
    · exact List.forall_mem_singleton.2 (.inr rfl)
  · exact ⟨exists_of_isIdentifier h, fun c hc => .inl (isIdentifierRest_of_mem h c hc)⟩

theorem toNat_lt_of_isIdentifierRest {c : Char} (h : isIdentifierRest c) : c.toNat < 128 := by
  simp only [isIdentifierRest, Bool.or_eq_true, beq_iff_eq] at h
  rcases h with (h | rfl) | rfl
  · exact Text.toNat_lt_of_isAlphanum h
  · decide
  · decide

/-- The code points of a key that is not quoted are ASCII, and none is a colon. -/
theorem of_mem_isBare {key : CodeText} (h : isBare key) {p : CodePoint} (hp : p ∈ key) :
    p.val < 128 ∧ p ≠ ofChar ':' := by
  have hchar := (of_isIdentifier_withoutFinalNewline h).2 p.toChar (List.mem_map_of_mem hp)
  constructor
  · have hnull : p.toChar ≠ '\x00' := by
      intro hnull
      rw [hnull] at hchar
      exact absurd hchar (by decide)
    rw [← CodePoint.toNat_toChar hnull]
    rcases hchar with hchar | hchar
    · exact toNat_lt_of_isIdentifierRest hchar
    · rw [hchar]
      decide
  · rintro rfl
    rw [CodePoint.toChar_ofChar] at hchar
    exact absurd hchar (by decide)

theorem split_of_isBare {key : CodeText} (h : isBare key) : key.split = key :=
  CodeText.split_of_lt fun _ hp => Nat.lt_trans (of_mem_isBare h hp).1 (by decide)

theorem isBare_split (key : CodeText) : isBare key.split = isBare key := by
  by_cases hkey : isBare key
  · rw [split_of_isBare hkey]
  · by_cases hsplit : isBare key.split
    · rw [CodeText.split_of_mem_lt fun _ hp => Nat.lt_trans (of_mem_isBare hsplit hp).1 (by decide)]
    · rw [Bool.eq_false_iff.2 hkey, Bool.eq_false_iff.2 hsplit]

/-- A key is written like its split form. -/
theorem codeKey_split (key : CodeText) : codeKey key.split = codeKey key := by
  rw [codeKey, codeKey, isBare_split]
  split
  · next hbare => exact split_of_isBare hbare
  · exact Quoting.quotePoints_split key

/-- A key starts like an identifier, or with a quote. -/
theorem exists_codeKey (key : CodeText) :
    ∃ p rest, codeKey key = p :: rest ∧ isIdentifierStart p.toChar = isBare key ∧
      (isIdentifierStart p.toChar ∨ p = ofChar '"') := by
  by_cases hbare : isBare key
  · obtain ⟨c, chars, hchars, hstart⟩ := (of_isIdentifier_withoutFinalNewline hbare).1
    obtain ⟨p, rest, rfl, rfl, -⟩ := List.map_eq_cons_iff.1 hchars
    exact ⟨p, rest, if_pos hbare, hstart.trans hbare.symm, .inl hstart⟩
  · rw [codeKey, if_neg hbare, Bool.eq_false_iff.2 hbare]
    exact ⟨ofChar '"', _, rfl, by rw [CodePoint.toChar_ofChar]; rfl, .inr rfl⟩

/-- A key ends where the colon follows it, and only keys with the same units are written alike. -/
theorem codeKey_append_inj {first second rest others : CodeText}
    (h : codeKey first ++ ofChar ':' :: rest = codeKey second ++ ofChar ':' :: others) :
    first.split = second.split ∧ rest = others := by
  have hsame : isBare first = isBare second := by
    obtain ⟨p, _, hp, hfirst, -⟩ := exists_codeKey first
    obtain ⟨q, _, hq, hsecond, -⟩ := exists_codeKey second
    rw [hp, hq] at h
    rw [← hfirst, ← hsecond, List.head_eq_of_cons_eq h]
  by_cases hbare : isBare first
  · have hcolon : ∀ {key : CodeText}, isBare key → ∀ p ∈ key, p != ofChar ':' :=
      fun hkey p hp => bne_iff_ne.2 (of_mem_isBare hkey hp).2
    have hsecond : isBare second := hsame ▸ hbare
    rw [codeKey, codeKey, if_pos hbare, if_pos hsecond] at h
    obtain ⟨rfl, hrest⟩ := Text.append_inj_of_run (hcolon hbare) (hcolon hsecond) (by simp)
      (by simp) h
    exact ⟨rfl, List.tail_eq_of_cons_eq hrest⟩
  · have hsecond : ¬isBare second := hsame ▸ hbare
    have hwhole : ∀ {key : CodeText}, ∀ p ∈ key.split, Quoting.ascii.Whole p := by
      intro key unit hunit _
      obtain ⟨p, -, hmem⟩ := List.mem_flatMap.1 hunit
      exact CodePoint.val_lt_of_mem_units hmem
    rw [codeKey, codeKey, if_neg hbare, if_neg hsecond, ← Quoting.quotePoints_split first,
      ← Quoting.quotePoints_split second] at h
    obtain ⟨hkeys, hrest⟩ := Quoting.quotePoints_append_inj hwhole hwhole h
    exact ⟨hkeys, List.tail_eq_of_cons_eq hrest⟩

/-! ### Lists and objects -/

/-- What follows an item of a list that has the given items left. -/
def listTail (depth : Int) : List CodeValue → CodeText
  | [] => [ofChar ']']
  | item :: rest => ofChar ',' :: ofChar ' ' :: (codeExpression depth item ++ listTail depth rest)

/-- What follows the bracket of a list. -/
def listBody (depth : Int) : List CodeValue → CodeText
  | [] => [ofChar ']']
  | item :: rest => codeExpression depth item ++ listTail depth rest

theorem codeExpression_list (depth : Int) (items : List CodeValue) :
    codeExpression depth (.list items) = ofChar '[' :: listBody depth items := by
  have htail : ∀ (first : CodeText) (items : List CodeValue),
      (ofString ", ").intercalate (first :: codeExpressions depth items) ++ ofString "]" =
        first ++ listTail depth items := by
    intro first items
    induction items generalizing first with
    | nil => simp [codeExpressions, listTail, ofString]
    | cons item rest ih =>
      rw [codeExpressions, List.intercalate_cons_cons, List.append_assoc, ih]
      simp [listTail, ofString]
  cases items with
  | nil => simp [codeExpression, codeExpressions, listBody, ofString]
  | cons item rest =>
    rw [codeExpression, codeExpressions, List.append_assoc, htail]
    rfl

/-- The lines of an object that has the given members left, and its end. -/
def objectTail (depth : Int) : List (CodeText × CodeValue) → CodeText
  | [] => ofString (indentation depth) ++ [ofChar '\x7d']
  | (key, value) :: rest =>
    ofString (indentation (depth + 1)) ++ (codeKey key ++ ofChar ':' :: ofChar ' ' ::
      (codeExpression (depth + 1) value ++ ofChar ',' :: ofChar '\n' :: objectTail depth rest))

theorem codeExpression_object (depth : Int) {members : List (CodeText × CodeValue)}
    (h : members ≠ []) : codeExpression depth (.object members) =
      ofChar '\x7b' :: ofChar '\n' :: objectTail depth members := by
  have hlines : ∀ (member : CodeText × CodeValue) (others : List (CodeText × CodeValue)),
      (ofString "\n").intercalate (codeProperties (depth + 1) (member :: others)) ++
        ofString ("\n" ++ indentation depth ++ "\x7d") = objectTail depth (member :: others) := by
    intro member others
    induction others generalizing member with
    | nil => simp [codeProperties, objectTail, ofString]
    | cons next others ih =>
      have hnext := ih next
      rw [codeProperties] at hnext
      rw [codeProperties, codeProperties, List.intercalate_cons_cons, List.append_assoc, hnext]
      simp [objectTail, ofString]
  have hopen : ofString "\x7b\n" = [ofChar '\x7b', ofChar '\n'] := by simp [ofString]
  cases members with
  | nil => exact absurd rfl h
  | cons member others =>
    rw [codeExpression, List.append_assoc, hlines, hopen, List.cons_append, List.cons_append,
      List.nil_append]
    exact List.cons_ne_nil _ _

theorem codeExpression_object_nil (depth : Int) :
    codeExpression depth (.object []) = [ofChar '\x7b', ofChar '\x7d'] := by
  rw [codeExpression]
  rfl

theorem isBlank_of_mem_indentation (depth : Int) :
    ∀ p ∈ ofString (indentation depth), p == ofChar ' ' := by
  intro p hp
  simp only [ofString, indentation, Json.spaces, String.toList_ofList, List.map_replicate,
    List.mem_replicate] at hp
  simp [hp.2]

/-- The end of an object is not taken for one more member. -/
theorem objectTail_nil_ne (depth : Int) (member : CodeText × CodeValue)
    (members : List (CodeText × CodeValue)) (rest others : CodeText) :
    objectTail depth [] ++ rest ≠ objectTail depth (member :: members) ++ others := by
  intro h
  obtain ⟨key, value⟩ := member
  obtain ⟨p, points, hkey, -, hstart⟩ := exists_codeKey key
  have hne : ∀ {c : Char}, isIdentifierStart c = false → c ≠ '"' → p ≠ ofChar c := by
    rintro c hc hquote rfl
    rw [CodePoint.toChar_ofChar, hc, CodePoint.ofChar_inj] at hstart
    exact hstart.elim nofun hquote
  have hblank : p ≠ ofChar ' ' := hne rfl (by decide)
  rw [objectTail, objectTail, hkey] at h
  simp only [List.append_assoc, List.cons_append] at h
  have hafter := (Text.append_inj_of_run (isBlank_of_mem_indentation depth)
    (isBlank_of_mem_indentation (depth + 1)) (by simp) (by simpa using hblank) h).2
  exact hne (c := '\x7d') rfl (by decide) (List.head_eq_of_cons_eq hafter).symm

/-! ### Expressions -/

/-- The form of what starts with a character. -/
def formOf (c : Char) : Form :=
  if c = '"' then .text else if c = '[' then .list else if c = '\x7b' then .object else .word

theorem formOf_of_isWordChar {c : Char} (h : isWordChar c) : formOf c = .word ∧ c ≠ ']' := by
  have hne : ∀ {d : Char}, isWordChar d = false → c ≠ d := by
    rintro d hd rfl
    rw [h] at hd
    cases hd
  exact ⟨by simp [formOf, hne (d := '"') rfl, hne (d := '[') rfl, hne (d := '\x7b') rfl],
    hne (d := ']') rfl⟩

/-- The first character of an expression tells its form. -/
theorem exists_codeExpression {v : CodeValue} (hplain : v.plain) (depth : Int) :
    ∃ c rest, codeExpression depth v = ofChar c :: rest ∧ formOf c = v.form ∧ c ≠ ']' := by
  by_cases hform : v.form = .word
  · obtain ⟨word, htext, hword⟩ := exists_word depth hform hplain
    obtain ⟨c, rest, hchars⟩ := List.exists_cons_of_ne_nil hword.ne_nil
    obtain ⟨hc, hne⟩ := formOf_of_isWordChar (hword.chars c (hchars ▸ List.mem_cons_self))
    exact ⟨c, rest.map ofChar, by rw [htext, ofString, hchars]; rfl, hc.trans hform.symm, hne⟩
  · cases v with
    | text t => exact ⟨'"', _, by rw [codeExpression]; rfl, rfl, by decide⟩
    | list items => exact ⟨'[', _, codeExpression_list depth items, rfl, by decide⟩
    | object members =>
      by_cases hmembers : members = []
      · rw [hmembers]
        exact ⟨'\x7b', _, codeExpression_object_nil depth, rfl, by decide⟩
      · exact ⟨'\x7b', _, codeExpression_object depth hmembers, rfl, by decide⟩
    | _ => exact absurd rfl hform

/-- No expression is taken for the end of a list. -/
theorem codeExpression_append_ne {v : CodeValue} (hplain : v.plain) (depth : Int)
    (rest others : CodeText) : codeExpression depth v ++ rest ≠ ofChar ']' :: others := by
  intro h
  obtain ⟨c, _, hchars, -, hne⟩ := exists_codeExpression hplain depth
  rw [hchars] at h
  exact hne (CodePoint.ofChar_inj.1 (List.head_eq_of_cons_eq h))

theorem form_eq_of_append {first second : CodeValue} (hfirst : first.plain) (hsecond : second.plain)
    {depth : Int} {rest others : CodeText}
    (h : codeExpression depth first ++ rest = codeExpression depth second ++ others) :
    second.form = first.form := by
  obtain ⟨c, _, hc, hform, -⟩ := exists_codeExpression hfirst depth
  obtain ⟨d, _, hd, hform', -⟩ := exists_codeExpression hsecond depth
  rw [hc, hd] at h
  injection h with hcd
  rw [← hform, ← hform', CodePoint.ofChar_inj.1 hcd]

/-- What follows a word: nothing, or a character that no word has. -/
def Ends (rest : CodeText) : Prop := ∀ p ∈ rest.head?, isWordChar p.toChar = false

theorem word_append_inj {first second : CodeValue} (hfirst : first.plain) (hsecond : second.plain)
    (hform : first.form = .word) {depth : Int} {rest others : CodeText} (hrest : Ends rest)
    (hothers : Ends others)
    (h : codeExpression depth first ++ rest = codeExpression depth second ++ others) :
    first = second ∧ rest = others := by
  have hrun : ∀ {v : CodeValue} {word : String}, IsWordFor v word.toList →
      ∀ p ∈ ofString word, isWordChar p.toChar := by
    intro v word hword p hp
    obtain ⟨c, hc, rfl⟩ := List.mem_map.1 hp
    rw [CodePoint.toChar_ofChar]
    exact hword.chars c hc
  obtain ⟨word, htext, hword⟩ := exists_word depth hform hfirst
  obtain ⟨other, htext', hother⟩ := exists_word depth
    ((form_eq_of_append hfirst hsecond h).trans hform) hsecond
  rw [htext, htext'] at h
  obtain ⟨hsame, hafter⟩ := Text.append_inj_of_run (hrun hword) (hrun hother) hrest hothers h
  refine ⟨?_, hafter⟩
  rw [← hword.read, CodeText.ofString_inj.1 hsame, hother.read]

theorem ends_cons {c : Char} (h : isWordChar c = false) (rest : CodeText) :
    Ends (ofChar c :: rest) := by simpa [Ends] using h

theorem ends_listTail (depth : Int) (items : List CodeValue) (rest : CodeText) :
    Ends (listTail depth items ++ rest) := by
  cases items with
  | nil => exact ends_cons rfl _
  | cons item others => exact ends_cons rfl _

mutual

/-- Where one expression stands in front of a text no other one does, but for keys with the same
units. -/
theorem codeExpression_append_inj (first second : CodeValue) (depth : Int) {rest others : CodeText}
    (hfirst : first.plain) (hsecond : second.plain) (hrest : Ends rest) (hothers : Ends others)
    (h : codeExpression depth first ++ rest = codeExpression depth second ++ others) :
    first.splitKeys = second.splitKeys ∧ rest = others := by
  have hform := form_eq_of_append hfirst hsecond h
  cases first with
  | text t =>
    cases second with
    | text other =>
      rw [codeExpression, codeExpression] at h
      obtain ⟨rfl, hafter⟩ :=
        Quoting.quotePoints_append_inj Quoting.whole_plain Quoting.whole_plain h
      exact ⟨rfl, hafter⟩
    | _ => cases hform
  | list items =>
    cases second with
    | list more =>
      rw [codeExpression_list, codeExpression_list] at h
      obtain ⟨hitems, hafter⟩ := listBody_append_inj items more depth hfirst hsecond
        (List.tail_eq_of_cons_eq h)
      exact ⟨by rw [CodeValue.splitKeys, CodeValue.splitKeys, hitems], hafter⟩
    | _ => cases hform
  | object members =>
    cases second with
    | object more =>
      -- the second character tells whether there are members
      by_cases hmembers : members = []
      · by_cases hmore : more = []
        · subst hmembers hmore
          exact ⟨rfl, List.append_cancel_left h⟩
        · rw [hmembers, codeExpression_object_nil, codeExpression_object depth hmore] at h
          cases h
      · by_cases hmore : more = []
        · rw [hmore, codeExpression_object_nil, codeExpression_object depth hmembers] at h
          cases h
        · rw [codeExpression_object depth hmembers, codeExpression_object depth hmore] at h
          obtain ⟨hsame, hafter⟩ := objectTail_append_inj members more depth hfirst hsecond
            (List.tail_eq_of_cons_eq (List.tail_eq_of_cons_eq h))
          exact ⟨by rw [CodeValue.splitKeys, CodeValue.splitKeys, hsame], hafter⟩
    | _ => cases hform
  | float => cases hfirst
  | _ =>
    obtain ⟨rfl, hafter⟩ := word_append_inj hfirst hsecond rfl hrest hothers h
    exact ⟨rfl, hafter⟩

theorem listBody_append_inj (first second : List CodeValue) (depth : Int) {rest others : CodeText}
    (hfirst : CodeValue.plainItems first) (hsecond : CodeValue.plainItems second)
    (h : listBody depth first ++ rest = listBody depth second ++ others) :
    CodeValue.splitItems first = CodeValue.splitItems second ∧ rest = others := by
  cases first with
  | nil =>
    cases second with
    | nil => exact ⟨rfl, List.tail_eq_of_cons_eq h⟩
    | cons other more =>
      rw [CodeValue.plainItems, Bool.and_eq_true] at hsecond
      rw [listBody, listBody, List.append_assoc] at h
      exact absurd h.symm (codeExpression_append_ne hsecond.1 depth _ _)
  | cons item items =>
    rw [CodeValue.plainItems, Bool.and_eq_true] at hfirst
    cases second with
    | nil =>
      rw [listBody, listBody, List.append_assoc] at h
      exact absurd h (codeExpression_append_ne hfirst.1 depth _ _)
    | cons other more =>
      rw [CodeValue.plainItems, Bool.and_eq_true] at hsecond
      rw [listBody, listBody, List.append_assoc, List.append_assoc] at h
      obtain ⟨hitem, htail⟩ := codeExpression_append_inj item other depth hfirst.1 hsecond.1
        (ends_listTail depth items rest) (ends_listTail depth more others) h
      obtain ⟨hitems, hafter⟩ := listTail_append_inj items more depth hfirst.2 hsecond.2 htail
      exact ⟨by rw [CodeValue.splitItems, CodeValue.splitItems, hitem, hitems], hafter⟩

theorem listTail_append_inj (first second : List CodeValue) (depth : Int) {rest others : CodeText}
    (hfirst : CodeValue.plainItems first) (hsecond : CodeValue.plainItems second)
    (h : listTail depth first ++ rest = listTail depth second ++ others) :
    CodeValue.splitItems first = CodeValue.splitItems second ∧ rest = others := by
  cases first with
  | nil =>
    cases second with
    | nil => exact ⟨rfl, List.tail_eq_of_cons_eq h⟩
    | cons => cases CodePoint.ofChar_inj.1 (List.head_eq_of_cons_eq h)
  | cons item items =>
    cases second with
    | nil => cases CodePoint.ofChar_inj.1 (List.head_eq_of_cons_eq h)
    | cons other more =>
      rw [CodeValue.plainItems, Bool.and_eq_true] at hfirst hsecond
      rw [listTail, listTail] at h
      simp only [List.cons_append, List.append_assoc, List.cons.injEq, true_and] at h
      obtain ⟨hitem, htail⟩ := codeExpression_append_inj item other depth hfirst.1 hsecond.1
        (ends_listTail depth items rest) (ends_listTail depth more others) h
      obtain ⟨hitems, hafter⟩ := listTail_append_inj items more depth hfirst.2 hsecond.2 htail
      exact ⟨by rw [CodeValue.splitItems, CodeValue.splitItems, hitem, hitems], hafter⟩

theorem objectTail_append_inj (first second : List (CodeText × CodeValue)) (depth : Int)
    {rest others : CodeText} (hfirst : CodeValue.plainMembers first)
    (hsecond : CodeValue.plainMembers second)
    (h : objectTail depth first ++ rest = objectTail depth second ++ others) :
    CodeValue.splitMembers first = CodeValue.splitMembers second ∧ rest = others := by
  match first, second with
  | [], [] => exact ⟨rfl, List.append_cancel_left h⟩
  | [], _ :: _ => exact absurd h (objectTail_nil_ne depth _ _ _ _)
  | _ :: _, [] => exact absurd h.symm (objectTail_nil_ne depth _ _ _ _)
  | (key, value) :: members, (name, other) :: more =>
    have hcomma : ∀ tail, Ends (ofChar ',' :: tail) := ends_cons rfl
    rw [CodeValue.plainMembers, Bool.and_eq_true] at hfirst hsecond
    rw [objectTail, objectTail] at h
    simp only [List.append_assoc, List.cons_append] at h
    obtain ⟨hkeys, hvalues⟩ := codeKey_append_inj (List.append_cancel_left h)
    obtain ⟨hvalue, htail⟩ := codeExpression_append_inj value other (depth + 1) hfirst.1 hsecond.1
      (hcomma _) (hcomma _) (List.tail_eq_of_cons_eq hvalues)
    obtain ⟨hmembers, hafter⟩ := objectTail_append_inj members more depth hfirst.2 hsecond.2
      (List.tail_eq_of_cons_eq (List.tail_eq_of_cons_eq htail))
    refine ⟨?_, hafter⟩
    rw [CodeValue.splitMembers, CodeValue.splitMembers, hkeys, hvalue, hmembers]

end

/-! ### Split keys -/

mutual

/-- An expression shows the units of keys only. -/
theorem codeExpression_splitKeys : ∀ (v : CodeValue) (depth : Int),
    codeExpression depth v.splitKeys = codeExpression depth v
  | .null, _ => rfl
  | .bool _, _ => rfl
  | .int _, _ => rfl
  | .float _, _ => rfl
  | .text _, _ => rfl
  | .factory _, _ => rfl
  | .list items, depth => by
    rw [CodeValue.splitKeys, codeExpression, codeExpressions_splitItems items depth, codeExpression]
  | .object [], _ => rfl
  | .object ((key, value) :: rest), depth => by
    have hmembers := codeProperties_splitMembers ((key, value) :: rest) (depth + 1)
    simp only [CodeValue.splitKeys, CodeValue.splitMembers] at hmembers ⊢
    simp only [codeExpression, hmembers]

theorem codeExpressions_splitItems : ∀ (items : List CodeValue) (depth : Int),
    codeExpressions depth (CodeValue.splitItems items) = codeExpressions depth items
  | [], _ => rfl
  | item :: rest, depth => by
    rw [CodeValue.splitItems, codeExpressions, codeExpression_splitKeys item depth,
      codeExpressions_splitItems rest depth, codeExpressions]

theorem codeProperties_splitMembers : ∀ (members : List (CodeText × CodeValue)) (depth : Int),
    codeProperties depth (CodeValue.splitMembers members) = codeProperties depth members
  | [], _ => rfl
  | (key, value) :: rest, depth => by
    rw [CodeValue.splitMembers, codeProperties, codeKey_split, codeExpression_splitKeys value depth,
      codeProperties_splitMembers rest depth, codeProperties]

end

/-- Values have the same expression exactly if they are the same with all keys split. -/
theorem codeExpression_eq_iff {v w : CodeValue} (hv : v.plain) (hw : w.plain) (depth : Int) :
    codeExpression depth v = codeExpression depth w ↔ v.splitKeys = w.splitKeys := by
  constructor
  · intro h
    have hend : Ends [] := nofun
    exact (codeExpression_append_inj v w depth hv hw hend hend (by rw [h])).1
  · intro h
    rw [← codeExpression_splitKeys v, h, codeExpression_splitKeys]

end TypeScript

namespace CodeValue

mutual

/-- Values with unpaired keys are known from their split forms. -/
theorem splitKeys_inj {v w : CodeValue} (hv : v.keysUnpaired) (hw : w.keysUnpaired)
    (h : v.splitKeys = w.splitKeys) : v = w := by
  cases v with
  | list items =>
    cases w with
    | list more =>
      rw [splitKeys, splitKeys, list.injEq] at h
      rw [splitItems_inj hv hw h]
    | _ => cases h
  | object members =>
    cases w with
    | object more =>
      rw [splitKeys, splitKeys, object.injEq] at h
      rw [splitMembers_inj hv hw h]
    | _ => cases h
  | _ =>
    cases w with
    | list => cases h
    | object => cases h
    | _ => exact h

theorem splitItems_inj {first second : List CodeValue} (hfirst : itemsUnpaired first)
    (hsecond : itemsUnpaired second) (h : splitItems first = splitItems second) :
    first = second := by
  match first, second with
  | [], [] => rfl
  | [], _ :: _ => cases h
  | _ :: _, [] => cases h
  | item :: rest, other :: more =>
    rw [itemsUnpaired, Bool.and_eq_true] at hfirst hsecond
    rw [splitItems, splitItems, List.cons.injEq] at h
    rw [splitKeys_inj hfirst.1 hsecond.1 h.1, splitItems_inj hfirst.2 hsecond.2 h.2]

theorem splitMembers_inj {first second : List (CodeText × CodeValue)}
    (hfirst : membersUnpaired first) (hsecond : membersUnpaired second)
    (h : splitMembers first = splitMembers second) : first = second := by
  match first, second with
  | [], [] => rfl
  | [], _ :: _ => cases h
  | _ :: _, [] => cases h
  | (key, value) :: rest, (name, other) :: more =>
    rw [membersUnpaired, Bool.and_eq_true, Bool.and_eq_true] at hfirst hsecond
    rw [splitMembers, splitMembers, List.cons.injEq, Prod.mk.injEq] at h
    rw [CodeText.split_inj hfirst.1.1 hsecond.1.1 h.1.1,
      splitKeys_inj hfirst.1.2 hsecond.1.2 h.1.2, splitMembers_inj hfirst.2 hsecond.2 h.2]

end

end CodeValue

end OperationSamples
