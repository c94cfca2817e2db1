import OperationSamples.Proofs.Spelling

/-!
Names of paths in snake case.

A name is spelled without the dots of its path, so a path can in general not be told from its name.
It can where the segments are written in small letters, digits and underscores: then the capital
letters of what the path spells show where its segments start.
-/

namespace OperationSamples

namespace Text

def isSnakePart (c : Char) : Bool := c.isLower || c.isDigit || c == '_'

/-- Whether a text is a small letter followed by small letters, digits and underscores. -/
def isSnake : List Char → Bool
  | [] => false
  | c :: rest => c.isLower && rest.all isSnakePart

theorem exists_of_isSnake {word : List Char} (h : isSnake word) :
    ∃ c rest, word = c :: rest ∧ c.isLower ∧ ∀ d ∈ rest, isSnakePart d := by
  cases word with
  | nil => cases h
  | cons c rest =>
    rw [isSnake, Bool.and_eq_true, List.all_eq_true] at h
    exact ⟨c, rest, rfl, h.1, h.2⟩

theorem isAlphanum_of_isLower {c : Char} (h : c.isLower) : c.isAlphanum := by
  unfold Char.isAlphanum Char.isAlpha
  rw [h, Bool.or_true, Bool.true_or]

theorem isUpper_toUpper {c : Char} (h : c.isLower) :
    c.toUpper.isUpper ∧ c.toUpper.toLower = c :=
  of_isAlphanum (P := fun c => c.isLower → c.toUpper.isUpper ∧ c.toUpper.toLower = c) (by decide)
    (isAlphanum_of_isLower h) h

theorem not_isUpper_of_isSnakePart {c : Char} (h : isSnakePart c) : c.isUpper = false := by
  simp only [isSnakePart, Bool.or_eq_true, beq_iff_eq] at h
  rcases h with (h | h) | rfl
  · exact of_isAlphanum (P := fun c => c.isLower → c.isUpper = false) (by decide)
      (isAlphanum_of_isLower h) h
  · have halphanum : c.isAlphanum := by
      unfold Char.isAlphanum
      rw [h, Bool.or_true]
    exact of_isAlphanum (P := fun c => c.isDigit → c.isUpper = false) (by decide) halphanum h
  · rfl

/-! ### Capitals -/

/-- A text with its first letter in upper case. -/
def capitalized : List Char → List Char
  | [] => []
  | c :: rest => c.toUpper :: rest

/-- What words in snake case spell starts with a capital, if there are any. -/
theorem isUpper_of_mem_head? {words : List (List Char)} (h : ∀ word ∈ words, isSnake word) :
    ∀ c ∈ (words.flatMap capitalized).head?, c.isUpper := by
  intro c hc
  cases words with
  | nil => cases hc
  | cons word others =>
    obtain ⟨first, rest, rfl, hfirst, -⟩ := exists_of_isSnake (h word List.mem_cons_self)
    have hcapital : first.toUpper = c := Option.some.inj hc
    rw [← hcapital]
    exact (isUpper_toUpper hfirst).1

/-- Words in snake case are told apart by their capitals. -/
theorem flatMap_capitalized_inj {words others : List (List Char)}
    (hwords : ∀ word ∈ words, isSnake word) (hothers : ∀ word ∈ others, isSnake word)
    (h : words.flatMap capitalized = others.flatMap capitalized) : words = others := by
  induction words generalizing others with
  | nil =>
    cases others with
    | nil => rfl
    | cons other more =>
      -- a word spells at least its capital
      obtain ⟨d, letters, rfl, -⟩ := exists_of_isSnake (hothers other List.mem_cons_self)
      cases h
  | cons word rest ih =>
    obtain ⟨hword, hrest⟩ := List.forall_mem_cons.1 hwords
    obtain ⟨c, chars, rfl, hc, hchars⟩ := exists_of_isSnake hword
    cases others with
    | nil => cases h
    | cons other more =>
      obtain ⟨hother, hmore⟩ := List.forall_mem_cons.1 hothers
      obtain ⟨d, letters, rfl, hd, hletters⟩ := exists_of_isSnake hother
      rw [List.flatMap_cons, List.flatMap_cons, capitalized, capitalized, List.cons_append,
        List.cons_append, List.cons.injEq] at h
      have hfirst : c = d := by
        rw [← (isUpper_toUpper hc).2, h.1, (isUpper_toUpper hd).2]
      -- both words end before the next capital
      have hsplit := append_inj_of_run (p := fun c => !c.isUpper)
        (fun c hc => by simp [not_isUpper_of_isSnakePart (hchars c hc)])
        (fun c hc => by simp [not_isUpper_of_isSnakePart (hletters c hc)])
        (fun c hc => by simp [isUpper_of_mem_head? hrest c hc])
        (fun c hc => by simp [isUpper_of_mem_head? hmore c hc]) h.2
      rw [hfirst, hsplit.1, ih hrest hmore hsplit.2]

end Text

namespace ShapeName

open Text

/-! ### Paths -/

theorem splitPath_eq_splitOn (path : List Char) : splitPath path = path.splitOn '.' := by
  induction path with
  | nil => rfl
  | cons c rest ih =>
    rw [List.splitOn, List.splitOnP_cons_eq_if_modifyHead, splitPath, ih, List.splitOn]
    split
    · rfl
    · cases hsplit : rest.splitOnP (· == '.') with
      | nil => exact absurd hsplit (List.splitOnP_ne_nil _ _)
      | cons first others => rfl

/-- The segments of a path, empty ones included. The empty path has none. -/
def pathSegments (path : String) : List (List Char) :=
  if path = "" then [] else splitPath path.toList

/-- A path is its segments with dots between them. -/
theorem intercalate_pathSegments (path : String) :
    ['.'].intercalate (pathSegments path) = path.toList := by
  unfold pathSegments
  split
  · next hempty => rw [hempty]; rfl
  · rw [splitPath_eq_splitOn, List.intercalate_splitOn]

/-- Whether all segments of a path are in snake case. -/
def IsSnakePath (path : String) : Prop := ∀ segment ∈ pathSegments path, isSnake segment

instance (path : String) : Decidable (IsSnakePath path) :=
  inferInstanceAs (Decidable (∀ segment ∈ pathSegments path, isSnake segment))

theorem toList_upperFirst {segment : List Char} (h : isSnake segment) :
    (upperFirst (String.ofList segment)).toList = capitalized segment := by
  obtain ⟨c, rest, rfl, hc, -⟩ := exists_of_isSnake h
  simp [upperFirst, capitalized, upper_of_isAlphanum (isAlphanum_of_isLower hc)]

theorem toList_spelled {path : String} (h : IsSnakePath path) :
    (spelled path).toList = (pathSegments path).flatMap capitalized := by
  have hsegments : segments path = (pathSegments path).map String.ofList := by
    unfold pathSegments
    split
    · next hempty => rw [hempty, segments_empty, List.map_nil]
    · next hfull =>
      have hkept : (splitPath path.toList).filter (fun s => !s.isEmpty) = splitPath path.toList := by
        refine List.filter_eq_self.2 fun segment hsegment => ?_
        have hsnake := h segment (by rw [pathSegments, if_neg hfull]; exact hsegment)
        obtain ⟨c, rest, rfl, -⟩ := exists_of_isSnake hsnake
        rfl
      rw [segments, hkept]
  rw [spelled, hsegments, String.toList_join, List.map_map, List.flatMap_map, List.flatMap_def,
    List.flatMap_def]
  exact congrArg List.flatten
    (List.map_congr_left fun segment hsegment => toList_upperFirst (h segment hsegment))

/-- **Paths in snake case have names of their own.** Below one base, two paths whose segments are in
snake case have the same name, or the same factory, only if they are the same path. -/
theorem below_injective_of_snake (base p q : String) (hp : IsSnakePath p) (hq : IsSnakePath q) :
    ((below base p).qualified = (below base q).qualified ↔ p = q) ∧
      ((below base p).factory = (below base q).factory ↔ p = q) := by
  have hnames : (below base p).qualified = (below base q).qualified → p = q := by
    intro h
    have hspelled : spelled p = spelled q := by simpa [below_eq, of] using h
    have hsegments : pathSegments p = pathSegments q := by
      refine flatMap_capitalized_inj hp hq ?_
      rw [← toList_spelled hp, hspelled, toList_spelled hq]
    rw [← String.toList_inj, ← intercalate_pathSegments, hsegments, intercalate_pathSegments]
  refine ⟨⟨hnames, fun h => h ▸ rfl⟩, fun h => hnames ?_, fun h => h ▸ rfl⟩
  simpa [below, of, factoryFor] using h

/-- A key with an underscore is not taken for two keys. -/
theorem below_injective_of_snake_owner :
    IsSnakePath "owner.first_pet2" ∧ IsSnakePath "owner_first.pet2" ∧
      (below "Home" "owner.first_pet2").qualified ≠ (below "Home" "owner_first.pet2").qualified ∧
      (below "Home" "owner.first_pet2").factory ≠ (below "Home" "owner_first.pet2").factory := by
  have hp : IsSnakePath "owner.first_pet2" := by decide
  have hq : IsSnakePath "owner_first.pet2" := by decide
  have h := below_injective_of_snake "Home" _ _ hp hq
  refine ⟨hp, hq, ?_, ?_⟩
  · rw [ne_eq, h.1]
    decide
  · rw [ne_eq, h.2]
    decide

end ShapeName

end OperationSamples
