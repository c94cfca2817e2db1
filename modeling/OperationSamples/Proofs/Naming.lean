import OperationSamples.Name

/-!
Laws of names.

The name of a nested shape is its base followed by what the path spells: `spelled` sends the path
through a further key to one more piece at the end. A name therefore depends on base and relative
path only through the text they spell together.

No name of a shape starts with a small `a`, whatever texts operations, keys and types are called.
Every factory's name does. A name and a factory's name are never the same text.
-/

namespace OperationSamples

namespace ShapeName

/-! ### Paths -/

theorem splitPath_ne_nil (path : List Char) : splitPath path ≠ [] := by
  cases path with
  | nil => simp [splitPath]
  | cons c rest =>
    simp only [splitPath]
    split
    · simp
    · split <;> simp

/-- A dot separates the segments before it from those after it. -/
theorem splitPath_append (first second : List Char) :
    splitPath (first ++ '.' :: second) = splitPath first ++ splitPath second := by
  induction first with
  | nil => simp [splitPath]
  | cons c rest ih =>
    by_cases hc : c = '.'
    · simp [splitPath, hc, ih]
    · cases hsplit : splitPath rest with
      | nil => exact absurd hsplit (splitPath_ne_nil rest)
      | cons segment others => simp [splitPath, hc, ih, hsplit]

theorem segments_empty : segments "" = [] := by simp [segments, splitPath]

theorem segments_dot (first second : String) :
    segments (first ++ "." ++ second) = segments first ++ segments second := by
  have hchars : (first ++ "." ++ second).toList = first.toList ++ '.' :: second.toList := by simp
  simp only [segments, hchars, splitPath_append, List.filter_append, List.map_append]

/-- A path that is led on by a key has the segments of both. -/
theorem segments_joinPath (path key : String) :
    segments (joinPath [path, key]) = segments path ++ segments key := by
  by_cases hpath : path = ""
  · by_cases hkey : key = ""
    · simp [joinPath, hpath, hkey, segments_empty]
    · simp [joinPath, hpath, hkey, segments_empty]
  · by_cases hkey : key = ""
    · simp [joinPath, hpath, hkey, segments_empty]
    · have hjoin : joinPath [path, key] = path ++ "." ++ key := by
        simp [joinPath, hpath, hkey, String.intercalate_cons_cons]
      rw [hjoin, segments_dot]

/-- What a path contributes to a name. -/
def spelled (path : String) : String := String.join ((segments path).map upperFirst)

theorem below_eq (base path : String) : below base path = of (base ++ spelled path) := rfl

@[simp] theorem spelled_empty : spelled "" = "" := by simp [spelled, segments_empty]

theorem spelled_joinPath (path key : String) :
    spelled (joinPath [path, key]) = spelled path ++ spelled key := by
  simp only [spelled, segments_joinPath, List.map_append, String.join_append]

/-- The name below a path that is led on by a key: one more piece at the end. -/
theorem below_joinPath (base path key : String) :
    below base (joinPath [path, key]) = of ((below base path).qualified ++ spelled key) := by
  rw [below_eq, spelled_joinPath, below_eq, ← String.append_assoc]
  rfl

end ShapeName

/-! ### First letters -/

/-- Whether a text starts the way the names of factories do. -/
def startsSmall (text : List Char) : Bool := text.head? == some 'a'

theorem startsSmall_append {first second : List Char} (hfirst : startsSmall first = false)
    (hsecond : startsSmall second = false) : startsSmall (first ++ second) = false := by
  cases first with
  | nil => simpa using hsecond
  | cons c rest => simpa [startsSmall] using hfirst

namespace Text

theorem ofNat_ne_small {n : Nat} (h : n ≠ 97) : Char.ofNat n ≠ 'a' := by
  intro heq
  have hnat : (Char.ofNat n).toNat = 97 := by rw [heq]; rfl
  by_cases hvalid : n.isValidChar
  · rw [Char.ofNat, dif_pos hvalid] at hnat
    exact h hnat
  · rw [Char.ofNat, dif_neg hvalid] at hnat
    cases hnat

/-- No image of a special character starts with a small `a`. -/
theorem upperSpecials_large :
    upperSpecials.all (fun entry => entry.2.head?.any fun n => n != 97) = true := by decide

/-- No stretch of regular characters has a small `a` among its images, ASCII aside. -/
theorem upperShifts_large :
    upperShifts.all (fun s => !(s.stretch.contains (97 - s.distance).toNat)
      || (97 - s.distance).toNat < 128) = true := by decide

theorem toUpper_ne_small {c : Char} (h : c.toNat < 128) : c.toUpper ≠ 'a' := by
  have hall : ∀ n : Fin 128, (Char.ofNat n).toUpper ≠ 'a' := by decide
  have hc := hall ⟨c.toNat, h⟩
  simpa [Char.ofNat_toNat] using hc

/-- Upper case never gives a small `a`, and always something. -/
theorem upper_head (c : Char) : ∃ first rest, upper c = first :: rest ∧ first ≠ 'a' := by
  unfold upper
  split
  · next h => exact ⟨_, _, rfl, toUpper_ne_small h⟩
  · next hlarge =>
    unfold mapCase
    split
    · next entry hentry =>
      have hmem := List.mem_of_find?_eq_some hentry
      have hhead := List.all_eq_true.1 upperSpecials_large entry hmem
      cases himage : entry.2 with
      | nil => simp [himage] at hhead
      | cons n others =>
        have hn : n ≠ 97 := by simpa [himage] using hhead
        exact ⟨_, _, rfl, ofNat_ne_small hn⟩
    · split
      · next s hs =>
        have hmem := List.mem_of_find?_eq_some hs
        have hcontains : s.stretch.contains c.toNat = true := by simpa using List.find?_some hs
        have hshift := List.all_eq_true.1 upperShifts_large s hmem
        refine ⟨_, _, rfl, ofNat_ne_small ?_⟩
        intro himage
        have hsource : (97 - s.distance).toNat = c.toNat := by omega
        rw [hsource, hcontains] at hshift
        simp at hshift
        omega
      · refine ⟨_, _, rfl, ?_⟩
        rintro rfl
        exact hlarge (by decide)

theorem startsSmall_pascal (text : List Char) : startsSmall (pascal text) = false := by
  unfold pascal
  split
  · rfl
  · next c rest _ =>
    obtain ⟨first, others, hupper, hne⟩ := upper_head c
    simp [hupper, startsSmall, hne]

end Text

namespace ShapeName

theorem startsSmall_upperFirst (segment : String) :
    startsSmall (upperFirst segment).toList = false := by
  unfold upperFirst
  split
  · rfl
  · next c rest _ =>
    obtain ⟨first, others, hupper, hne⟩ := Text.upper_head c
    simp [hupper, startsSmall, hne]

theorem startsSmall_join {texts : List String}
    (h : ∀ text ∈ texts, startsSmall text.toList = false) :
    startsSmall (String.join texts).toList = false := by
  induction texts with
  | nil => rfl
  | cons text rest ih =>
    rw [String.join_cons, String.toList_append]
    exact startsSmall_append (h text (by simp)) (ih fun x hx => h x (by simp [hx]))

theorem startsSmall_spelled (path : String) : startsSmall (spelled path).toList = false := by
  refine startsSmall_join ?_
  intro text htext
  obtain ⟨segment, -, rfl⟩ := List.mem_map.1 htext
  exact startsSmall_upperFirst segment

theorem startsSmall_operationName (name : String) :
    startsSmall (operationName name).toList = false := by
  unfold operationName
  dsimp only
  split
  · next h =>
    cases hchars : name.toList with
    | nil => rfl
    | cons c rest =>
      have hupper : Text.isUpper c = true := by
        simp only [hchars, List.head?_cons, Option.map_some, Option.getD_some,
          Bool.and_eq_true] at h
        exact h.1
      have hne : c ≠ 'a' := by
        rintro rfl
        revert hupper
        decide
      simp [startsSmall, hne]
  · simpa using Text.startsSmall_pascal name.toList

/-- A name that a shape can have: its factory is named after it, and the two cannot be mistaken for
each other. -/
structure Proper (name : ShapeName) : Prop where
  factory : name.factory = factoryFor name.qualified
  large : startsSmall name.qualified.toList = false

theorem proper_of {qualified : String} (h : startsSmall qualified.toList = false) :
    (of qualified).Proper := ⟨rfl, h⟩

theorem proper_root {addSuffix : Bool} {name : String} {kind : ArtifactKind} {root : ShapeName}
    (h : root? addSuffix name kind = some root) : root.Proper := by
  unfold root? at h
  split at h
  · cases kind <;> simp only [ArtifactKind.suffix?, Option.map_some, Option.map_none,
      Option.some.injEq, reduceCtorEq] at h
    all_goals
      subst h
      refine proper_of ?_
      rw [String.toList_append]
      exact startsSmall_append (startsSmall_operationName name) (by decide)
  · cases h
    exact proper_of (startsSmall_operationName name)

theorem proper_variant {qualified : String} (h : startsSmall qualified.toList = false)
    (member : String) : (variant qualified member).Proper := by
  refine proper_of ?_
  rw [String.append_assoc, String.toList_append, String.toList_append]
  exact startsSmall_append h rfl

theorem proper_variantAt {qualified : String} (h : startsSmall qualified.toList = false)
    (member unionPath : String) : (variantAt qualified member unionPath).Proper := by
  refine proper_of ?_
  simp only [String.append_assoc]
  rw [String.toList_append, String.toList_append]
  exact startsSmall_append h rfl

/-- The name of a factory starts with a small `a`. -/
theorem startsSmall_factoryFor (qualified : String) :
    startsSmall (factoryFor qualified).toList = true := by
  simp [factoryFor, startsSmall]

/-- No shape is called what a factory is called. -/
theorem Proper.qualified_ne_factory {name other : ShapeName} (h : name.Proper) (h' : other.Proper) :
    name.qualified ≠ other.factory := by
  intro heq
  have hsmall := startsSmall_factoryFor other.qualified
  rw [← h'.factory, ← heq, h.large] at hsmall
  cases hsmall

/-- Factories differ when names do. -/
theorem factoryFor_inj {qualified other : String} :
    factoryFor qualified = factoryFor other ↔ qualified = other :=
  String.append_right_inj "a"

end ShapeName

end OperationSamples
