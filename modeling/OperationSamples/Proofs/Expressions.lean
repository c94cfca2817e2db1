import OperationSamples.Artifact.RawExpression
import OperationSamples.Proofs.CodeExpressions

/-!
Expressions of samples.

A sample is a value whose texts are made of characters, and its expression is the one of that value.
So it is known from its expression, also where the expression is written before the sample has been
brought down to JSON.
-/

namespace OperationSamples

namespace Sample

mutual

/-- A sample as a value that has not been brought down to JSON. -/
def toRaw : Sample → RawValue
  | .null => .null
  | .bool b => .bool b
  | .int n => .int n
  | .float x => .float x
  | .str s => .text s
  | .arr items => .list (toRaws items)
  | .obj members => .mapping (toEntries members)
  | .factory name => .factory name

def toRaws : List Sample → List RawValue
  | [] => []
  | item :: rest => toRaw item :: toRaws rest

def toEntries : List (String × Sample) → List (RawValue × RawValue)
  | [] => []
  | (key, value) :: rest => (.text key, toRaw value) :: toEntries rest

end

end Sample

namespace CodeValue

mutual

theorem keysUnpaired_ofSample : ∀ v : Sample, (ofSample v).keysUnpaired
  | .null => rfl
  | .bool _ => rfl
  | .int _ => rfl
  | .float _ => rfl
  | .str _ => rfl
  | .factory _ => rfl
  | .arr items => itemsUnpaired_ofSamples items
  | .obj members => membersUnpaired_ofMembers members

theorem itemsUnpaired_ofSamples : ∀ items : List Sample, itemsUnpaired (ofSamples items)
  | [] => rfl
  | item :: rest => by
    rw [ofSamples, itemsUnpaired, keysUnpaired_ofSample item, itemsUnpaired_ofSamples rest]
    rfl

theorem membersUnpaired_ofMembers : ∀ members : List (String × Sample),
    membersUnpaired (ofMembers members)
  | [] => rfl
  | (key, value) :: rest => by
    rw [ofMembers, membersUnpaired, CodeText.isUnpaired_ofString, keysUnpaired_ofSample value,
      membersUnpaired_ofMembers rest]
    rfl

end

mutual

theorem ofSample_inj {v w : Sample} (h : ofSample v = ofSample w) : v = w := by
  cases v with
  | str text =>
    cases w with
    | str other =>
      rw [ofSample, ofSample, CodeValue.text.injEq, CodeText.ofString_inj] at h
      rw [h]
    | _ => cases h
  | arr items =>
    cases w with
    | arr more =>
      rw [ofSample, ofSample, list.injEq] at h
      rw [ofSamples_inj h]
    | _ => cases h
  | obj members =>
    cases w with
    | obj more =>
      rw [ofSample, ofSample, object.injEq] at h
      rw [ofMembers_inj h]
    | _ => cases h
  | _ =>
    cases w with
    | str => cases h
    | arr => cases h
    | obj => cases h
    | _ => cases h <;> rfl

theorem ofSamples_inj {first second : List Sample} (h : ofSamples first = ofSamples second) :
    first = second := by
  match first, second with
  | [], [] => rfl
  | [], _ :: _ => cases h
  | _ :: _, [] => cases h
  | item :: rest, other :: more =>
    rw [ofSamples, ofSamples, List.cons.injEq] at h
    rw [ofSample_inj h.1, ofSamples_inj h.2]

theorem ofMembers_inj {first second : List (String × Sample)}
    (h : ofMembers first = ofMembers second) : first = second := by
  match first, second with
  | [], [] => rfl
  | [], _ :: _ => cases h
  | _ :: _, [] => cases h
  | (key, value) :: rest, (name, other) :: more =>
    rw [ofMembers, ofMembers, List.cons.injEq, Prod.mk.injEq, CodeText.ofString_inj] at h
    rw [h.1.1, ofSample_inj h.1.2, ofMembers_inj h.2]

end

end CodeValue

namespace TypeScript

open CodeText (ofString)

theorem codeKey_ofString (key : String) : codeKey (ofString key) = ofString (propertyKey key) := by
  have hbare : isBare (ofString key) = isIdentifier (withoutFinalNewline key.toList) := by
    simp [isBare, ofString, Function.comp_def]
  rw [codeKey, propertyKey, hbare]
  split
  · rfl
  · exact Quoting.quotePoints_ofString .ascii key

mutual

theorem codeExpression_ofSample : ∀ (v : Sample) (depth : Int),
    codeExpression depth (.ofSample v) = ofString (expression depth v)
  | .null, _ => rfl
  | .bool _, _ => rfl
  | .int _, _ => rfl
  | .float _, _ => rfl
  | .str s, _ => Quoting.quotePoints_ofString .plain s
  | .factory _, _ => rfl
  | .arr items, depth => by
    rw [CodeValue.ofSample, codeExpression, codeExpressions_ofSamples items depth, expression,
      CodeText.ofString_append, CodeText.ofString_append, CodeText.ofString_intercalate]
  | .obj [], _ => rfl
  | .obj ((key, value) :: rest), depth => by
    have hmembers := codeProperties_ofMembers ((key, value) :: rest) (depth + 1)
    simp only [CodeValue.ofSample, CodeValue.ofMembers] at hmembers ⊢
    simp only [codeExpression, hmembers, expression, CodeText.ofString_append,
      CodeText.ofString_intercalate, List.append_assoc]

theorem codeExpressions_ofSamples : ∀ (items : List Sample) (depth : Int),
    codeExpressions depth (CodeValue.ofSamples items) = (expressions depth items).map ofString
  | [], _ => rfl
  | item :: rest, depth => by
    rw [CodeValue.ofSamples, codeExpressions, codeExpression_ofSample item depth,
      codeExpressions_ofSamples rest depth, expressions, List.map_cons]

theorem codeProperties_ofMembers : ∀ (members : List (String × Sample)) (depth : Int),
    codeProperties depth (CodeValue.ofMembers members) = (properties depth members).map ofString
  | [], _ => rfl
  | (key, value) :: rest, depth => by
    rw [CodeValue.ofMembers, codeProperties, codeKey_ofString, codeExpression_ofSample value depth,
      codeProperties_ofMembers rest depth, properties, List.map_cons]
    simp only [CodeText.ofString_append]

end

/-! ### Values that have not been brought down -/

mutual

theorem rawExpression?_toRaw : ∀ (v : Sample) (depth : Int),
    rawExpression? depth v.toRaw = some (expression depth v)
  | .null, _ => rfl
  | .bool _, _ => rfl
  | .int _, _ => rfl
  | .float _, _ => rfl
  | .str _, _ => rfl
  | .factory _, _ => rfl
  | .arr items, depth => by
    rw [Sample.toRaw, rawExpression?, rawExpressions?_toRaws items depth, expression]
    rfl
  | .obj [], _ => rfl
  | .obj (member :: rest), depth => by
    have hmembers := rawProperties?_toEntries (member :: rest) (depth + 1)
    simp only [Sample.toRaw, Sample.toEntries] at hmembers ⊢
    simp only [rawExpression?, hmembers, expression, Option.map_some]

theorem rawExpressions?_toRaws : ∀ (items : List Sample) (depth : Int),
    rawExpressions? depth (Sample.toRaws items) = some (expressions depth items)
  | [], _ => rfl
  | item :: rest, depth => by
    rw [Sample.toRaws, rawExpressions?, rawExpression?_toRaw item depth,
      rawExpressions?_toRaws rest depth, expressions]

theorem rawProperties?_toEntries : ∀ (members : List (String × Sample)) (depth : Int),
    rawProperties? depth (Sample.toEntries members) = some (properties depth members)
  | [], _ => rfl
  | (key, value) :: rest, depth => by
    rw [Sample.toEntries, rawProperties?, rawExpression?_toRaw value depth,
      rawProperties?_toEntries rest depth, properties]

end

/-- **Expressions are unambiguous, but for the keys of objects.** Samples made of null, truth
values, whole numbers, texts, lists, objects and references to factories under identifiers have the
same expression only if they are the same. This is also true of values with texts of code points, as
long as no key holds the two halves of a surrogate pair side by side. In general such values have
the same expression exactly if they are the same with all keys split. -/
theorem expression_eq_iff (depth : Int) :
    (∀ v w : CodeValue, v.plain → w.plain →
      (codeExpression depth v = codeExpression depth w ↔ v.splitKeys = w.splitKeys) ∧
      (v.keysUnpaired → w.keysUnpaired →
        (codeExpression depth v = codeExpression depth w ↔ v = w))) ∧
    (∀ v : Sample, codeExpression depth (.ofSample v) = .ofString (expression depth v) ∧
      rawExpression? depth v.toRaw = some (expression depth v)) ∧
    ∀ v w : Sample, (CodeValue.ofSample v).plain → (CodeValue.ofSample w).plain →
      (expression depth v = expression depth w ↔ v = w) := by
  have hunpaired : ∀ {v w : CodeValue}, v.plain → w.plain → v.keysUnpaired → w.keysUnpaired →
      (codeExpression depth v = codeExpression depth w ↔ v = w) := by
    intro v w hv hw hkeys hkeys'
    rw [codeExpression_eq_iff hv hw]
    exact ⟨CodeValue.splitKeys_inj hkeys hkeys', congrArg _⟩
  refine ⟨fun v w hv hw => ⟨codeExpression_eq_iff hv hw depth, hunpaired hv hw⟩, fun v =>
    ⟨codeExpression_ofSample v depth, rawExpression?_toRaw v depth⟩, fun v w hv hw => ?_⟩
  rw [← CodeText.ofString_inj, ← codeExpression_ofSample, ← codeExpression_ofSample,
    hunpaired hv hw (CodeValue.keysUnpaired_ofSample v) (CodeValue.keysUnpaired_ofSample w)]
  exact ⟨CodeValue.ofSample_inj, congrArg _⟩

/-- Texts that look like calls, keys that end in a newline and single halves of pairs are kept
apart. -/
theorem expression_eq_iff_pets :
    let v := Sample.arr [.str "aPet()", .obj [("a\n", .arr [.null, .int (-1)])]]
    let w := Sample.arr [.factory "aPet", .obj [("a", .arr [.factory "null", .str "-1"])]]
    let high := CodeValue.object [([0xD800, 0x61], .null)]
    let low := CodeValue.object [([0x61, 0xDC00], .null)]
    ((CodeValue.ofSample v).plain ∧ (CodeValue.ofSample w).plain ∧
      expression 1 v ≠ expression 1 w) ∧
    (high.plain ∧ low.plain ∧ high.keysUnpaired ∧ low.keysUnpaired ∧
      codeExpression 1 high ≠ codeExpression 1 low) := by
  intro v w high low
  obtain ⟨hcode, -, hsample⟩ := expression_eq_iff 1
  refine ⟨⟨by decide, by decide, fun h => ?_⟩, by decide, by decide, by decide, by decide,
    fun h => ?_⟩
  · have hne : v ≠ w := by simp [v, w]
    exact hne ((hsample v w (by decide) (by decide)).1 h)
  · have hne : high ≠ low := by simp [high, low]
    exact hne (((hcode high low (by decide) (by decide)).2 (by decide) (by decide)).1 h)

/-- A key with the two halves of a pair is written like the character, though a text is not. -/
theorem key_of_pair_like_character :
    let pair : CodeText := [0xD800, 0xDC00]
    let character : CodeText := [0x10000]
    let v := CodeValue.object [(pair, .null)]
    let w := CodeValue.object [(character, .null)]
    let written := CodeText.ofString "\x7b\n    \"\\ud800\\udc00\": null,\n\x7d"
    v ≠ w ∧ v.plain ∧ w.plain ∧ codeExpression 0 v = written ∧ codeExpression 0 w = written ∧
      codeExpression 0 (.text pair) ≠ codeExpression 0 (.text character) := by
  refine ⟨by simp, rfl, rfl, ?_, ?_, ?_⟩
  · decide
  · decide
  · decide

end TypeScript

end OperationSamples
