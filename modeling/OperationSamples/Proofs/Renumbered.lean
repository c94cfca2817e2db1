import OperationSamples.Artifact.Basic
import OperationSamples.Shape.Build

/-!
Shapes with other identities.

`Shape.renumbered` gives a shape and all shapes below it new identities. Names, types, paths and
sample values stay, and the dependencies are those from before with their new identities. How slots
are put together does not depend on identities, so it commutes with renumbering.
-/

namespace OperationSamples

variable {f : Nat → Nat}

namespace Shape

mutual

/-- A shape in which all identities, its own and those below, are replaced. -/
def renumbered (f : Nat → Nat) : Shape → Shape
  | ⟨id, name, typeName, path, depth, fields, value, dependencies⟩ =>
    ⟨f id, name, typeName, path, depth, renumberedFields f fields, value,
      renumberedAll f dependencies⟩

def renumberedFields (f : Nat → Nat) : List (Field Shape) → List (Field Shape)
  | [] => []
  | field :: rest => renumberedField f field :: renumberedFields f rest

def renumberedField (f : Nat → Nat) : Field Shape → Field Shape
  | ⟨name, isList, isNullable, content⟩ => ⟨name, isList, isNullable, renumberedContent f content⟩

def renumberedContent (f : Nat → Nat) : Content Shape → Content Shape
  | .typename literals => .typename literals
  | .scalar type => .scalar type
  | .enum literals => .enum literals
  | .shape target => .shape (renumbered f target)
  | .union members => .union (renumberedAll f members)
  | .minimal literals => .minimal literals

def renumberedAll (f : Nat → Nat) : List Shape → List Shape
  | [] => []
  | s :: rest => renumbered f s :: renumberedAll f rest

end

mutual

theorem renumbered_self : ∀ s : Shape, renumbered (fun id => id) s = s
  | ⟨id, name, typeName, path, depth, fields, value, dependencies⟩ => by
    rw [renumbered, renumberedFields_self fields, renumberedAll_self dependencies]

theorem renumberedFields_self : ∀ fields : List (Field Shape),
    renumberedFields (fun id => id) fields = fields
  | [] => rfl
  | field :: rest => by
    rw [renumberedFields, renumberedField_self field, renumberedFields_self rest]

theorem renumberedField_self : ∀ field : Field Shape, renumberedField (fun id => id) field = field
  | ⟨name, isList, isNullable, content⟩ => by
    rw [renumberedField, renumberedContent_self content]

theorem renumberedContent_self : ∀ content : Content Shape,
    renumberedContent (fun id => id) content = content
  | .typename _ => rfl
  | .scalar _ => rfl
  | .enum _ => rfl
  | .shape target => by rw [renumberedContent, renumbered_self target]
  | .union members => by rw [renumberedContent, renumberedAll_self members]
  | .minimal _ => rfl

theorem renumberedAll_self : ∀ shapes : List Shape, renumberedAll (fun id => id) shapes = shapes
  | [] => rfl
  | s :: rest => by rw [renumberedAll, renumbered_self s, renumberedAll_self rest]

end

theorem renumberedAll_eq_map (shapes : List Shape) :
    renumberedAll f shapes = shapes.map (renumbered f) := by
  induction shapes with
  | nil => rfl
  | cons s rest ih => rw [renumberedAll, ih, List.map_cons]

theorem renumberedField_eq_map (field : Field Shape) :
    renumberedField f field = field.map (renumbered f) := by
  obtain ⟨name, isList, isNullable, content⟩ := field
  cases content <;>
    simp [renumberedField, renumberedContent, renumberedAll_eq_map, Field.map, Content.map]

theorem renumberedFields_eq_map (fields : List (Field Shape)) :
    renumberedFields f fields = fields.map (Field.map (renumbered f)) := by
  induction fields with
  | nil => rfl
  | cons field rest ih => rw [renumberedFields, renumberedField_eq_map, ih, List.map_cons]

theorem renumbered_eq (s : Shape) :
    s.renumbered f =
      { s with
        id := f s.id
        fields := s.fields.map (Field.map (renumbered f))
        dependencies := s.dependencies.map (renumbered f) } := by
  obtain ⟨id, name, typeName, path, depth, fields, value, dependencies⟩ := s
  rw [renumbered, renumberedFields_eq_map, renumberedAll_eq_map]

@[simp] theorem id_renumbered (s : Shape) : (s.renumbered f).id = f s.id := by
  rw [renumbered_eq]

@[simp] theorem name_renumbered (s : Shape) : (s.renumbered f).name = s.name := by
  rw [renumbered_eq]

@[simp] theorem dependencies_renumbered (s : Shape) :
    (s.renumbered f).dependencies = s.dependencies.map (renumbered f) := by
  rw [renumbered_eq]

/-- Samples refer to shapes by name, so new identities do not show in them. -/
@[simp] theorem value_renumbered (s : Shape) : (s.renumbered f).value = s.value := by
  rw [renumbered_eq]

end Shape

def Variant.renumbered (f : Nat → Nat) (v : Variant) : Variant :=
  { v with shape := v.shape.renumbered f }

def Built.renumbered (f : Nat → Nat) (b : Built) : Built :=
  ⟨b.shape.renumbered f, b.variants.map (Variant.renumbered f)⟩

def Artifact.renumbered (f : Nat → Nat) (a : Artifact) : Artifact :=
  { a with shape := a.shape.renumbered f }

theorem Artifact.renumbered_self (a : Artifact) : a.renumbered (fun id => id) = a := by
  rw [renumbered, Shape.renumbered_self]

namespace Slot

def renumbered (f : Nat → Nat) (slot : Slot) : Slot where
  field := slot.field.map (Shape.renumbered f)
  value := slot.value
  dependencies := slot.dependencies.map (Shape.renumbered f)
  alternatives := slot.alternatives.map (Variant.renumbered f)

theorem ofObject_renumbered (info : FieldInfo) (child : Built) :
    ofObject info (child.renumbered f) = (ofObject info child).renumbered f := by
  simp [ofObject, fieldOf, renumbered, Field.map, Content.map, Built.renumbered,
    Variant.renumbered]

theorem memberAlternatives_renumbered (info : FieldInfo) (member : String) (built : Built) :
    memberAlternatives info member (built.renumbered f) =
      (memberAlternatives info member built).map (Variant.renumbered f) := by
  simp [memberAlternatives, Built.renumbered, Variant.renumbered]

theorem ofUnion_renumbered (info : FieldInfo) (members : List (String × Built)) :
    ofUnion info (members.map fun m => (m.1, m.2.renumbered f)) =
      (ofUnion info members).renumbered f := by
  have halternatives : (members.map fun m => (m.1, m.2.renumbered f)).flatMap
      (fun m => memberAlternatives info m.1 m.2) =
      (members.flatMap fun m => memberAlternatives info m.1 m.2).map (Variant.renumbered f) := by
    induction members with
    | nil => rfl
    | cons m rest ih =>
      simp only [List.map_cons, List.flatMap_cons, List.map_append, ih,
        memberAlternatives_renumbered]
  simp only [ofUnion, halternatives]
  simp [fieldOf, renumbered, Field.map, Content.map, Built.renumbered, Function.comp_def]

/-- An alternative together with its position, with other identities. -/
def placedRenumbered (f : Nat → Nat) (placed : Nat × Variant) : Nat × Variant :=
  (placed.1, placed.2.renumbered f)

theorem placedAlternatives_renumbered (slots : List Slot) :
    placedAlternatives (slots.map (renumbered f)) =
      (placedAlternatives slots).map (placedRenumbered f) := by
  simp [placedAlternatives, List.zipIdx_map, List.flatMap_map, List.map_flatMap, renumbered,
    placedRenumbered, Function.comp_def]

theorem fixed_renumbered (slot : Slot) (alternative : Variant) :
    (slot.renumbered f).fixed (alternative.renumbered f) =
      (slot.fixed alternative).renumbered f := by
  simp [fixed, renumbered, Field.map, Content.map, Variant.renumbered]

theorem fixedAt_renumbered (slots : List Slot) (position : Nat) (alternative : Variant) :
    fixedAt (slots.map (renumbered f)) position (alternative.renumbered f) =
      (fixedAt slots position alternative).map (renumbered f) := by
  simp only [fixedAt]
  induction slots generalizing position with
  | nil => simp
  | cons slot rest ih =>
    cases position with
    | zero => simp [fixed_renumbered]
    | succ position => simp [ih]

end Slot

/-- Putting a shape together commutes with renumbering. -/
theorem Shape.ofSlots_renumbered (id : Nat) (name : ShapeName) (typeName path : String)
    (depth : Nat) (slots : List Slot) :
    (ofSlots id name typeName path depth slots).renumbered f =
      ofSlots (f id) name typeName path depth (slots.map (Slot.renumbered f)) := by
  rw [renumbered_eq]
  simp [ofSlots, Slot.renumbered, Field.map, List.flatMap_map, List.map_flatMap,
    Function.comp_def]

theorem haveOnePath_renumbered (placed : List (Nat × Variant)) :
    Shaper.haveOnePath (placed.map (Slot.placedRenumbered f)) = Shaper.haveOnePath placed := by
  cases placed with
  | nil => rfl
  | cons p rest =>
    simp [Shaper.haveOnePath, Slot.placedRenumbered, Variant.renumbered, Function.comp_def]

end OperationSamples
