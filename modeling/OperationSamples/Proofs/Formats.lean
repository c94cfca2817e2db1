import OperationSamples.Artifact.Document
import OperationSamples.Proofs.Order

/-!
The two output formats carry the same information.

The JSON document of an artifact names everything that its declaration shows: the names, the kind,
the operation, and a name, a type and a flag for each line of the type. Only the sample needs to be
read back, since a reference to a factory is an object in JSON. A sample in which no other object
looks like a reference (`Sample.unambiguous`) is read back as it was (`Sample.read_toJson`), and so
the declarations can be written from the documents (`TypeScript.declarationOf`).
-/

namespace OperationSamples

/-! ### Reading samples -/

namespace Sample

mutual

/-- Whether no object in a sample has the key of a reference as its only key. -/
def unambiguous : Sample → Bool
  | .arr items => unambiguousItems items
  | .obj members => members.map Prod.fst != [factoryKey] && unambiguousMembers members
  | _ => true

def unambiguousItems : List Sample → Bool
  | [] => true
  | item :: rest => item.unambiguous && unambiguousItems rest

def unambiguousMembers : List (String × Sample) → Bool
  | [] => true
  | (_, value) :: rest => value.unambiguous && unambiguousMembers rest

end

/-- The factory that an object with the given members refers to. -/
def reference? : List (String × Json) → Option String
  | [(key, .str name)] => if key == factoryKey then some name else none
  | _ => none

mutual

/-- The sample that was written as the given JSON. -/
def read : Json → Sample
  | .null => .null
  | .bool b => .bool b
  | .int n => .int n
  | .float x => .float x
  | .str s => .str s
  | .arr items => .arr (readItems items)
  | .obj members =>
    match reference? members with
    | some name => .factory name
    | none => .obj (readMembers members)

def readItems : List Json → List Sample
  | [] => []
  | item :: rest => read item :: readItems rest

def readMembers : List (String × Json) → List (String × Sample)
  | [] => []
  | (key, value) :: rest => (key, read value) :: readMembers rest

end

theorem keys_toMembers (members : List (String × Sample)) :
    (toMembers members).map Prod.fst = members.map Prod.fst := by
  induction members with
  | nil => rfl
  | cons member rest ih => rw [toMembers, List.map_cons, List.map_cons, ih]

/-- Only an object with the one key of a reference is taken for one. -/
theorem reference?_eq_none {members : List (String × Json)}
    (h : members.map Prod.fst ≠ [factoryKey]) : reference? members = none := by
  unfold reference?
  split
  · next key name =>
    have hkey : key ≠ factoryKey := fun heq => h (by rw [heq]; rfl)
    rw [if_neg (by simpa using hkey)]
  · rfl

mutual

/-- A sample is read back as it was written. -/
theorem read_toJson : ∀ s : Sample, s.unambiguous → read s.toJson = s
  | .null, _ => rfl
  | .bool _, _ => rfl
  | .int _, _ => rfl
  | .float _, _ => rfl
  | .str _, _ => rfl
  | .factory _, _ => rfl
  | .arr items, h => by
    rw [unambiguous] at h
    rw [toJson, read, readItems_toJsons items h]
  | .obj members, h => by
    rw [unambiguous, Bool.and_eq_true, bne_iff_ne] at h
    have hnone : reference? (toMembers members) = none :=
      reference?_eq_none (keys_toMembers members ▸ h.1)
    rw [toJson, read, hnone, readMembers_toMembers members h.2]

theorem readItems_toJsons : ∀ items : List Sample,
    unambiguousItems items → readItems (toJsons items) = items
  | [], _ => rfl
  | item :: rest, h => by
    rw [unambiguousItems, Bool.and_eq_true] at h
    rw [toJsons, readItems, read_toJson item h.1, readItems_toJsons rest h.2]

theorem readMembers_toMembers : ∀ members : List (String × Sample),
    unambiguousMembers members → readMembers (toMembers members) = members
  | [], _ => rfl
  | (key, value) :: rest, h => by
    rw [unambiguousMembers, Bool.and_eq_true] at h
    rw [toMembers, readMembers, read_toJson value h.1, readMembers_toMembers rest h.2]

end

end Sample

/-! ### Writing declarations from documents -/

namespace Json

/-- An object without one of its members. -/
def without (key : String) : Json → Json
  | .obj members => .obj (members.filter fun member => member.1 != key)
  | value => value

def textAt (document : Json) (key : String) : String :=
  match document.get? key with
  | some (.str text) => text
  | _ => ""

def flagAt (document : Json) (key : String) : Bool :=
  match document.get? key with
  | some (.bool flag) => flag
  | _ => false

def itemsAt (document : Json) (key : String) : List Json :=
  match document.get? key with
  | some (.arr items) => items
  | _ => []

end Json

/-- The document of an artifact, whatever file it comes from. -/
def Artifact.document (a : Artifact) : Json := a.toJson.without "location"

namespace TypeScript

/-- The line of a field that is described in JSON. -/
def lineOf (field : Json) : String :=
  propertyKey (field.textAt "name") ++ (if field.flagAt "nullable" then "?" else "") ++ ": "
    ++ field.textAt "type" ++ ";"

/-- The type and the factory of an artifact that is described in JSON. -/
def declarationOf (document : Json) : List String :=
  ["", "// " ++ document.textAt "kind" ++ " of " ++ document.textAt "operation",
      "type " ++ document.textAt "name" ++ " = \x7b"]
    ++ (document.itemsAt "fields").map (fun field => "    " ++ lineOf field)
    ++ ["\x7d;", "", "export const " ++ document.textAt "factory" ++ " = createBuilder<"
          ++ document.textAt "name" ++ ">("
          ++ expression 0 (Sample.read ((document.get? "sample").getD .null)) ++ ");"]

/-- The module of some artifacts that are described in JSON. -/
def moduleOf (documents : List Json) : String :=
  if documents.isEmpty then ""
  else String.join ((preamble ++ documents.flatMap declarationOf).map fun line => line ++ "\n")

theorem lineOf_fieldJson (field : Field Shape) :
    lineOf (Artifact.fieldJson field) = fieldLine (named field) := rfl

theorem declarationOf_document {a : Artifact} (h : (Sample.obj a.value).unambiguous) :
    declarationOf a.document = declaration a := by
  have hfields : a.document.itemsAt "fields" = a.shape.fields.map Artifact.fieldJson := rfl
  have hsample : a.document.get? "sample" = some (Sample.obj a.value).toJson := rfl
  have hlines : (a.document.itemsAt "fields").map (fun field => "    " ++ lineOf field) =
      a.shape.fields.map fun f => "    " ++ fieldLine (named f) := by
    rw [hfields, List.map_map]
    refine List.map_congr_left fun f _ => ?_
    rw [Function.comp_apply, lineOf_fieldJson]
  rw [declarationOf, hlines, hsample, Option.getD_some, Sample.read_toJson _ h]
  rfl

theorem moduleOf_documents {artifacts : List Artifact}
    (h : ∀ a ∈ artifacts, (Sample.obj a.value).unambiguous) :
    moduleOf (artifacts.map Artifact.document) = module artifacts := by
  have hdeclarations : (artifacts.map Artifact.document).flatMap declarationOf =
      artifacts.flatMap declaration := by
    rw [List.flatMap_map, List.flatMap_def, List.flatMap_def,
      List.map_congr_left fun a ha => declarationOf_document (h a ha)]
  rw [moduleOf, module, hdeclarations, List.isEmpty_map]

/-- **The declarations are a function of the documents.** Artifacts whose documents agree, one by
one and up to the files they come from, have the same module, as long as no object in their samples
has the key of a reference as its only key. -/
theorem module_of_documents (first second : List Artifact)
    (hfirst : ∀ a ∈ first, (Sample.obj a.value).unambiguous)
    (hsecond : ∀ a ∈ second, (Sample.obj a.value).unambiguous)
    (hdocuments : first.map Artifact.document = second.map Artifact.document) :
    module first = module second := by
  rw [← moduleOf_documents hfirst, hdocuments, moduleOf_documents hsecond]

theorem module_of_documents_owner : ∃ artifacts,
    (generateSamples Pets.providers Pets.schema .defaults Pets.owner).result = .ok artifacts ∧
    artifacts.length = 8 ∧
    module (artifacts.map fun a => { a with location := some "home.graphql" }) =
      module artifacts := by
  obtain ⟨artifacts, hresult, hcheck⟩ := Pets.exists_result Pets.owner
    (fun artifacts => artifacts.length == 8 &&
      artifacts.all fun a => (Sample.obj a.value).unambiguous) (by decide +kernel)
  rw [Bool.and_eq_true, beq_iff_eq, List.all_eq_true] at hcheck
  refine ⟨artifacts, hresult, hcheck.1, module_of_documents _ _ ?_ hcheck.2 ?_⟩
  · rintro _ hmem
    obtain ⟨a, ha, rfl⟩ := List.mem_map.1 hmem
    exact hcheck.2 a ha
  · rw [List.map_map]
    rfl

end TypeScript

end OperationSamples
