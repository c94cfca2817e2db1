import OperationSamples.Proofs.Filing
import OperationSamples.Schema.Issues

/-!
When a condition applies.

A condition can hold of a value of a type when some object type has values of both types: they
overlap (`Schema.Overlap`). `Analysis.conditionTarget` does not look for such an object type. It asks
whether the two types are one, or one declares the other as an interface, and reports any other
condition as one that can never hold.

For an object type and an interface, or two object types, that comes to the same. For a union, and
for two interfaces neither of which declares the other, it does not, as soon as the types overlap
(`impossible_only_if_disjoint_iff`).
-/

namespace OperationSamples

namespace TypeDef

/-- Whether a type declares another as one of its interfaces. -/
def Declares (t interface : TypeDef) : Prop := interface.isInterface ∧ interface.name ∈ t.interfaces

/-- Whether the values of an object type are values of a type: of the object type itself, of an
interface that it declares, of a union that has it as a member. -/
def Covers (t object : TypeDef) : Prop :=
  match t.body with
  | .union members => object.name ∈ members
  | .interface _ _ => t.name ∈ object.interfaces
  | _ => object.name = t.name

theorem isComposite_of_mem_interfaces {t : TypeDef} {name : String} (h : name ∈ t.interfaces) :
    t.isComposite := by
  cases hbody : t.body <;>
    simp_all [interfaces, isComposite, isObject, isInterface, kind?]

theorem isComposite_iff {t : TypeDef} :
    t.isComposite = true ↔ t.isObject = true ∨ t.isInterface = true := by
  simp [isComposite]

theorem not_isInterface_of_isObject {t : TypeDef} (h : t.isObject) : t.isInterface = false := by
  have hkind : t.kind? = some .object := by simpa [isObject] using h
  simp [isInterface, hkind]

theorem not_isComposite_of_isUnion {t : TypeDef} (h : t.isUnion) : t.isComposite = false := by
  have hkind : t.kind? = some .union := by simpa [isUnion] using h
  simp [isComposite, isObject, isInterface, hkind]

theorem covers_of_isObject {t object : TypeDef} (h : t.isObject) :
    t.Covers object ↔ object.name = t.name := by
  cases hbody : t.body <;> simp_all [Covers, isObject, kind?]

theorem covers_of_isInterface {t object : TypeDef} (h : t.isInterface) :
    t.Covers object ↔ object.Declares t := by
  cases hbody : t.body <;> simp_all [Covers, Declares, isInterface, kind?]

end TypeDef

namespace Schema

variable {schema : Schema} {t u : TypeDef}

/-- Whether some object type of the schema has values of both types. -/
def Overlap (schema : Schema) (t u : TypeDef) : Prop :=
  ∃ object, schema.Finds object ∧ object.isObject ∧ t.Covers object ∧ u.Covers object

theorem Finds.eq_of_name (ht : schema.Finds t) (hu : schema.Finds u) (hname : t.name = u.name) :
    t = u := by
  rw [Finds, hname, hu] at ht
  exact (Option.some.inj ht).symm

theorem isInterface_and_isSubType :
    (t.isInterface && isSubType t u) = true ↔ u.Declares t := by
  have hcomposite : t.name ∈ u.interfaces → u.isComposite := TypeDef.isComposite_of_mem_interfaces
  cases hbody : t.body <;>
    simp_all [isSubType, TypeDef.Declares, TypeDef.isInterface, TypeDef.kind?]

theorem overlap_of_isObject (ht : schema.Finds t) (hobject : t.isObject) :
    schema.Overlap t u ↔ u.Covers t := by
  constructor
  · rintro ⟨object, hfinds, -, hcovers, hother⟩
    rwa [hfinds.eq_of_name ht ((TypeDef.covers_of_isObject hobject).1 hcovers)] at hother
  · intro hcovers
    exact ⟨t, ht, hobject, (TypeDef.covers_of_isObject hobject).2 rfl, hcovers⟩

theorem overlap_comm : schema.Overlap t u ↔ schema.Overlap u t := by
  unfold Overlap
  exact exists_congr fun object => by rw [and_comm (a := t.Covers object)]

end Schema

namespace Analysis

variable {schema : Schema} {current condition : TypeDef}

/-- What becomes of a condition on a type of the schema. -/
theorem conditionTarget_cases (current : TypeDef) (hcondition : schema.Finds condition) :
    ((condition.name = current.name ∨ current.Declares condition) ∧
      conditionTarget schema current (some condition.name) = ⟨some current, []⟩) ∨
    (condition.Declares current ∧
      conditionTarget schema current (some condition.name) = ⟨some condition, []⟩) ∨
    (condition.name ≠ current.name ∧ ¬ current.Declares condition ∧ ¬ condition.Declares current ∧
      conditionTarget schema current (some condition.name) =
        ⟨none, [.impossibleCondition condition.name current.name]⟩) := by
  by_cases hname : condition.name = current.name
  · refine .inl ⟨.inl hname, ?_⟩
    rw [conditionTarget, if_pos (by simpa using hname)]
    rfl
  have hlookup : conditionTarget schema current (some condition.name) =
      if condition.isInterface && Schema.isSubType condition current then pure (some current)
      else if current.isInterface && condition.isComposite &&
          Schema.isSubType current condition then pure (some condition)
      else ⟨none, [.impossibleCondition condition.name current.name]⟩ := by
    have hfound : schema.type? condition.name = some condition := hcondition
    rw [conditionTarget, if_neg (by simpa using hname)]
    simp only [hfound]
    rfl
  by_cases hdeclared : current.Declares condition
  · refine .inl ⟨.inr hdeclared, ?_⟩
    rw [hlookup, if_pos (Schema.isInterface_and_isSubType.2 hdeclared)]
    rfl
  rw [if_neg (mt Schema.isInterface_and_isSubType.1 hdeclared)] at hlookup
  by_cases himplements : condition.Declares current
  · have hcomposite := TypeDef.isComposite_of_mem_interfaces himplements.2
    refine .inr (.inl ⟨himplements, ?_⟩)
    rw [hlookup, if_pos (by
      rw [hcomposite, Bool.and_true]
      exact Schema.isInterface_and_isSubType.2 himplements)]
    rfl
  · refine .inr (.inr ⟨hname, hdeclared, himplements, ?_⟩)
    rw [hlookup, if_neg]
    intro htest
    rw [Bool.and_assoc, Bool.and_comm condition.isComposite, ← Bool.and_assoc] at htest
    exact himplements (Schema.isInterface_and_isSubType.1 (Bool.and_eq_true_iff.1 htest).1)

/-- A condition has no target unless it names the type itself, an interface that the type declares,
or a type that declares it. -/
theorem conditionTarget_eq_none_iff (hcondition : schema.Finds condition) :
    (conditionTarget schema current (some condition.name)).value = none ↔
      condition.name ≠ current.name ∧ ¬ current.Declares condition ∧
        ¬ condition.Declares current := by
  rcases conditionTarget_cases current hcondition with
    ⟨hsame, heq⟩ | ⟨himplements, heq⟩ | ⟨hname, hdeclared, himplements, heq⟩
  · rw [heq]
    rcases hsame with hname | hdeclared
    · simp [hname]
    · simp [hdeclared]
  · simp [heq, himplements]
  · simp [heq, hname, hdeclared, himplements]

/-- A fragment whose condition has no target is reported as one that can never apply, and what it
selects is left out. -/
theorem collect_of_no_target (hcondition : schema.Finds condition)
    (hnone : (conditionTarget schema current (some condition.name)).value = none)
    (state : Collected) (directives : List Directive) (inside : List Selection) :
    (collect schema current state (.inline (some condition.name) directives inside)).run =
      ⟨.ok state, [.impossibleCondition condition.name current.name]⟩ := by
  rcases conditionTarget_cases current hcondition with
    ⟨-, heq⟩ | ⟨-, heq⟩ | ⟨-, -, -, heq⟩
  · simp [heq] at hnone
  · simp [heq] at hnone
  · rw [collect, heq]
    rfl

/-- **Conditions reported as impossible.** Take a type with fields, and a condition on an object,
interface or union type. That the condition has no target only if the two types do not overlap holds
exactly under this proviso: if they overlap, then the condition is no union, and if both are
interfaces, they are the same or one declares the other. Without target the condition is reported as
one that can never apply, and what its fragment selects is left out. -/
theorem impossible_only_if_disjoint_iff {schema : Schema} {current condition : TypeDef}
    (hcurrent : schema.Finds current) (hfields : current.isComposite)
    (hcondition : schema.Finds condition) (hkind : condition.isComposite ∨ condition.isUnion) :
    (((conditionTarget schema current (some condition.name)).value = none →
        ¬ schema.Overlap current condition) ↔
      (schema.Overlap current condition → condition.isUnion = false ∧
        (current.isInterface → condition.isInterface → condition.name = current.name ∨
          current.Declares condition ∨ condition.Declares current))) ∧
    ((conditionTarget schema current (some condition.name)).value = none →
      ∀ state directives inside,
        (collect schema current state (.inline (some condition.name) directives inside)).run =
          ⟨.ok state, [.impossibleCondition condition.name current.name]⟩) := by
  refine ⟨?_, fun hnone => collect_of_no_target hcondition hnone⟩
  rw [conditionTarget_eq_none_iff hcondition]
  constructor
  · intro hclaim hoverlap
    have hrelated : condition.name = current.name ∨ current.Declares condition ∨
        condition.Declares current := by
      by_cases hname : condition.name = current.name
      · exact .inl hname
      by_cases hdeclared : current.Declares condition
      · exact .inr (.inl hdeclared)
      by_cases himplements : condition.Declares current
      · exact .inr (.inr himplements)
      exact absurd hoverlap (hclaim ⟨hname, hdeclared, himplements⟩)
    refine ⟨Bool.eq_false_iff.2 fun hunion => ?_, fun _ _ => hrelated⟩
    -- a union has no fields and declares nothing
    have hnoFields := TypeDef.not_isComposite_of_isUnion hunion
    rcases hrelated with hname | hdeclared | himplements
    · rw [hcondition.eq_of_name hcurrent hname, hfields] at hnoFields
      cases hnoFields
    · rw [TypeDef.isComposite_iff.2 (.inr hdeclared.1)] at hnoFields
      cases hnoFields
    · rw [TypeDef.isComposite_of_mem_interfaces himplements.2] at hnoFields
      cases hnoFields
  · rintro hholds ⟨hname, hdeclared, himplements⟩ hoverlap
    obtain ⟨hunion, hinterfaces⟩ := hholds hoverlap
    have hcomposite : condition.isComposite := by simpa [hunion] using hkind
    rcases TypeDef.isComposite_iff.1 hfields with hobject | hinterface
    · rw [Schema.overlap_of_isObject hcurrent hobject] at hoverlap
      rcases TypeDef.isComposite_iff.1 hcomposite with hother | hother
      · exact hname ((TypeDef.covers_of_isObject hother).1 hoverlap).symm
      · exact hdeclared ((TypeDef.covers_of_isInterface hother).1 hoverlap)
    · rcases TypeDef.isComposite_iff.1 hcomposite with hother | hother
      · rw [Schema.overlap_comm, Schema.overlap_of_isObject hcondition hother] at hoverlap
        exact himplements ((TypeDef.covers_of_isInterface hinterface).1 hoverlap)
      · rcases hinterfaces hinterface hother with h | h | h
        · exact hname h
        · exact hdeclared h
        · exact himplements h

end Analysis

namespace Beings

/-- A type with a name, which can be asked for. -/
def named (name : String) : TypeDef :=
  ⟨name, [], .object [] [⟨"name", [], .named "String", []⟩]⟩

def person : TypeDef := named "Person"

def robot : TypeDef := named "Robot"

def being : TypeDef := ⟨"Being", [], .union ["Person", "Robot"]⟩

/-- People and robots, and the union of them. -/
def schema : Schema where
  types :=
    [⟨"Query", [], .object [] [⟨"owner", [], .named "Person", []⟩]⟩, person, robot, being,
      ⟨"String", [], .scalar⟩]
  directives := []
  query := some "Query"
  mutation := none
  subscription := none

/-- The name of a being that is a person. -/
def selections : List Selection :=
  [.inline (some "Being") [] [.inline (some "Person") [] [.leaf ⟨none, "name", [], []⟩]]]

end Beings

theorem impossible_only_if_disjoint_robot :
    (Analysis.conditionTarget Beings.schema Beings.person (some "Robot")).value = none ∧
    ¬ Beings.schema.Overlap Beings.person Beings.robot := by
  have hperson : Beings.schema.Finds Beings.person := rfl
  have hrobot : Beings.schema.Finds Beings.robot := rfl
  have hnone : (Analysis.conditionTarget Beings.schema Beings.person (some "Robot")).value = none :=
    rfl
  have hexact := (Analysis.impossible_only_if_disjoint_iff hperson (by decide) hrobot
    (.inl (by decide))).1
  refine ⟨hnone, hexact.2 (fun _ => ⟨by decide, fun hinterface => ?_⟩) hnone⟩
  exact absurd hinterface (by decide)

/-- Every person is a being, yet the condition is reported as one that can never apply to a person,
and the name is left out. -/
theorem union_condition_left_out : Beings.schema.issues = [] ∧
    Beings.schema.Finds Beings.person ∧ Beings.schema.Finds Beings.being ∧
    Beings.schema.Overlap Beings.person Beings.being ∧
    (Analysis.conditionTarget Beings.schema Beings.person (some "Being")).value = none ∧
    (Analysis.ofSelections Beings.schema false Beings.person Beings.selections).run =
      ⟨.ok ⟨Beings.person, [], []⟩, [.impossibleCondition "Being" "Person"]⟩ := by
  have hissues : Beings.schema.issues = [] := List.isEmpty_iff.1 (by decide +kernel)
  have hcovers : Beings.being.Covers Beings.person := List.mem_cons_self
  exact ⟨hissues, rfl, rfl, ⟨Beings.person, rfl, by decide, rfl, hcovers⟩, rfl, rfl⟩

end OperationSamples
