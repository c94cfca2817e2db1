import OperationSamples.Proofs.Building
import OperationSamples.Proofs.Dictionaries

/-!
Types and samples agree.

A shape describes an object twice: by its fields, which give the declared type, and by its sample
value. In every shape that a run builds the two have the same names in the same order, starting with
a discriminant that names the shape's own type, unless a document files another field under the
response key of the discriminant (`names_agree_iff`). The sample under every other name is of the
type that the field declares (`samples_inhabit_types`).
-/

namespace OperationSamples

namespace Shape

/-- Whether the fields of a shape and the members of its sample have the same names, in order and
without repetition, and the first is a discriminant that tells the shape's own type. -/
structure NamesAgree (s : Shape) : Prop where
  names : s.fields.map Field.name = s.value.map Prod.fst
  distinct : (s.fields.map Field.name).Nodup
  discriminant : ∃ f literals, s.fields.head? = some f ∧ f.name = typenameField ∧
    f.content = .typename literals ∧ s.typeName ∈ literals
  own : Members.get? s.value typenameField = some (.str s.typeName)

variable {s : Shape} {shaper : Shaper} {source : List FieldHead}

namespace ArrangedAs

variable {literals : List String} {others : List Slot}

/-- The names of an arranged shape agree if no other field is named like the discriminant. -/
theorem namesAgree (h : s.ArrangedAs shaper source literals others)
    (hother : ∀ slot ∈ others, slot.field.name ≠ typenameField) : s.NamesAgree := by
  have hdistinct : (typenameField :: others.map fun slot => slot.field.name).Nodup := by
    refine List.nodup_cons.2 ⟨fun hagain => ?_, h.distinct⟩
    obtain ⟨slot, hslot, hname⟩ := List.mem_map.1 hagain
    exact hother slot hslot hname
  have hnames : s.fields.map Field.name =
      typenameField :: others.map fun slot => slot.field.name := by
    rw [h.slots.fields, List.map_map]
    rfl
  have hvalue : s.value =
      (typenameField, .str s.typeName) :: others.map fun slot => (slot.field.name, slot.value) := by
    rw [h.slots.value]
    refine Members.ofList_of_nodup ?_
    rw [List.map_map]
    exact hdistinct
  refine ⟨?_, hnames ▸ hdistinct, ⟨_, literals, by rw [h.slots.fields]; rfl, rfl, rfl, h.own⟩, ?_⟩
  · rw [hnames, hvalue, List.map_cons, List.map_map]
    rfl
  · rw [hvalue]
    rfl

/-- Under every name but the discriminant's an arranged shape has the sample of its slot: a later
slot that overwrites it would have the same name. -/
theorem get?_value (h : s.ArrangedAs shaper source literals others) {slot : Slot}
    (hslot : slot ∈ others) : Members.get? s.value slot.field.name = some slot.value := by
  obtain ⟨before, after, rfl⟩ := List.append_of_mem hslot
  have hdistinct := h.distinct
  rw [List.map_append, List.map_cons, List.nodup_append] at hdistinct
  have hlater : ∀ other ∈ after, other.field.name ≠ slot.field.name := fun other hother heq =>
    (List.nodup_cons.1 hdistinct.2.1).1 (List.mem_map.2 ⟨other, hother, heq⟩)
  rw [h.slots.value, ← List.cons_append, List.map_append, List.map_cons]
  exact Members.get?_ofList_append _ (List.forall_mem_map.2 hlater)

/-- Every field but the discriminant is that of another slot. -/
theorem exists_slot (h : s.ArrangedAs shaper source literals others) {f : Field Shape}
    (hf : f ∈ s.fields) (hname : f.name ≠ typenameField) : ∃ slot ∈ others, slot.field = f := by
  rw [h.slots.fields] at hf
  rcases List.mem_cons.1 hf with rfl | hf
  · exact absurd rfl hname
  · exact List.mem_map.1 hf

end ArrangedAs

end Shape

/-- **Names.** The names of a shape that a run builds agree exactly if none of its other fields is
named like the discriminant. They all agree if the documents give the response key of the
discriminant to no other field. -/
theorem names_agree_iff (providers : Providers) (schema : Schema) (config : Config)
    (sources : List SourceDocument) :
    (∀ s, Run.Builds providers schema config sources s →
      (s.NamesAgree ↔ ∀ f ∈ s.fields.tail, f.name ≠ typenameField)) ∧
    ((∀ head ∈ Run.heads sources, head.responseKey = typenameField → head.name = typenameField) →
      ∀ s, Run.Builds providers schema config sources s → s.NamesAgree) := by
  refine ⟨fun s hs => ⟨fun hagree f hf hname => ?_, fun hother => ?_⟩, fun hdocuments s hs => ?_⟩
  · obtain ⟨first, -, hhead, hfirst, -⟩ := hagree.discriminant
    obtain ⟨rest, hfields⟩ := List.head?_eq_some_iff.1 hhead
    have hdistinct := hagree.distinct
    rw [hfields] at hdistinct hf
    exact (List.nodup_cons.1 hdistinct).1 (List.mem_map.2 ⟨f, hf, hname.trans hfirst.symm⟩)
  · obtain ⟨literals, others, harranged⟩ := hs.arranged
    rw [harranged.slots.fields] at hother
    exact harranged.namesAgree fun slot hslot => hother _ (List.mem_map_of_mem hslot)
  · obtain ⟨literals, others, harranged⟩ := hs.arranged
    refine harranged.namesAgree fun slot hslot hname => ?_
    obtain ⟨head, hhead, hkey, hother⟩ := harranged.keys slot hslot
    exact hother (hdocuments head hhead (hkey.trans hname))

theorem names_agree_iff_owner : ∃ artifacts,
    (generateSamples Pets.providers Pets.schema .defaults Pets.owner).result = .ok artifacts ∧
    artifacts.length = 8 ∧ ∀ a ∈ artifacts, a.shape.NamesAgree := by
  obtain ⟨artifacts, hresult, hlength⟩ := Pets.exists_result Pets.owner
    (fun artifacts => artifacts.length == 8) (by decide +kernel)
  refine ⟨artifacts, hresult, beq_iff_eq.1 hlength, fun a ha => ?_⟩
  exact (names_agree_iff Pets.providers Pets.schema .defaults Pets.owner).2 (by decide +kernel)
    a.shape
    (Run.builds_of_mem_artifacts hresult ha)

/-- The text that a sample consists of. -/
def Sample.text? : Sample → Option String
  | .str s => some s
  | _ => none

theorem Sample.eq_str_of_text? {value : Sample} {text : String} (h : value.text? = some text) :
    value = .str text := by
  cases value with
  | str s => exact congrArg Sample.str (Option.some.inj h)
  | _ => cases h

/-- The owner's mood, under the response key of the discriminant. -/
def Pets.disguised : List SourceDocument :=
  query [branch "owner" [.leaf ⟨some typenameField, "mood", [], []⟩]]

/-- A field that takes the response key of the discriminant puts its own sample in its place. -/
theorem discriminant_overwritten : Pets.schema.issues = [] ∧
    ∃ s, Run.Builds Pets.providers Pets.schema .defaults Pets.disguised s ∧
    s.fields.map Field.name = [typenameField, typenameField] ∧ s.typeName = "Person" ∧
    s.value = [(typenameField, .str "CALM")] ∧ ¬ s.NamesAgree := by
  refine ⟨List.isEmpty_iff.1 (by decide +kernel), ?_⟩
  obtain ⟨artifacts, hresult, hcheck⟩ := Pets.exists_result Pets.disguised
    (fun artifacts => artifacts.any fun a =>
      a.shape.fields.map Field.name == [typenameField, typenameField] &&
        a.shape.typeName == "Person" &&
        a.shape.value.map (fun member => (member.1, member.2.text?)) ==
          [(typenameField, some "CALM")])
    (by decide +kernel)
  obtain ⟨a, ha, hcheck⟩ := List.any_eq_true.1 hcheck
  simp only [Bool.and_eq_true, beq_iff_eq] at hcheck
  obtain ⟨⟨hnames, htype⟩, hvalue⟩ := hcheck
  have hvalue : a.shape.value = [(typenameField, .str "CALM")] := by
    obtain ⟨member, hsingle, hmember⟩ := List.map_eq_singleton_iff.1 hvalue
    obtain ⟨hkey, htext⟩ := Prod.mk.inj hmember
    rw [hsingle, ← hkey, ← Sample.eq_str_of_text? htext]
  refine ⟨a.shape, Run.builds_of_mem_artifacts hresult ha, hnames, htype, hvalue, fun hagree => ?_⟩
  have hdistinct := hagree.distinct
  rw [hnames] at hdistinct
  exact absurd hdistinct (by decide)

/-! ### Samples and declared types -/

/-- The values of a declared type of scalars. -/
def Sample.OfScalarType (value : Sample) : Option String → Prop
  | some "string" => ∃ text, value = .str text
  | some "number" => (∃ n, value = .int n) ∨ ∃ x, value = .float x
  | some "boolean" => ∃ b, value = .bool b
  | some "any" => True
  | _ => False

/-- Whether a value is of the type that content declares. -/
def Content.Inhabited (value : Sample) : Content Shape → Prop
  | .typename literals => ∃ text ∈ literals, value = .str text
  | .scalar type => value.OfScalarType type
  | .enum literals => ∃ text ∈ literals, value = .str text
  | .shape target => value = .factory target.name.factory
  | .union members => ∃ first rest, members = first :: rest ∧ value = .factory first.name.factory
  | .minimal literals => ∃ text ∈ literals, value = .obj [(typenameField, .str text)]

namespace Scalar

/-- A draw whose result is wrapped gives a wrapped value. -/
theorem exists_of_fromSeed {α : Type} {seed : UInt32} {draw : Draw α} {wrap : α → Json}
    {value : Json} (h : Draw.fromSeed (do return wrap (← draw)) seed = .ok value) :
    ∃ a, value = wrap a := by
  rw [Draw.fromSeed, StateT.run_bind] at h
  generalize draw.run (Twister.seed seed) = outcome at h
  match outcome with
  | .ok (a, after) => exact ⟨a, (Except.ok.inj h).symm⟩
  | .error fault => cases h

theorem ok_of_mapError {α ε ε' : Type} {x : Except ε α} {f : ε → ε'} {a : α}
    (h : x.mapError f = .ok a) : x = .ok a := by
  cases x with
  | ok b => exact congrArg Except.ok (Except.ok.inj h)
  | error fault => cases h

theorem scalarType_of_not_builtin {name : String} (h : builtin? name = none) :
    scalarType name = "string" ∨ scalarType name = "any" := by
  unfold builtin? at h
  unfold scalarType
  split at h <;> simp_all

/-- Without configured generators, a scalar is sampled by a single value of its declared type. -/
theorem ofScalarType_sample {oracle : Oracle} {place : ScalarPlace} {value : Json}
    (hscalars : oracle.scalars = []) (h : oracle.sample place = .ok value) :
    (Sample.ofJson value).OfScalarType (some (scalarType place.scalar)) ∧
      ∀ items, Sample.ofJson value ≠ .arr items := by
  obtain ⟨scalar, owner, path⟩ := place
  simp only [Oracle.sample, hscalars, Members.get?_nil] at h
  cases hbuiltin : builtin? scalar with
  | none =>
    rw [hbuiltin] at h
    obtain rfl := Except.ok.inj h
    refine ⟨?_, fun items heq => nomatch heq⟩
    rcases scalarType_of_not_builtin hbuiltin with htype | htype
    · rw [htype]
      exact ⟨_, rfl⟩
    · rw [htype]
      trivial
  | some draw =>
    rw [hbuiltin] at h
    have hdraw := ok_of_mapError h
    -- the draw and the declared type are chosen by the same names, one case for each
    unfold builtin? at hbuiltin
    split at hbuiltin
    · cases hbuiltin
      obtain ⟨text, rfl⟩ := exists_of_fromSeed hdraw
      exact ⟨⟨text, rfl⟩, fun items heq => nomatch heq⟩
    · cases hbuiltin
      obtain ⟨text, rfl⟩ := exists_of_fromSeed hdraw
      exact ⟨⟨text, rfl⟩, fun items heq => nomatch heq⟩
    · cases hbuiltin
      obtain ⟨n, rfl⟩ := exists_of_fromSeed hdraw
      exact ⟨.inl ⟨n, rfl⟩, fun items heq => nomatch heq⟩
    · cases hbuiltin
      obtain ⟨x, rfl⟩ := exists_of_fromSeed hdraw
      exact ⟨.inr ⟨x, rfl⟩, fun items heq => nomatch heq⟩
    · cases hbuiltin
      cases hdraw
      exact ⟨⟨true, rfl⟩, fun items heq => nomatch heq⟩
    · cases hbuiltin

end Scalar

/-- Without configured generators, what is made as a sample of content is a single value of the
declared type. -/
theorem Content.Made.inhabited {shaper : Shaper} {content : Content Shape} {item : Sample}
    (h : content.Made shaper item) (hscalars : shaper.oracle.scalars = [])
    (henums : ∀ t ∈ shaper.schema.types, t.kind? = some .enum → t.enumValues ≠ []) :
    content.Inhabited item ∧ ∀ items, item ≠ .arr items := by
  cases content with
  | typename literals => exact h.elim
  | scalar type =>
    obtain ⟨place, value, rfl, hvalue, rfl⟩ := h
    exact Scalar.ofScalarType_sample hscalars hvalue
  | enum literals =>
    obtain ⟨⟨t, hfinds, hkind, rfl⟩, rfl⟩ := h
    obtain ⟨first, rest, hvalues⟩ := List.exists_cons_of_ne_nil
      (henums t (List.mem_of_find?_eq_some hfinds) hkind)
    rw [hvalues]
    exact ⟨⟨first, List.mem_cons_self, rfl⟩, fun items heq => nomatch heq⟩
  | shape target =>
    obtain rfl : item = .factory target.name.factory := h
    exact ⟨rfl, fun items heq => nomatch heq⟩
  | union members =>
    obtain ⟨first, rest, rfl, rfl⟩ := h
    exact ⟨⟨first, rest, rfl, rfl⟩, fun items heq => nomatch heq⟩
  | minimal literals =>
    obtain ⟨first, rest, rfl, rfl⟩ := h
    exact ⟨⟨first, List.mem_cons_self, rfl⟩, fun items heq => nomatch heq⟩

/-- **Values.** If every enum of the schema has a value and no scalar is given a generator, the
sample of a field of a shape that a run builds, other than the discriminant, is a list of one
element exactly if the field is a list, and that element, or else the sample itself, is of the type
that the field declares. -/
theorem samples_inhabit_types {providers : Providers} {schema : Schema} {config : Config}
    {sources : List SourceDocument}
    (henums : ∀ t ∈ schema.types, t.kind? = some .enum → t.enumValues ≠ [])
    (hscalars : config.scalars = []) {s : Shape} (hs : Run.Builds providers schema config sources s)
    {f : Field Shape} (hf : f ∈ s.fields) (hname : f.name ≠ typenameField) :
    ∃ value, Members.get? s.value f.name = some value ∧
      (f.isList = true → ∃ item, value = .arr [item] ∧ f.content.Inhabited item) ∧
      (f.isList = false → (∀ items, value ≠ .arr items) ∧ f.content.Inhabited value) := by
  obtain ⟨literals, others, harranged⟩ := hs.arranged
  obtain ⟨slot, hslot, rfl⟩ := harranged.exists_slot hf hname
  obtain ⟨item, hvalue, hmade⟩ := (harranged.made slot hslot).value
  obtain ⟨hinhabited, hsingle⟩ := hmade.inhabited hscalars henums
  refine ⟨slot.value, harranged.get?_value hslot, fun hlist => ?_, fun hlist => ?_⟩
  · refine ⟨item, ?_, hinhabited⟩
    rw [hvalue, Sample.listIf, if_pos hlist]
  · rw [hvalue, Sample.listIf, if_neg (by simp [hlist])]
    exact ⟨hsingle, hinhabited⟩

theorem samples_inhabit_types_owner :
    (∀ t ∈ Pets.schema.types, t.kind? = some .enum → t.enumValues ≠ []) ∧
    Config.defaults.scalars = [] ∧ ∃ artifacts,
    (generateSamples Pets.providers Pets.schema .defaults Pets.owner).result = .ok artifacts ∧
    ∃ a ∈ artifacts, ∃ f ∈ a.shape.fields, a.name = "HomeOwnerPetAsCat" ∧ f.name = "mood" ∧
      ∃ value, Members.get? a.shape.value f.name = some value ∧ f.content.Inhabited value := by
  have henums : ∀ t ∈ Pets.schema.types, t.kind? = some .enum → t.enumValues ≠ [] := by decide
  obtain ⟨artifacts, hresult, hcheck⟩ := Pets.exists_result Pets.owner
    (fun artifacts => artifacts.any fun a => a.name == "HomeOwnerPetAsCat" &&
      a.shape.fields.any fun f => f.name == "mood" && !f.isList)
    (by decide +kernel)
  obtain ⟨a, ha, hcheck⟩ := List.any_eq_true.1 hcheck
  simp only [Bool.and_eq_true, beq_iff_eq, List.any_eq_true, Bool.not_eq_true'] at hcheck
  obtain ⟨hname, f, hf, hmood, hlist⟩ := hcheck
  obtain ⟨value, hvalue, -, hsingle⟩ := samples_inhabit_types henums rfl
    (Run.builds_of_mem_artifacts hresult ha) hf (by rw [hmood]; decide)
  exact ⟨henums, rfl, artifacts, hresult, a, ha, f, hf, hname, hmood, value, hvalue,
    (hsingle hlist).2⟩

end OperationSamples
