import OperationSamples.Proofs.Depth
import OperationSamples.Proofs.Spelling

/-!
Which names are identifiers.

All shapes of a definition have names that start with the name of the definition, in pascal case. An
identifier comes after it, a suffix or what keys and members spell, unless the name belongs to the
root and suffixes are off (`ShapeName.Under`). Building keeps it so (`Build.Keeps.visit_under`), and
every artifact was built for a definition (`Run.exists_generated_of_mem`).

Since names of documents are made of letters, digits and underscores, only the beginning of a name
can be amiss, and that comes from the definition. The names of factories have a letter in front.
-/

namespace OperationSamples

/-! ### Names under a base -/

namespace ShapeName

open TypeScript

/-- Whether a text is a base with an identifier after it. -/
def Prolongs (base text : String) : Prop :=
  ∃ rest, text = base ++ rest ∧ isIdentifier rest.toList

/-- Whether a text is a base, possibly with an identifier after it. -/
def Continues (base text : String) : Prop := text = base ∨ Prolongs base text

/-- Whether a name is a base with an identifier after it, or the base alone if that is allowed, and
the factory is named after it. -/
structure Under (base : String) (alone : Bool) (name : ShapeName) : Prop where
  factory : name.factory = factoryFor name.qualified
  qualified : Prolongs base name.qualified ∨ alone = true ∧ name.qualified = base

section Under

variable {base text piece : String} {alone : Bool}

theorem Continues.prolongs (h : Continues base text) (hpiece : isIdentifier piece.toList) :
    Prolongs base (text ++ piece) := by
  rcases h with rfl | ⟨rest, rfl, hrest⟩
  · exact ⟨piece, rfl, hpiece⟩
  · refine ⟨rest ++ piece, String.append_assoc .., ?_⟩
    rw [String.toList_append]
    exact isIdentifier_append hrest (isIdentifierRest_of_mem hpiece)

theorem Under.continues {name : ShapeName} (h : name.Under base alone) :
    Continues base name.qualified := by
  rcases h.qualified with hprolongs | ⟨-, heq⟩
  · exact .inr hprolongs
  · exact .inl heq

theorem under_of_prolongs (h : Prolongs base text) : (of text).Under base alone := ⟨rfl, .inl h⟩

/-- What a union member adds to a name is an identifier. -/
theorem isIdentifier_member {member : String} (h : Lexer.isName member.toList) :
    isIdentifier ("As" ++ member).toList := by
  rw [String.toList_append]
  exact isIdentifier_append (by decide) (isIdentifierRest_of_mem (isIdentifier_of_isName h))

theorem under_variant {member : String} (h : Continues base text)
    (hmember : Lexer.isName member.toList) : (variant text member).Under base alone := by
  refine under_of_prolongs ?_
  rw [String.append_assoc]
  exact h.prolongs (isIdentifier_member hmember)

theorem under_variantAt {member unionPath : String} (h : Continues base text)
    (hmember : Lexer.isName member.toList) (hpath : IsPath unionPath) :
    (variantAt text member unionPath).Under base alone := by
  have hspelled : (below "" unionPath).qualified = spelled unionPath := by
    rw [below_eq]
    exact String.empty_append
  have hpiece : isIdentifier ("As" ++ member ++ "At" ++ spelled unionPath).toList := by
    have hinfix : isIdentifier "At".toList := by decide
    rw [String.toList_append, String.toList_append]
    exact isIdentifier_append
      (isIdentifier_append (isIdentifier_member hmember) (isIdentifierRest_of_mem hinfix))
      hpath.isIdentifierRest_of_mem_spelled
  have hjoined : text ++ "As" ++ member ++ "At" ++ spelled unionPath =
      text ++ ("As" ++ member ++ "At" ++ spelled unionPath) := by simp only [String.append_assoc]
  refine under_of_prolongs ?_
  rw [hspelled, hjoined]
  exact h.prolongs hpiece

theorem under_root {addSuffix : Bool} {name : String} {kind : ArtifactKind} {root : ShapeName}
    (h : root? addSuffix name kind = some root) :
    root.Under (operationName name) (!addSuffix) := by
  unfold root? at h
  split at h
  · cases kind <;> simp only [ArtifactKind.suffix?, Option.map_some, Option.map_none,
      Option.some.injEq, reduceCtorEq] at h
    all_goals
      subst h
      exact under_of_prolongs ⟨_, rfl, by decide⟩
  · next hsuffix =>
    cases h
    exact ⟨rfl, .inr ⟨by simpa using hsuffix, rfl⟩⟩

/-- Under the name of a definition, a name is an identifier unless the definition leads with a digit
or the name is empty. -/
theorem Under.isIdentifier_iff {name : ShapeName} {definition : String}
    (hdefinition : Lexer.isName definition.toList)
    (h : name.Under (operationName definition) alone) :
    isIdentifier name.factory.toList ∧
      (isIdentifier name.qualified.toList ↔
        name.qualified ≠ "" ∧ Text.leadsWithDigit definition.toList = false) ∧
      (name.qualified = "" → alone = true ∧ definition.toList.all Text.isSeparator) := by
  have hstem := stemOf_operationName hdefinition
  obtain ⟨tail, hchars, htail⟩ : ∃ tail,
      name.qualified.toList = (operationName definition).toList ++ tail ∧
        (isIdentifier tail ∨ alone = true ∧ tail = []) := by
    rcases h.qualified with ⟨rest, heq, hrest⟩ | ⟨halone, heq⟩
    · exact ⟨rest.toList, by rw [heq, String.toList_append], .inl hrest⟩
    · exact ⟨[], by rw [heq, List.append_nil], .inr ⟨halone, rfl⟩⟩
  have hrest : ∀ c ∈ name.qualified.toList, isIdentifierRest c := by
    rw [hchars]
    refine List.forall_mem_append.2 ⟨hstem.isIdentifierRest_of_mem, ?_⟩
    rcases htail with htail | ⟨-, rfl⟩
    · exact isIdentifierRest_of_mem htail
    · exact List.forall_mem_nil _
  have hfactory : name.factory.toList = 'a' :: name.qualified.toList := by
    rw [h.factory, factoryFor, String.toList_append]
    rfl
  have hempty : name.qualified = "" ↔ name.qualified.toList = [] := by simp
  refine ⟨hfactory ▸ isIdentifier_cons.2 ⟨rfl, hrest⟩, ?_, fun hnone => ?_⟩
  · rw [ne_eq, hempty, hchars]
    exact hstem.isIdentifier_append_iff (htail.imp_right And.right)
  · rw [hempty, hchars, List.append_eq_nil_iff] at hnone
    obtain ⟨hnone, rfl⟩ := hnone
    rcases htail with htail | ⟨halone, -⟩
    · cases htail
    · rw [hnone] at hstem
      exact ⟨halone, hstem.all_isSeparator⟩

end Under

end ShapeName

/-! ### Shapes under a base -/

/-- Whether a shape, and every shape that it leads to, has its name under a base. -/
def Shape.Under (base : String) (alone : Bool) (s : Shape) : Prop :=
  ∀ t, s.Reaches t → t.name.Under base alone

structure Variant.Under (base : String) (alone : Bool) (v : Variant) : Prop where
  member : Lexer.isName v.member.toList
  path : ShapeName.IsPath v.unionPath
  shape : v.shape.Under base alone

structure Built.Under (base : String) (alone : Bool) (built : Built) : Prop where
  shape : built.shape.Under base alone
  variants : ∀ v ∈ built.variants, v.Under base alone

structure Slot.Under (base : String) (alone : Bool) (slot : Slot) : Prop where
  below : ∀ t ∈ slot.dependencies, t.Under base alone
  alternatives : ∀ v ∈ slot.alternatives, v.Under base alone

/-- Whether the names of a place, and of what is built below it, are under a base, and its
selections come from a source. -/
structure Site.Under (base : String) (alone : Bool) (source : List FieldHead) (site : Site) :
    Prop where
  name : site.name.Under base alone
  stem : ShapeName.Continues base (ShapeName.below site.base site.relative).qualified
  heads : Selection.allHeads site.set.selections ⊆ source

/-- Whether the types of a schema and the response keys of a source are names. -/
structure NamesIn (schema : Schema) (source : List FieldHead) : Prop where
  types : ∀ t ∈ schema.types, Lexer.isName t.name.toList
  keys : ∀ head ∈ source, Lexer.isName head.responseKey.toList

theorem NamesIn.isName_of_finds {schema : Schema} {source : List FieldHead} {t : TypeDef}
    (h : NamesIn schema source) (hfinds : schema.Finds t) : Lexer.isName t.name.toList :=
  h.types t (List.mem_of_find?_eq_some hfinds)

/-- What is known about a field that a slot is made of: a union field has no object type. -/
structure FieldInfo.FitUnion (schema : Schema) (source : List FieldHead) (info : FieldInfo) :
    Prop where
  fit : info.Fit schema source
  union : info.category = .union → info.namedType.isObject = false

section Under

variable {base : String} {alone : Bool} {source : List FieldHead} {schema : Schema}
  {info : FieldInfo} {site : Site}

theorem FieldInfo.FitUnion.isName_key (h : info.FitUnion schema source)
    (hnames : NamesIn schema source) : Lexer.isName info.responseKey.toList := by
  obtain ⟨head, hhead, hkey, -⟩ := h.fit.taken.key
  exact hkey ▸ hnames.keys head hhead

theorem Shape.Under.of_slots {name : ShapeName} {slots : List Slot}
    (hname : name.Under base alone) (hslots : ∀ slot ∈ slots, ∀ t ∈ slot.dependencies,
      t.Under base alone) (id : Nat) (typeName path : String) (depth : Nat) :
    (ofSlots id name typeName path depth slots).Under base alone := by
  refine Shape.forall_reaches hname fun t ht => ?_
  obtain ⟨slot, hslot, ht⟩ := List.mem_flatMap.1 ht
  exact hslots slot hslot t ht

/-- The name below a place that a key leads to. -/
theorem Site.Under.prolongs (h : site.Under base alone source)
    (hkey : Lexer.isName info.responseKey.toList) :
    ShapeName.Prolongs base
      (ShapeName.below site.base (site.relativeTo info.responseKey)).qualified := by
  rw [Site.relativeTo, ShapeName.below_joinPath]
  exact h.stem.prolongs (ShapeName.isIdentifier_spelled hkey)

theorem Site.Under.ofField (h : site.Under base alone source)
    (hkey : Lexer.isName info.responseKey.toList) {set : SelectionSet}
    (hset : Selection.allHeads set.selections ⊆ source) :
    (site.ofField info set).Under base alone source where
  name := ⟨rfl, .inl (h.prolongs hkey)⟩
  stem := .inr (h.prolongs hkey)
  heads := hset

theorem Site.Under.ofMember (h : site.Under base alone source)
    (hkey : Lexer.isName info.responseKey.toList) {member : TypeDef}
    (hmember : Lexer.isName member.name.toList) {set : SelectionSet}
    (hset : Selection.allHeads set.selections ⊆ source) :
    (site.ofMember info member set).Under base alone source := by
  have hname : (site.ofMember info member set).name.Under base alone :=
    ShapeName.under_variant (.inr (h.prolongs hkey)) hmember
  refine ⟨hname, ?_, hset⟩
  have hstem : (ShapeName.below (site.ofMember info member set).name.qualified "").qualified =
      (site.ofMember info member set).name.qualified := by
    rw [ShapeName.below_eq, ShapeName.spelled_empty]
    exact String.append_empty
  exact hstem ▸ hname.continues

/-! ### Alternatives -/

theorem Built.Under.ofObject {child : Built} (h : child.Under base alone)
    (hkey : Lexer.isName info.responseKey.toList) : (Slot.ofObject info child).Under base alone := by
  refine ⟨List.forall_mem_singleton.2 h.shape, List.forall_mem_map.2 fun v hv => ?_⟩
  have hpath := ShapeName.isPath_of_isIdentifier (ShapeName.isIdentifier_of_isName hkey)
  exact ⟨(h.variants v hv).member, hpath.joinPath (h.variants v hv).path, (h.variants v hv).shape⟩

theorem Built.Under.memberAlternatives {built : Built} (h : built.Under base alone)
    (hkey : Lexer.isName info.responseKey.toList) {member : String}
    (hmember : Lexer.isName member.toList) :
    ∀ v ∈ Slot.memberAlternatives info member built, v.Under base alone := by
  have hidentifier := ShapeName.isIdentifier_of_isName hkey
  have hpath : ShapeName.IsPath (info.responseKey ++ "As" ++ member) := by
    refine ShapeName.isPath_of_isIdentifier ?_
    rw [String.append_assoc, String.toList_append]
    exact TypeScript.isIdentifier_append hidentifier
      (TypeScript.isIdentifierRest_of_mem (ShapeName.isIdentifier_member hmember))
  refine List.forall_mem_cons.2 ⟨?_, List.forall_mem_map.2 fun v hv => ?_⟩
  · exact ⟨hmember, ShapeName.isPath_of_isIdentifier hidentifier, h.shape⟩
  · exact ⟨(h.variants v hv).member, hpath.joinPath (h.variants v hv).path,
      (h.variants v hv).shape⟩

theorem ShapeName.under_variantName (hsite : site.name.Under base alone) {v : Variant}
    (hv : v.Under base alone) (onePath : Bool) :
    (Shaper.variantName site onePath v).Under base alone := by
  unfold Shaper.variantName
  split
  · exact under_variant hsite.continues hv.member
  · exact under_variantAt hsite.continues hv.member hv.path

end Under

/-! ### Building keeps names under their base -/

/-- Whether visiting keeps names under a base, at places whose names are. -/
def Shaper.Visit.Under (base : String) (alone : Bool) (source : List FieldHead)
    (visit : Shaper.Visit) : Prop :=
  visit.Keeps (Site.Under base alone source) (Built.Under base alone)

namespace Build.Keeps

variable {shaper : Shaper} {base : String} {alone : Bool} {source : List FieldHead}
  {info : FieldInfo} {site : Site}

theorem leafSlot_under (shaper : Shaper) (site : Site) (info : FieldInfo) :
    Keeps (Built.Under base alone) (shaper.leafSlot site info) (Slot.Under base alone) := by
  unfold Shaper.leafSlot
  split
  · exact Keeps.pure ⟨List.forall_mem_nil _, List.forall_mem_nil _⟩
  · exact (ofSample _).bind fun value _ =>
      Keeps.pure ⟨List.forall_mem_nil _, List.forall_mem_nil _⟩

theorem visitMembers_under {visit : Shaper.Visit} (hvisit : visit.Under base alone source)
    (hsite : site.Under base alone source) (hkey : Lexer.isName info.responseKey.toList)
    (members : List MemberSelection)
    (h : ∀ m ∈ members, Lexer.isName m.member.name.toList ∧
      Selection.allHeads m.selections ⊆ source) :
    Keeps (Built.Under base alone) (Shaper.visitMembers visit site info members)
      fun built => ∀ b ∈ built, Lexer.isName b.1.toList ∧ b.2.Under base alone := by
  refine (eachMember hvisit site info members fun m hm set hset => ?_).mono ?_
  · exact hsite.ofMember hkey (h m hm).1 (hset ▸ (h m hm).2)
  · rintro built ⟨hmembers, hbuilt⟩ b hb
    obtain ⟨m, hm, hname⟩ := List.mem_map.1 (hmembers ▸ List.mem_map_of_mem hb)
    exact ⟨hname ▸ (h m hm).1, hbuilt b hb⟩

theorem minimalSlot_under (shaper : Shaper) (info : FieldInfo) :
    (shaper.minimalSlot info).Under base alone := ⟨List.forall_mem_nil _, List.forall_mem_nil _⟩

theorem unionSlot_under (hnames : NamesIn shaper.schema source) {visit : Shaper.Visit}
    (hvisit : visit.Under base alone source) (hsite : site.Under base alone source)
    (h : info.FitUnion shaper.schema source) (hcategory : info.category = .union) :
    Keeps (Built.Under base alone) (shaper.unionSlot visit site info) (Slot.Under base alone) := by
  have hkey := h.isName_key hnames
  refine (ofLogged _).bind ?_
  rintro members rfl
  split
  · exact (note _).bind fun _ _ => Keeps.pure (minimalSlot_under shaper info)
  · have hmembers : ∀ m ∈ (MemberSelection.expand shaper.schema info).value,
        Lexer.isName m.member.name.toList ∧ Selection.allHeads m.selections ⊆ source := by
      intro m hm
      refine ⟨hnames.isName_of_finds ?_, MemberSelection.takenFrom_expand h.fit.taken m hm⟩
      exact (MemberSelection.finds_of_mem_expand h.fit.finds (h.union hcategory) hm).1
    refine (visitMembers_under hvisit hsite hkey _ hmembers).bind fun built hbuilt =>
      Keeps.pure ⟨?_, ?_⟩
    · exact List.forall_mem_map.2 fun m hm => (hbuilt m hm).2.shape
    · intro v hv
      obtain ⟨m, hm, hv⟩ := List.mem_flatMap.1 hv
      exact (hbuilt m hm).2.memberAlternatives hkey (hbuilt m hm).1 v hv

theorem slotOf_under (hnames : NamesIn shaper.schema source) {below : Option Shaper.Visit}
    (hbelow : ∀ visit, below = some visit → visit.Under base alone source)
    (hsite : site.Under base alone source) (h : info.FitUnion shaper.schema source) :
    Keeps (Built.Under base alone) (shaper.slotOf below site info) (Slot.Under base alone) := by
  have hkey := h.isName_key hnames
  unfold Shaper.slotOf
  split
  · exact leafSlot_under shaper site info
  · next visit hcategory => exact unionSlot_under hnames (hbelow _ rfl) hsite h hcategory
  · next hset =>
    have hchild := hsite.ofField hkey (h.fit.taken.below _ hset)
    exact (hbelow _ rfl _ hchild).bind fun child hchild => Keeps.pure (hchild.ofObject hkey)
  · exact Keeps.pure (minimalSlot_under shaper info)

theorem slotsOf_under (hnames : NamesIn shaper.schema source) {below : Option Shaper.Visit}
    (hbelow : ∀ visit, below = some visit → visit.Under base alone source)
    (hsite : site.Under base alone source) (infos : List FieldInfo)
    (h : ∀ info ∈ infos, info.FitUnion shaper.schema source) :
    Keeps (Built.Under base alone) (shaper.slotsOf below site infos)
      fun slots => ∀ slot ∈ slots, slot.Under base alone := by
  induction infos with
  | nil => exact Keeps.pure (List.forall_mem_nil _)
  | cons info rest ih =>
    obtain ⟨hfirst, hrest⟩ := List.forall_mem_cons.1 h
    refine (slotOf_under hnames hbelow hsite hfirst).bind fun slot hslot => ?_
    exact (ih hrest).bind fun others hothers =>
      Keeps.pure (List.forall_mem_cons.2 ⟨hslot, hothers⟩)

theorem variantsOf_under (hsite : site.Under base alone source) (typeName : String)
    {slots : List Slot} (hslots : ∀ slot ∈ slots, slot.Under base alone) (onePath : Bool)
    (placed : List (Nat × Variant)) (h : ∀ p ∈ placed, p.2.Under base alone) :
    Keeps (Built.Under base alone) (Shaper.variantsOf site typeName slots onePath placed)
      fun variants => ∀ v ∈ variants, v.Under base alone := by
  induction placed with
  | nil => exact Keeps.pure (List.forall_mem_nil _)
  | cons p rest ih =>
    obtain ⟨position, v⟩ := p
    obtain ⟨hv, hrest⟩ := List.forall_mem_cons.1 h
    refine (assemble _ _ _ _).bind ?_
    rintro s ⟨id, rfl⟩
    refine (ih hrest).bind fun variants hvariants => Keeps.pure ?_
    refine List.forall_mem_cons.2 ⟨⟨hv.member, hv.path, ?_⟩, hvariants⟩
    refine .of_slots (ShapeName.under_variantName hsite.name hv onePath) ?_ _ _ _ _
    intro slot hslot t ht
    rcases Slot.mem_fixedAt hslot with hold | ⟨before, -, rfl⟩
    · exact (hslots slot hold).below t ht
    · exact List.mem_singleton.1 ht ▸ hv.shape

theorem construct_under (hnames : NamesIn shaper.schema source) {below : Option Shaper.Visit}
    (hbelow : ∀ visit, below = some visit → visit.Under base alone source)
    (hsite : site.Under base alone source) :
    Keeps (Built.Under base alone) (shaper.construct below site) (Built.Under base alone) := by
  refine (note _).bind fun _ _ => (ofWalk _).bind fun analysis hanalysis => ?_
  have hfit : ∀ info ∈ analysis.fields, info.FitUnion shaper.schema source := by
    intro info hinfo
    have hfield := Analysis.fieldOf_of_mem_fields hanalysis hinfo
    exact ⟨⟨hfield.finds, hfield.kind,
      Analysis.takenFrom_of_mem_fields hsite.heads hanalysis hinfo⟩,
      Shaper.not_isObject_of_union hfield⟩
  have hmarked : ∀ (info : FieldInfo) (set set' : SelectionSet),
      info.FitUnion shaper.schema source → info.set = some set →
      Selection.allHeads set'.selections = Selection.allHeads set.selections →
      FieldInfo.FitUnion shaper.schema source { info with set := some set' } :=
    fun _ _ _ h hset hheads => ⟨h.fit.marked hset hheads, h.union⟩
  refine (markedFields hmarked analysis.fields hfit).bind fun infos hinfos => ?_
  refine (slotsOf_under hnames hbelow hsite infos hinfos.2).bind fun others hothers => ?_
  have hslots : ∀ slot ∈ Slot.discriminant (shaper.typenames site.owner)
      (Shaper.represented (shaper.typenames site.owner) analysis.folded) :: others,
      slot.Under base alone :=
    List.forall_mem_cons.2 ⟨⟨List.forall_mem_nil _, List.forall_mem_nil _⟩, hothers⟩
  refine (assemble _ _ _ _).bind ?_
  rintro s ⟨id, rfl⟩
  refine (variantsOf_under hsite _ hslots _ _ ?_).bind fun variants hvariants =>
    Keeps.pure ⟨?_, hvariants⟩
  · rintro ⟨position, v⟩ hp
    obtain ⟨slot, hslot, hv⟩ := Slot.mem_placedAlternatives.1 hp
    exact (hslots slot (List.mem_of_getElem? hslot)).alternatives v hv
  · exact .of_slots hsite.name (fun slot hslot => (hslots slot hslot).below) _ _ _ _

/-- Whatever the depth, visiting keeps names under their base. -/
theorem visit_under (hnames : NamesIn shaper.schema source) (remaining : Nat) :
    (shaper.visit remaining).Under base alone source :=
  everyDepth (fun _ hbelow _ hsite => construct_under hnames hbelow hsite) remaining

end Build.Keeps

/-! ### Definitions -/

namespace Run

open Build (exists_of_run_bind)

/-- The name of a definition. -/
def Subject.name? : Subject → Option String
  | .fragment f => some f.name
  | .operation o => o.name

theorem Subject.name?_of_target? {subject : Subject} {schema : Schema} {target : Target}
    (h : (subject.target? schema).value = some target) : subject.name? = some target.name := by
  cases subject with
  | fragment f =>
    rw [target?, Target.ofFragment?] at h
    split at h
    · cases h
      rfl
    · cases h
  | operation o =>
    rw [target?, Target.ofOperation?] at h
    cases hname : o.name with
    | none =>
      rw [hname] at h
      cases h
    | some name =>
      rw [hname] at h
      dsimp only at h
      split at h
      · cases h
      · cases h
        exact hname

/-- What is built for a root has names under the base of the root. Nothing that was built before is
remembered. -/
theorem under_of_visitRoot {shaper : Shaper} {source : List FieldHead}
    (hnames : NamesIn shaper.schema source) {owner : TypeDef} {selections : List Selection}
    (hselections : Selection.allHeads selections ⊆ source) {name : ShapeName} {base : String}
    {alone : Bool} (hname : name.Under base alone) {state after : BuildState} {built : Built}
    (h : (shaper.visitRoot owner selections name base).run.run state = (.ok built, after)) :
    built.Under base alone := by
  obtain ⟨_, _, hforget, h⟩ := exists_of_run_bind h
  cases hforget
  have hkeeps : Build.Keeps (Built.Under base alone)
      (do
        let set ← Build.marked ⟨none, selections⟩
        shaper.visit shaper.maxDepth ⟨owner, set, name, base, "", "", 0⟩)
      (Built.Under base alone) := by
    refine (Build.Keeps.marked _).bind fun set hset => ?_
    refine Build.Keeps.visit_under hnames _ _ ⟨hname, .inl ?_, by rw [hset]; exact hselections⟩
    rw [ShapeName.below_eq, ShapeName.spelled_empty]
    exact String.append_empty
  have hpost := (hkeeps { state with memo := [] } (List.forall_mem_nil _)).2 built
  exact hpost (congrArg Prod.fst h)

/-- Everything that is built for a definition has a name under the name of the definition. -/
theorem under_of_visitSubject {context : Context} {source : List FieldHead}
    (hnames : NamesIn context.schema source)
    (htable : ∀ f ∈ context.table, Selection.allHeads f.selections ⊆ source)
    {location : Option String} {subject : Subject} (hheads : subject.heads ⊆ source)
    {state after : BuildState} {g : Generated}
    (h : (visitSubject context location subject).run.run state = (.ok (some g), after)) :
    subject.name? = some g.target.name ∧
      g.built.Under (ShapeName.operationName g.target.name)
        (!context.config.addOperationSuffix) := by
  obtain ⟨target?, _, htarget, h⟩ := exists_of_run_bind h
  cases htarget
  cases htarget : (subject.target? context.schema).value with
  | none =>
    rw [htarget] at h
    cases h
  | some target =>
    rw [htarget] at h
    obtain ⟨selections, _, hselections, h⟩ := exists_of_run_bind h
    cases hselections
    obtain ⟨name, _, hname, h⟩ := exists_of_run_bind h
    obtain ⟨built, _, hbuilt, h⟩ := exists_of_run_bind h
    obtain ⟨_, _, -, h⟩ := exists_of_run_bind h
    cases h
    refine ⟨Subject.name?_of_target? htarget, under_of_visitRoot hnames ?_ ?_ hbuilt⟩
    · exact Selection.allHeads_resolve_subset context.config.maxFragmentDepth htable
        (Subject.heads_of_target? htarget ▸ hheads)
    · unfold rootName at hname
      cases hroot : ShapeName.root? context.config.addOperationSuffix target.name target.kind with
      | none =>
        rw [hroot] at hname
        cases hname
      | some root =>
        rw [hroot] at hname
        cases hname
        exact ShapeName.under_root hroot

theorem under_of_visitSubjects {context : Context} {source : List FieldHead}
    (hnames : NamesIn context.schema source)
    (htable : ∀ f ∈ context.table, Selection.allHeads f.selections ⊆ source)
    {tasks : List (Option String × Subject)} (hheads : ∀ task ∈ tasks, task.2.heads ⊆ source)
    {state after : BuildState} {gs : List Generated}
    (h : (visitSubjects context tasks).run.run state = (.ok gs, after)) :
    ∀ g ∈ gs, (∃ task ∈ tasks, task.2.name? = some g.target.name) ∧
      g.built.Under (ShapeName.operationName g.target.name)
        (!context.config.addOperationSuffix) := by
  induction tasks generalizing state gs with
  | nil =>
    cases h
    exact List.forall_mem_nil _
  | cons task rest ih =>
    obtain ⟨location, subject⟩ := task
    obtain ⟨hfirst, hrest⟩ := List.forall_mem_cons.1 hheads
    obtain ⟨first, between, hrun, h⟩ := exists_of_run_bind h
    obtain ⟨others, _, hothers, h⟩ := exists_of_run_bind h
    cases h
    intro g hg
    rcases List.mem_append.1 hg with hown | hlater
    · obtain rfl : first = some g := by simpa using hown
      obtain ⟨hname, hunder⟩ := under_of_visitSubject hnames htable hfirst hrun
      exact ⟨⟨_, List.mem_cons_self, hname⟩, hunder⟩
    · obtain ⟨⟨task, htask, hname⟩, hunder⟩ := ih hrest hothers g hlater
      exact ⟨⟨task, List.mem_cons_of_mem _ htask, hname⟩, hunder⟩

end Run

/-! ### Artifacts -/

/-- What is emitted for a shape belongs to the operation it is emitted for, and the shape leads to
it. -/
theorem Emission.operation_of_mem_shape (origin : Provenance) (s : Shape) :
    ∀ (kind : ArtifactKind) (state : Emission), ∀ a ∈ (shape origin kind state s).artifacts,
      a ∈ state.artifacts ∨ a.operation = origin.operation ∧ s.Reaches a.shape := by
  induction s using Shape.dependencyInduction with
  | step s ih =>
    intro kind state a ha
    rw [shape_eq] at ha
    split at ha
    · exact .inl ha
    · rcases List.mem_append.1 ha with hbelow | hown
      · have hdeps : ∀ t ∈ s.dependencies, ∀ state : Emission,
            ∀ a ∈ (shape origin .nestedShape state t).artifacts,
              a ∈ state.artifacts ∨ a.operation = origin.operation ∧ s.Reaches a.shape := by
          intro t ht state a ha
          refine (ih t ht .nestedShape state a ha).imp_right fun hnew => ⟨hnew.1, ?_⟩
          exact Relation.ReflTransGen.head ht hnew.2
        rw [shapes_eq_foldl] at hbelow
        have hall := mem_artifacts_foldl hdeps _ a hbelow
        exact hall
      · rw [List.mem_singleton.1 hown]
        exact .inr ⟨rfl, .refl⟩

namespace Run

/-- Every artifact belongs to a definition, and a root of the definition leads to its shape. -/
theorem exists_generated_of_mem (gs : List Generated) :
    ∀ a ∈ (gs.foldl Generated.emit .empty).artifacts, ∃ g ∈ gs, a.operation = g.target.name ∧
      ∃ r ∈ g.built.shapes, r.Reaches a.shape := by
  have hall : ∀ a ∈ (gs.foldl Generated.emit .empty).artifacts, a ∈ Emission.empty.artifacts ∨
      ∃ g ∈ gs, a.operation = g.target.name ∧ ∃ r ∈ g.built.shapes, r.Reaches a.shape := by
    refine Emission.mem_artifacts_foldl (fun g hg state => ?_) _
    rw [Generated.emit, emitRoots_eq_foldl]
    refine Emission.mem_artifacts_foldl (fun r hr state a ha => ?_) state
    rcases Emission.operation_of_mem_shape _ r.1 r.2 state a ha with hold | ⟨hown, hreach⟩
    · exact .inl hold
    · exact .inr ⟨g, hg, hown, r.1, g.roots_subset (List.mem_map_of_mem hr), hreach⟩
  intro a ha
  exact (hall a ha).resolve_left List.not_mem_nil

/-- Whether what gets into the names of a run consists of names: those of types, of operations and
fragments, of fields, and aliases. -/
structure WellNamed (schema : Schema) (sources : List SourceDocument) : Prop where
  types : ∀ t ∈ schema.types, Lexer.isName t.name.toList
  definitions : ∀ source ∈ sources, ∀ subject ∈ subjects source.document,
    ∀ name ∈ subject.name?, Lexer.isName name.toList
  fields : ∀ head ∈ heads sources, Lexer.isName head.name.toList
  aliases : ∀ head ∈ heads sources, ∀ key ∈ head.aliasName, Lexer.isName key.toList

theorem WellNamed.namesIn {schema : Schema} {sources : List SourceDocument}
    (h : WellNamed schema sources) : NamesIn schema (heads sources) where
  types := h.types
  keys head hhead := by
    unfold FieldHead.responseKey
    cases hkey : head.aliasName with
    | none => exact h.fields head hhead
    | some key => exact h.aliases head hhead key hkey

/-- **Names of artifacts.** The names of factories are identifiers. So is the name of a shape,
unless the operation or fragment that it belongs to has a digit after its leading underscores: then
no name is. Besides, a name can be empty, namely if suffixes are off and the operation or fragment
is called by underscores alone. -/
theorem identifiers_of_artifacts {providers : Providers} {schema : Schema} {config : Config}
    {sources : List SourceDocument} {artifacts : List Artifact}
    (hnamed : WellNamed schema sources)
    (h : (generateSamples providers schema config sources).result = .ok artifacts) :
    ∀ a ∈ artifacts, TypeScript.isIdentifier a.factory.toList ∧
      (TypeScript.isIdentifier a.name.toList ↔
        a.name ≠ "" ∧ Text.leadsWithDigit a.operation.toList = false) ∧
      (a.name = "" → config.addOperationSuffix = false ∧
        a.operation.toList.all Text.isSeparator) := by
  obtain ⟨gs, after, hgenerated, rfl⟩ := exists_generated h
  have hvisited : (visited providers schema config sources (tasks sources)).run.run .start =
      (.ok gs, after) := hgenerated
  obtain ⟨checked, hrun⟩ := exists_run_visited hvisited
  rw [hrun] at hvisited
  intro a ha
  obtain ⟨g, hg, hoperation, r, hr, hreach⟩ := exists_generated_of_mem gs a ha
  obtain ⟨⟨task, htask, hname⟩, hunder⟩ := under_of_visitSubjects hnamed.namesIn
    (fun _ => allHeads_subset_of_mem_table) (fun _ => heads_subset_of_mem_tasks) hvisited g hg
  have hdefinition : Lexer.isName a.operation.toList := by
    obtain ⟨source, hsource, hmem⟩ := List.mem_flatMap.1 htask
    obtain ⟨subject, hsubject, rfl⟩ := List.mem_map.1 hmem
    rw [hoperation]
    exact hnamed.definitions source hsource subject hsubject _ hname
  have hshape : a.shape.name.Under (ShapeName.operationName a.operation)
      (!config.addOperationSuffix) := by
    rw [hoperation]
    rcases List.mem_cons.1 hr with rfl | hr
    · exact hunder.shape a.shape hreach
    · obtain ⟨v, hv, rfl⟩ := List.mem_map.1 hr
      exact (hunder.variants v hv).shape a.shape hreach
  obtain ⟨hfactory, hidentifier, hempty⟩ := hshape.isIdentifier_iff hdefinition
  refine ⟨hfactory, hidentifier, fun hnone => ⟨?_, (hempty hnone).2⟩⟩
  simpa using (hempty hnone).1

end Run

namespace Pets

/-- A query with the given name for the mood of an owner. -/
def moodQuery (name : String) : List SourceDocument :=
  [⟨[.operation ⟨.query, some name, [], [], [branch "owner" [leaf "mood"]]⟩], none⟩]

end Pets

namespace Run

theorem identifiers_of_artifacts_owner : WellNamed Pets.schema Pets.owner ∧ ∃ artifacts,
    (generateSamples Pets.providers Pets.schema .defaults Pets.owner).result = .ok artifacts ∧
    artifacts.length = 8 ∧
    ∀ a ∈ artifacts, TypeScript.isIdentifier a.name.toList ∧
      TypeScript.isIdentifier a.factory.toList := by
  have hnamed : WellNamed Pets.schema Pets.owner :=
    ⟨by decide +kernel, by decide +kernel, by decide +kernel, by decide +kernel⟩
  obtain ⟨artifacts, hresult, hcheck⟩ := Pets.exists_result Pets.owner
    (fun artifacts => artifacts.length == 8 &&
      artifacts.all fun a => a.name != "" && a.operation == "Home") (by decide +kernel)
  rw [Bool.and_eq_true, beq_iff_eq, List.all_eq_true] at hcheck
  refine ⟨hnamed, artifacts, hresult, hcheck.1, fun a ha => ?_⟩
  obtain ⟨hfactory, hname, -⟩ := identifiers_of_artifacts hnamed hresult a ha
  obtain ⟨hne, hoperation⟩ : a.name ≠ "" ∧ a.operation = "Home" := by
    simpa using hcheck.2 a ha
  exact ⟨hname.2 ⟨hne, by rw [hoperation]; decide⟩, hfactory⟩

/-- A query may be called by an underscore and a digit; the names of its shapes start with the
digit. -/
theorem numbered_query_names : WellNamed Pets.schema (Pets.moodQuery "_1") ∧ ∃ artifacts,
    (generateSamples Pets.providers Pets.schema .defaults (Pets.moodQuery "_1")).result =
      .ok artifacts ∧
    artifacts.map Artifact.name = ["1Owner", "1Query"] ∧
    ∀ a ∈ artifacts, TypeScript.isIdentifier a.name.toList = false := by
  have hnamed : WellNamed Pets.schema (Pets.moodQuery "_1") :=
    ⟨by decide +kernel, by decide +kernel, by decide +kernel, by decide +kernel⟩
  obtain ⟨artifacts, hresult, hcheck⟩ := Pets.exists_result (Pets.moodQuery "_1")
    (fun artifacts => artifacts.map Artifact.name == ["1Owner", "1Query"] &&
      artifacts.all fun a => !TypeScript.isIdentifier a.name.toList) (by decide +kernel)
  rw [Bool.and_eq_true, beq_iff_eq, List.all_eq_true] at hcheck
  exact ⟨hnamed, artifacts, hresult, hcheck.1, fun a ha => by simpa using hcheck.2 a ha⟩

end Run

end OperationSamples
