import OperationSamples.Shape.Build

/-!
References inside samples.

`Sample.factories` lists the factories that a sample refers to, however deep they stand. Values that
come from scalars hold none.

A slot says three times what it refers to: in the content of its field, in its sample and in its
dependencies. The three are written separately, when the slot is made and again when it is fixed to
an alternative, and they agree (`Slot.Linked`). So a shape that is put together from such slots
depends on the shapes that its fields refer to, and its sample refers to their factories and to no
others.
-/

namespace OperationSamples

namespace Sample

mutual

/-- The factories that a sample refers to, at any depth. -/
def factories : Sample → List String
  | .arr items => factoriesOfItems items
  | .obj members => factoriesOfMembers members
  | .factory name => [name]
  | _ => []

def factoriesOfItems : List Sample → List String
  | [] => []
  | item :: rest => factories item ++ factoriesOfItems rest

def factoriesOfMembers : List (String × Sample) → List String
  | [] => []
  | (_, value) :: rest => factories value ++ factoriesOfMembers rest

end

mutual

/-- A plain value refers to nothing. -/
@[simp] theorem factories_ofJson : ∀ value : Json, (ofJson value).factories = []
  | .null => rfl
  | .bool _ => rfl
  | .int _ => rfl
  | .float _ => rfl
  | .str _ => rfl
  | .arr items => by simp only [ofJson, factories, factoriesOfItems_ofJsons items]
  | .obj members => by simp only [ofJson, factories, factoriesOfMembers_ofMembers members]

theorem factoriesOfItems_ofJsons : ∀ items : List Json, factoriesOfItems (ofJsons items) = []
  | [] => rfl
  | item :: rest => by
    simp only [ofJsons, factoriesOfItems, factories_ofJson item, factoriesOfItems_ofJsons rest,
      List.append_nil]

theorem factoriesOfMembers_ofMembers :
    ∀ members : List (String × Json), factoriesOfMembers (ofMembers members) = []
  | [] => rfl
  | (_, value) :: rest => by
    simp only [ofMembers, factoriesOfMembers, factories_ofJson value,
      factoriesOfMembers_ofMembers rest, List.append_nil]

end

theorem mem_factoriesOfMembers {name : String} {members : List (String × Sample)} :
    name ∈ factoriesOfMembers members ↔ ∃ entry ∈ members, name ∈ entry.2.factories := by
  induction members with
  | nil => simp [factoriesOfMembers]
  | cons entry rest ih => simp [factoriesOfMembers, ih]

/-- A list of one element refers to what the element refers to. -/
@[simp] theorem factories_listIf (isList : Bool) (value : Sample) :
    (listIf isList value).factories = value.factories := by
  cases isList <;> simp [listIf, factories, factoriesOfItems]

end Sample

namespace Members

variable {α : Type}

/-- What stands in a dictionary after an assignment stood there before, or was assigned. -/
theorem mem_insert {members : Members α} {key : String} {value : α} {entry : String × α}
    (h : entry ∈ insert members key value) : entry ∈ members ∨ entry = (key, value) := by
  induction members with
  | nil => simpa [insert] using h
  | cons first rest ih =>
    obtain ⟨k, v⟩ := first
    by_cases hk : k = key
    · subst hk
      simp only [insert, beq_self_eq_true, if_true, List.mem_cons] at h
      rcases h with h | h
      · exact Or.inr h
      · exact Or.inl (List.mem_cons_of_mem _ h)
    · have hk' : (k == key) = false := by simpa using hk
      simp only [insert, hk', Bool.false_eq_true, if_false, List.mem_cons] at h
      rcases h with rfl | h
      · exact Or.inl List.mem_cons_self
      · exact (ih h).imp (List.mem_cons_of_mem _) id

/-- Every member of a dictionary is one of the assignments that made it. -/
theorem mem_of_mem_ofList {entries : List (String × α)} {entry : String × α}
    (h : entry ∈ ofList entries) : entry ∈ entries := by
  have hfold : ∀ (entries : List (String × α)) (members : Members α),
      entry ∈ entries.foldl (fun members e => insert members e.1 e.2) members →
        entry ∈ members ∨ entry ∈ entries := by
    intro entries
    induction entries with
    | nil => exact fun members h => Or.inl h
    | cons e rest ih =>
      intro members h
      rcases ih _ h with h | h
      · rcases mem_insert h with h | rfl
        · exact Or.inl h
        · exact Or.inr List.mem_cons_self
      · exact Or.inr (List.mem_cons_of_mem _ h)
  rcases hfold entries [] h with h | h
  · cases h
  · exact h

end Members

/-! ### Slots -/

/-- Whether a value stands for what content refers to: for a shape its factory, for a union that of
the first member, and for all other content a plain value. -/
def Content.StoodForBy (item : Sample) : Content Shape → Prop
  | .shape target => item = .factory target.name.factory
  | .union (first :: _) => item = .factory first.name.factory
  | _ => ∃ value, item = .ofJson value

theorem Content.StoodForBy.exists_target {content : Content Shape} {item : Sample} {name : String}
    (h : content.StoodForBy item) (hname : name ∈ item.factories) :
    ∃ t ∈ content.targets, t.name.factory = name := by
  cases content with
  | shape target =>
    rw [show item = .factory target.name.factory from h] at hname
    exact ⟨target, List.mem_singleton_self _, (List.mem_singleton.1 hname).symm⟩
  | union members =>
    cases members with
    | nil =>
      obtain ⟨value, rfl⟩ := h
      rw [Sample.factories_ofJson] at hname
      cases hname
    | cons first rest =>
      rw [show item = .factory first.name.factory from h] at hname
      exact ⟨first, List.mem_cons_self, (List.mem_singleton.1 hname).symm⟩
  | _ =>
    obtain ⟨value, rfl⟩ := h
    rw [Sample.factories_ofJson] at hname
    cases hname

namespace Slot

/-- Whether the sample and the dependencies of a slot stand for what its field refers to. -/
structure Linked (slot : Slot) : Prop where
  value : ∃ item, slot.value = .listIf slot.field.isList item ∧ slot.field.content.StoodForBy item
  dependencies : slot.dependencies = slot.field.content.targets

theorem linked_ofObject (info : FieldInfo) (child : Built) : (ofObject info child).Linked :=
  ⟨⟨_, rfl, rfl⟩, rfl⟩

theorem linked_ofUnion (info : FieldInfo) (members : List (String × Built)) :
    (ofUnion info members).Linked := by
  refine ⟨⟨_, rfl, ?_⟩, rfl⟩
  cases members with
  | nil => exact ⟨.null, rfl⟩
  | cons first rest => exact rfl

/-- Fixing a slot to an alternative writes its sample and its dependencies anew. -/
theorem linked_fixed (slot : Slot) (alternative : Variant) : (slot.fixed alternative).Linked :=
  ⟨⟨_, rfl, rfl⟩, rfl⟩

/-- Fixing the slot at a position keeps all others. -/
theorem mem_fixedAt {slots : List Slot} {position : Nat} {alternative : Variant} {slot : Slot}
    (h : slot ∈ fixedAt slots position alternative) :
    slot ∈ slots ∨ ∃ before ∈ slots, slot = before.fixed alternative := by
  obtain ⟨i, hi⟩ := List.mem_iff_getElem?.1 h
  rw [fixedAt, List.getElem?_modify] at hi
  obtain ⟨before, hbefore, hslot⟩ := Option.map_eq_some_iff.1 hi
  split at hslot
  · exact .inr ⟨before, List.mem_of_getElem? hbefore, hslot.symm⟩
  · exact .inl (hslot ▸ List.mem_of_getElem? hbefore)

theorem linked_fixedAt {slots : List Slot} (h : ∀ slot ∈ slots, slot.Linked) (position : Nat)
    (alternative : Variant) : ∀ slot ∈ fixedAt slots position alternative, slot.Linked := by
  intro slot hslot
  rcases mem_fixedAt hslot with hold | ⟨before, -, rfl⟩
  · exact h slot hold
  · exact linked_fixed before alternative

end Slot

namespace Shape

/-- Whether a shape is put together from the given slots. -/
def HasSlots (s : Shape) (slots : List Slot) : Prop :=
  s = ofSlots s.id s.name s.typeName s.path s.depth slots

section HasSlots

variable {s : Shape} {slots : List Slot}

theorem HasSlots.fields (h : s.HasSlots slots) : s.fields = slots.map Slot.field :=
  congrArg Shape.fields h

theorem HasSlots.value (h : s.HasSlots slots) :
    s.value = Members.ofList (slots.map fun slot => (slot.field.name, slot.value)) :=
  congrArg Shape.value h

theorem HasSlots.dependencies (h : s.HasSlots slots) :
    s.dependencies = slots.flatMap Slot.dependencies := congrArg Shape.dependencies h

end HasSlots

/-- Whether a shape is put together from slots in which samples and dependencies stand for what the
fields refer to. -/
def Linked (s : Shape) : Prop := ∃ slots, (∀ slot ∈ slots, slot.Linked) ∧ s.HasSlots slots

variable {s : Shape}

/-- A shape depends on what its fields refer to. -/
theorem Linked.mem_dependencies (h : s.Linked) {t : Shape} :
    t ∈ s.dependencies ↔ ∃ f ∈ s.fields, t ∈ f.content.targets := by
  obtain ⟨slots, hslots, hs⟩ := h
  rw [hs.dependencies, hs.fields]
  constructor
  · intro ht
    obtain ⟨slot, hslot, ht⟩ := List.mem_flatMap.1 ht
    exact ⟨slot.field, List.mem_map_of_mem hslot, (hslots slot hslot).dependencies ▸ ht⟩
  · rintro ⟨f, hf, ht⟩
    obtain ⟨slot, hslot, rfl⟩ := List.mem_map.1 hf
    exact List.mem_flatMap.2 ⟨slot, hslot, (hslots slot hslot).dependencies ▸ ht⟩

/-- The sample value of a shape refers only to shapes that the shape depends on. -/
theorem Linked.factories_value (h : s.Linked) {name : String}
    (hname : name ∈ (Sample.obj s.value).factories) :
    ∃ t ∈ s.dependencies, t.name.factory = name := by
  obtain ⟨slots, hslots, hs⟩ := h
  rw [hs.dependencies]
  rw [hs.value, Sample.factories, Sample.mem_factoriesOfMembers] at hname
  obtain ⟨entry, hentry, hname⟩ := hname
  obtain ⟨slot, hslot, rfl⟩ := List.mem_map.1 (Members.mem_of_mem_ofList hentry)
  obtain ⟨item, hvalue, hitem⟩ := (hslots slot hslot).value
  rw [hvalue, Sample.factories_listIf] at hname
  obtain ⟨t, ht, hfactory⟩ := hitem.exists_target hname
  rw [← (hslots slot hslot).dependencies] at ht
  exact ⟨t, List.mem_flatMap.2 ⟨slot, hslot, ht⟩, hfactory⟩

end Shape

end OperationSamples
