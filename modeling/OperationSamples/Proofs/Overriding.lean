import OperationSamples.Artifact.Registry
import OperationSamples.Proofs.Dictionaries
import OperationSamples.Proofs.Order

/-!
What overriding changes in a value, and what it keeps.

A value is looked at along paths of keys (`Json.at?`), which lead through objects only. Overriding
works key by key: below a key that both sides have, the one value is overridden by the other, and
below any other key the value stays what it was (`get?_override`). Followed along a path, this gives
the value at every path that occurs in the overrides (`at?_override_of_some`) and at every path that
they do not touch (`at?_override_of_none`).

What stands at the end of a path in the overrides replaces what was there, unless it is null: null
keeps what the value has at that path, and only adds a null where it has nothing
(`override_wins_iff`). Overriding twice is the same as overriding once, and keys keep their order
(`override_idempotent_and_local`).
-/

namespace OperationSamples

namespace Json

/-! ### Paths -/

/-- The value that a path of keys leads to. -/
def at? : Json → List String → Option Json
  | value, [] => some value
  | value, key :: rest => (value.get? key).bind fun inner => inner.at? rest

@[simp] theorem at?_nil (value : Json) : value.at? [] = some value := rfl

theorem at?_cons (value : Json) (key : String) (rest : List String) :
    value.at? (key :: rest) = (value.get? key).bind fun inner => inner.at? rest := rfl

def isObject : Json → Bool
  | .obj _ => true
  | _ => false

theorem obj_or_not_isObject (value : Json) :
    (∃ members, value = .obj members) ∨ value.isObject = false := by
  cases value <;> simp [isObject]

/-- Only objects have something under a key. -/
theorem get?_of_not_isObject {value : Json} (h : value.isObject = false) (key : String) :
    value.get? key = none := by
  cases value with
  | obj members => simp [isObject] at h
  | _ => rfl

theorem exists_obj_of_get? {value inner : Json} {key : String} (h : value.get? key = some inner) :
    ∃ members, value = .obj members ∧ Members.get? members key = some inner := by
  cases value with
  | obj members => exact ⟨members, rfl, h⟩
  | _ => cases h

theorem at?_obj_of_get? {members : List (String × Json)} {key : String} {inner : Json}
    (h : Members.get? members key = some inner) (rest : List String) :
    (Json.obj members).at? (key :: rest) = inner.at? rest := by
  have hget : (Json.obj members).get? key = some inner := h
  rw [at?_cons, hget, Option.bind_some]

/-! ### Repeated keys -/

mutual

/-- Whether every object in a value has each of its keys once. -/
def distinctKeys : Json → Bool
  | .arr items => distinctKeysInItems items
  | .obj members => decide (Members.keys members).Nodup && distinctKeysInMembers members
  | _ => true

def distinctKeysInItems : List Json → Bool
  | [] => true
  | item :: rest => distinctKeys item && distinctKeysInItems rest

def distinctKeysInMembers : List (String × Json) → Bool
  | [] => true
  | (_, value) :: rest => distinctKeys value && distinctKeysInMembers rest

end

theorem distinctKeys_arr {items : List Json} :
    (Json.arr items).distinctKeys = true ↔ ∀ item ∈ items, item.distinctKeys = true := by
  rw [distinctKeys]
  induction items with
  | nil => simp [distinctKeysInItems]
  | cons item rest ih => simp [distinctKeysInItems, ih]

theorem distinctKeysInMembers_iff {members : List (String × Json)} :
    distinctKeysInMembers members = true ↔ ∀ entry ∈ members, entry.2.distinctKeys = true := by
  induction members with
  | nil => simp [distinctKeysInMembers]
  | cons entry rest ih => simp [distinctKeysInMembers, ih]

theorem distinctKeys_obj {members : List (String × Json)} :
    (Json.obj members).distinctKeys = true ↔
      (Members.keys members).Nodup ∧ ∀ entry ∈ members, entry.2.distinctKeys = true := by
  simp [distinctKeys, distinctKeysInMembers_iff]

theorem distinctKeys_of_at? {value part : Json} {path : List String}
    (hkeys : value.distinctKeys = true) (hpart : value.at? path = some part) :
    part.distinctKeys = true := by
  induction path generalizing value with
  | nil =>
    obtain rfl : value = part := by simpa using hpart
    exact hkeys
  | cons key rest ih =>
    obtain ⟨inner, hinner, hrest⟩ := Option.bind_eq_some_iff.1 hpart
    obtain ⟨members, rfl, hget⟩ := exists_obj_of_get? hinner
    exact ih ((distinctKeys_obj.1 hkeys).2 _ (Members.mem_of_get? hget)) hrest

/-! ### Key by key -/

/-- What stands under a key after overriding: below keys that differ, each side gives what it has,
and below a common key the one value is overridden by the other. -/
theorem get?_overrideMembers {overrides : List (String × Json)}
    (h : (Members.keys overrides).Nodup) (members : List (String × Json)) (key : String) :
    Members.get? (overrideMembers members overrides) key =
      Option.merge override (Members.get? members key) (Members.get? overrides key) := by
  induction overrides generalizing members with
  | nil => simp [overrideMembers]
  | cons entry rest ih =>
    obtain ⟨k, value⟩ := entry
    obtain ⟨hnew, hrest⟩ := List.nodup_cons.1 h
    rw [overrideMembers, ih hrest]
    by_cases hkey : k = key
    · subst hkey
      rw [Members.get?_insert_self, Members.get?_eq_none hnew, Option.merge_none_right]
      cases hbase : Members.get? members k <;> simp [Members.get?]
    · rw [Members.get?_insert_of_ne _ _ hkey]
      simp [Members.get?, hkey]

/-- Overriding never moves a key, and adds new keys at the end. -/
theorem keys_overrideMembers {overrides : List (String × Json)}
    (h : (Members.keys overrides).Nodup) (members : List (String × Json)) :
    Members.keys (overrideMembers members overrides) =
      Members.keys members ++
        (Members.keys overrides).filter fun key => decide (key ∉ Members.keys members) := by
  induction overrides generalizing members with
  | nil => simp [overrideMembers, Members.keys]
  | cons entry rest ih =>
    obtain ⟨k, value⟩ := entry
    obtain ⟨hnew, hrest⟩ := List.nodup_cons.1 h
    rw [overrideMembers, ih hrest, Members.keys_insert]
    have hkeys : Members.keys ((k, value) :: rest) = k :: Members.keys rest := rfl
    by_cases hk : k ∈ Members.keys members
    · simp [hk, hkeys]
    · -- the new key does not come again, so that it does not matter to the rest of the overrides
      have hothers : ∀ key ∈ Members.keys rest,
          decide (key ∉ Members.keys members ++ [k]) = decide (key ∉ Members.keys members) := by
        intro key hkey
        have hne : key ≠ k := fun heq => hnew (heq ▸ hkey)
        simp [hne]
      rw [if_neg hk, List.filter_congr hothers, hkeys, List.filter_cons_of_pos (by simpa using hk),
        List.append_assoc, List.singleton_append]

/-- Members that hold already what the overrides would put there stay as they are. -/
theorem overrideMembers_of_get? {members overrides : List (String × Json)}
    (h : ∀ entry ∈ overrides, ∃ value,
      Members.get? members entry.1 = some value ∧ value.override entry.2 = value) :
    overrideMembers members overrides = members := by
  induction overrides with
  | nil => simp [overrideMembers]
  | cons entry rest ih =>
    obtain ⟨key, value⟩ := entry
    obtain ⟨hfirst, hrest⟩ := List.forall_mem_cons.1 h
    obtain ⟨held, hget, hsame⟩ := hfirst
    rw [overrideMembers, hget]
    dsimp only
    rw [hsame, Members.insert_of_get? hget]
    exact ih hrest

@[simp] theorem override_null (base : Json) : base.override .null = base := by
  simp [override]

@[simp] theorem null_override (overrides : Json) : Json.null.override overrides = overrides := by
  cases overrides <;> simp [override]

theorem override_obj_of_not_isObject {base : Json} (h : base.isObject = false)
    (overrides : List (String × Json)) : base.override (.obj overrides) = .obj overrides := by
  cases base with
  | obj members => simp [isObject] at h
  | _ => simp [override]

theorem override_of_not_isObject {overrides : Json} (h : overrides.isObject = false)
    (hnull : overrides ≠ .null) (base : Json) : base.override overrides = overrides := by
  cases overrides with
  | null => exact absurd rfl hnull
  | obj members => simp [isObject] at h
  | _ => simp [override]

theorem get?_override {overrides : List (String × Json)} (h : (Members.keys overrides).Nodup)
    (base : Json) (key : String) :
    (base.override (.obj overrides)).get? key =
      Option.merge override (base.get? key) (Members.get? overrides key) := by
  rcases base.obj_or_not_isObject with ⟨members, rfl⟩ | hbase
  · rw [override]
    exact get?_overrideMembers h members key
  · rw [override_obj_of_not_isObject hbase, get?_of_not_isObject hbase, Option.merge_none_left]
    rfl

/-! ### Along a path -/

/-- Where a path occurs in the overrides, they override what stands at that path, and put their own
value there if nothing does. -/
theorem at?_override_of_some {overrides value : Json} {path : List String}
    (hkeys : overrides.distinctKeys = true) (hvalue : overrides.at? path = some value)
    (base : Json) :
    (base.override overrides).at? path = Option.merge override (base.at? path) (some value) := by
  induction path generalizing base overrides with
  | nil =>
    obtain rfl : overrides = value := by simpa using hvalue
    simp
  | cons key rest ih =>
    obtain ⟨inner, hinner, hrest⟩ := Option.bind_eq_some_iff.1 hvalue
    obtain ⟨members, rfl, hget⟩ := exists_obj_of_get? hinner
    obtain ⟨hnodup, hall⟩ := distinctKeys_obj.1 hkeys
    have hdistinct : inner.distinctKeys = true := hall _ (Members.mem_of_get? hget)
    rw [at?_cons, at?_cons, get?_override hnodup, hget]
    cases hbase : base.get? key with
    | none => simpa using hrest
    | some part => simpa using ih hdistinct hrest part

/-- Where a path does not occur in the overrides, and they have no value on the way to it that
replaces an object, what stands at that path stays. -/
theorem at?_override_of_none {overrides : Json} {path : List String}
    (hkeys : overrides.distinctKeys = true) (hnone : overrides.at? path = none)
    (hway : ∀ before, before <+: path → before ≠ path →
      ∀ value, overrides.at? before = some value → value.isObject = true)
    (base : Json) : (base.override overrides).at? path = base.at? path := by
  induction path generalizing base overrides with
  | nil => simp at hnone
  | cons key rest ih =>
    have hobject : overrides.isObject = true :=
      hway [] List.nil_prefix (List.cons_ne_nil key rest).symm overrides rfl
    cases overrides with
    | obj members =>
      obtain ⟨hnodup, hall⟩ := distinctKeys_obj.1 hkeys
      rw [at?_cons, at?_cons, get?_override hnodup]
      cases hget : Members.get? members key with
      | none => simp
      | some inner =>
        have hdistinct : inner.distinctKeys = true := hall _ (Members.mem_of_get? hget)
        rw [at?_obj_of_get? hget] at hnone
        have hbelow : ∀ before, before <+: rest → before ≠ rest →
            ∀ value, inner.at? before = some value → value.isObject = true := by
          intro before hprefix hne value hvalue
          refine hway (key :: before) (List.cons_prefix_cons.2 ⟨rfl, hprefix⟩) ?_ value ?_
          · simpa using hne
          · rwa [at?_obj_of_get? hget]
        cases hbase : base.get? key with
        | none => simpa using hnone
        | some part => simpa using ih hdistinct hnone hbelow part
    | _ => simp [isObject] at hobject

/-! ### Overriding twice -/

/-- Overriding members twice is overriding them once, if it is so for each of the values. -/
theorem overrideMembers_overrideMembers {overrides : List (String × Json)}
    (hkeys : (Members.keys overrides).Nodup)
    (h : ∀ entry ∈ overrides, ∀ base : Json,
      (base.override entry.2).override entry.2 = base.override entry.2)
    (members : List (String × Json)) :
    overrideMembers (overrideMembers members overrides) overrides =
      overrideMembers members overrides := by
  apply overrideMembers_of_get?
  intro entry hentry
  rw [get?_overrideMembers hkeys, Members.get?_of_mem hkeys hentry]
  cases Members.get? members entry.1 with
  | none =>
    -- the value was added as it is, which is what it gives in the place of null
    refine ⟨entry.2, by simp, ?_⟩
    simpa using h entry hentry .null
  | some base => exact ⟨base.override entry.2, by simp, h entry hentry base⟩

mutual

theorem override_override : ∀ overrides : Json, overrides.distinctKeys = true → ∀ base : Json,
    (base.override overrides).override overrides = base.override overrides
  | .null => fun _ base => by simp
  | .bool _ => fun _ base => by simp [override]
  | .int _ => fun _ base => by simp [override]
  | .float _ => fun _ base => by simp [override]
  | .str _ => fun _ base => by simp [override]
  | .arr _ => fun _ base => by simp [override]
  | .obj overrides => fun hkeys base => by
    obtain ⟨hnodup, hall⟩ := distinctKeys_obj.1 hkeys
    have hmembers := override_override_of_mem overrides hall
    rcases base.obj_or_not_isObject with ⟨members, rfl⟩ | hbase
    · rw [override, override, overrideMembers_overrideMembers hnodup hmembers]
    · -- the overrides replaced the base, and have nothing to change in themselves
      rw [override_obj_of_not_isObject hbase, override]
      refine congrArg Json.obj (overrideMembers_of_get? ?_)
      intro entry hentry
      refine ⟨entry.2, Members.get?_of_mem hnodup hentry, ?_⟩
      simpa using hmembers entry hentry .null

theorem override_override_of_mem : ∀ overrides : List (String × Json),
    (∀ entry ∈ overrides, entry.2.distinctKeys = true) → ∀ entry ∈ overrides, ∀ base : Json,
      (base.override entry.2).override entry.2 = base.override entry.2
  | [] => fun _ entry hentry => by cases hentry
  | (_, value) :: rest => fun hall => by
    obtain ⟨hfirst, hrest⟩ := List.forall_mem_cons.1 hall
    exact List.forall_mem_cons.2
      ⟨override_override value hfirst, override_override_of_mem rest hrest⟩

end

end Json

/-! ### Main statements -/

namespace Pets

/-- An owner with tags, as a value. -/
def answer : Json :=
  .obj [("owner", .obj [("mood", .str "CALM"), ("age", .int 3)]), ("tags", .arr [.int 1, .int 2])]

/-- Nulls under a key that the owner has and under a new one, and a list without tags. -/
def changes : Json :=
  .obj [("tags", .arr []), ("owner", .obj [("pet", .obj [("mood", .null)]), ("mood", .null)])]

end Pets

/-- **Overrides win, null apart.** A path in the overrides that leads to anything but an object leads
to the same value after overriding, exactly if that value is not null, or the overridden value had
null or nothing there. Null keeps what was there. Building from a registry overrides the value that
it materializes. -/
theorem override_wins_iff {overrides value : Json} {path : List String}
    (hkeys : overrides.distinctKeys = true) (hvalue : overrides.at? path = some value)
    (hleaf : value.isObject = false) (base : Json) :
    ((base.override overrides).at? path = some value ↔
      (value = .null → (base.at? path).getD .null = .null)) ∧
    (value = .null → (base.override overrides).at? path = some ((base.at? path).getD .null)) ∧
    ∀ (r : Registry) (name : String), r.materialize name = .ok base →
      r.build name overrides = .ok (base.override overrides) := by
  have hresult := Json.at?_override_of_some hkeys hvalue base
  have hkept : value = .null →
      (base.override overrides).at? path = some ((base.at? path).getD .null) := by
    rintro rfl
    rw [hresult]
    cases base.at? path <;> simp
  refine ⟨?_, hkept, ?_⟩
  · by_cases hnull : value = .null
    · rw [hkept hnull, hnull]
      simp
    · have hwins : (base.override overrides).at? path = some value := by
        rw [hresult]
        cases base.at? path with
        | none => simp
        | some part => simp [Json.override_of_not_isObject hleaf hnull]
      simp [hwins, hnull]
  · intro r name hsample
    rw [Registry.build, hsample]
    rfl

/-- A null under a key that the owner does not have is set. -/
theorem override_wins_iff_pet :
    Pets.changes.distinctKeys = true ∧
    Pets.changes.at? ["owner", "pet", "mood"] = some .null ∧
    Pets.answer.at? ["owner", "pet", "mood"] = none ∧
    (Pets.answer.override Pets.changes).at? ["owner", "pet", "mood"] = some .null := by
  have hkeys : Pets.changes.distinctKeys = true := by decide
  have hvalue : Pets.changes.at? ["owner", "pet", "mood"] = some .null := rfl
  have hwins := override_wins_iff hkeys hvalue rfl Pets.answer
  exact ⟨hkeys, hvalue, rfl, hwins.1.2 fun _ => rfl⟩

/-- The text that a value consists of. -/
def Json.text? : Json → Option String
  | .str s => some s
  | _ => none

theorem Json.eq_str_of_text? {value : Json} {text : String} (h : value.text? = some text) :
    value = .str text := by
  cases value with
  | str s => exact congrArg Json.str (Option.some.inj h)
  | _ => cases h

/-- The mood of a person may be null, and yet no override sets the mood of a built sample to null. -/
theorem null_not_set : ∃ artifacts built,
    (generateSamples Pets.providers Pets.schema .defaults Pets.friends).result = .ok artifacts ∧
    (Json.obj [("mood", .null)]).at? ["mood"] = some .null ∧
    (Registry.mk artifacts).build "HomeOwnerFriend" (.obj [("mood", .null)]) = .ok built ∧
    built.at? ["mood"] = some (.str "CALM") := by
  obtain ⟨artifacts, hresult, hcheck⟩ := Pets.exists_result Pets.friends
    (fun artifacts => (((Registry.mk artifacts).build "HomeOwnerFriend"
      (.obj [("mood", .null)])).toOption.bind fun built =>
        (built.at? ["mood"]).bind Json.text?) == some "CALM")
    (by decide +kernel)
  obtain ⟨built, hbuilt, htext⟩ := Option.bind_eq_some_iff.1 (beq_iff_eq.1 hcheck)
  obtain ⟨mood, hmood, htext⟩ := Option.bind_eq_some_iff.1 htext
  refine ⟨artifacts, built, hresult, rfl, ?_, ?_⟩
  · cases hbuild : (Registry.mk artifacts).build "HomeOwnerFriend" (.obj [("mood", .null)]) with
    | ok value =>
      rw [hbuild] at hbuilt
      rw [Option.some.inj hbuilt]
    | error fault =>
      rw [hbuild] at hbuilt
      cases hbuilt
  · rw [hmood, Json.eq_str_of_text? htext]

/-- **Overriding is idempotent and local.** Overriding a second time changes nothing. At every path
at which both sides have an object the keys of the overridden one come first, in their order, and
the new keys follow in the order of the overrides. At every path that does not occur in the
overrides, and on the way to which they hold objects only, the value stays. -/
theorem override_idempotent_and_local {overrides : Json} (hkeys : overrides.distinctKeys = true)
    (base : Json) :
    (base.override overrides).override overrides = base.override overrides ∧
    (∀ path members others, base.at? path = some (.obj members) →
      overrides.at? path = some (.obj others) →
      ∃ result, (base.override overrides).at? path = some (.obj result) ∧
        Members.keys result = Members.keys members ++
          (Members.keys others).filter fun key => decide (key ∉ Members.keys members)) ∧
    ∀ path value, base.at? path = some value → overrides.at? path = none →
      (∀ before, before <+: path → before ≠ path →
        ∀ part, overrides.at? before = some part → part.isObject = true) →
      (base.override overrides).at? path = some value := by
  refine ⟨Json.override_override overrides hkeys base, ?_, ?_⟩
  · intro path members others hbase hothers
    have hnodup := (Json.distinctKeys_obj.1 (Json.distinctKeys_of_at? hkeys hothers)).1
    refine ⟨Json.overrideMembers members others, ?_, Json.keys_overrideMembers hnodup members⟩
    rw [Json.at?_override_of_some hkeys hothers, hbase]
    simp [Json.override]
  · intro path value hbase hnone hway
    rw [Json.at?_override_of_none hkeys hnone hway, hbase]

/-- The owner's pet is new and comes last, and the age stays. -/
theorem override_idempotent_and_local_owner :
    Pets.changes.distinctKeys = true ∧
    (Pets.answer.override Pets.changes).override Pets.changes =
      Pets.answer.override Pets.changes ∧
    (∃ result, (Pets.answer.override Pets.changes).at? ["owner"] = some (.obj result) ∧
      Members.keys result = ["mood", "age", "pet"]) ∧
    (Pets.answer.override Pets.changes).at? ["owner", "age"] = some (.int 3) := by
  have hkeys : Pets.changes.distinctKeys = true := by decide
  obtain ⟨htwice, hobjects, hkept⟩ := override_idempotent_and_local hkeys Pets.answer
  refine ⟨hkeys, htwice, hobjects ["owner"] _ _ rfl rfl, hkept ["owner", "age"] _ rfl rfl ?_⟩
  intro before hprefix hne part hpart
  -- on the way to the age the overrides have the whole object and the owner
  rcases List.prefix_cons_iff.1 hprefix with rfl | ⟨rest, rfl, hrest⟩
  · cases hpart
    rfl
  · rcases List.prefix_cons_iff.1 hrest with rfl | ⟨rest, rfl, hend⟩
    · cases hpart
      rfl
    · simp [List.prefix_nil.1 hend] at hne

end OperationSamples
