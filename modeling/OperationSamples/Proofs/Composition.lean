import OperationSamples.Proofs.Depth
import OperationSamples.Proofs.Materialize
import OperationSamples.Proofs.Overriding

/-!
Building through references.

A sample refers to other artifacts by their factories. Following a path of keys from an artifact to
the artifacts it refers to (`Registry.follow?`) goes the same way as the path through its
materialized value: what stands at the path is the materialized value of the artifact that was
reached (`Ordered.at?_materialize`). Overrides that are nested along the path (`Json.nested`) meet
that value and nothing beside the path. Building the first artifact with nested overrides therefore
builds the last one inside of it (`build_along_references`).
-/

namespace OperationSamples

namespace Json

/-! ### Overrides along a path -/

/-- Overrides for what stands at a path. -/
def nested : List String → Json → Json
  | [], value => value
  | key :: rest, value => .obj [(key, nested rest value)]

/-- Nested overrides change what stands under their first key, and no other key. -/
theorem get?_override_nested (base : Json) (key : String) (rest : List String) (value : Json)
    (other : String) :
    (base.override (nested (key :: rest) value)).get? other =
      if key = other then Option.merge override (base.get? other) (some (nested rest value))
      else base.get? other := by
  rw [nested, get?_override (by simp [Members.keys])]
  by_cases hkey : key = other <;> simp [Members.get?, hkey]

theorem at?_override_nested {base part : Json} {path : List String}
    (h : base.at? path = some part) (value : Json) :
    (base.override (nested path value)).at? path = some (part.override value) := by
  induction path generalizing base with
  | nil =>
    obtain rfl : base = part := by simpa using h
    rfl
  | cons key rest ih =>
    obtain ⟨inner, hinner, hrest⟩ := Option.bind_eq_some_iff.1 h
    rw [at?_cons, get?_override_nested, if_pos rfl, hinner]
    simpa using ih hrest

theorem at?_override_nested_beside (base : Json) (before : List String) {next key : String}
    (hne : key ≠ next) (rest : List String) (value : Json) :
    (base.override (nested (before ++ next :: rest) value)).at? (before ++ [key]) =
      base.at? (before ++ [key]) := by
  induction before generalizing base with
  | nil =>
    rw [List.nil_append, List.nil_append, at?_cons, at?_cons, get?_override_nested,
      if_neg hne.symm]
  | cons first before ih =>
    rw [List.cons_append, List.cons_append, at?_cons, at?_cons, get?_override_nested, if_pos rfl]
    cases base.get? first with
    | some inner => simpa using ih inner
    | none =>
      -- the overrides stand alone here, as if they overrode null, which has no keys
      have hnull : Json.null.at? (before ++ [key]) = none := by
        cases before <;> rfl
      simpa [hnull] using ih .null

end Json

namespace Registry

/-! ### Following references -/

/-- The artifact that a path of keys leads to, when what stands under each key is a reference. -/
def follow? (r : Registry) : Artifact → List String → Option Artifact
  | a, [] => some a
  | a, key :: rest =>
    match Members.get? a.value key with
    | some (.factory name) => (r.get? name).bind fun next => r.follow? next rest
    | _ => none

variable {r : Registry}

theorem exists_next_of_follow? {a b : Artifact} {key : String} {rest : List String}
    (h : r.follow? a (key :: rest) = some b) :
    ∃ name next, Members.get? a.value key = some (.factory name) ∧ r.get? name = some next ∧
      r.follow? next rest = some b := by
  rw [follow?] at h
  split at h
  · next name hname =>
    obtain ⟨next, hnext, hrest⟩ := Option.bind_eq_some_iff.1 h
    exact ⟨name, next, hname, hnext, hrest⟩
  · cases h

theorem get?_name_of_mem_entries {a : Artifact} (h : a ∈ r.entries) : r.get? a.name = some a := by
  obtain ⟨name, -, hfind⟩ := List.mem_filterMap.1 h
  obtain rfl : a.name = name := by simpa using List.find?_some hfind
  rw [get?, hfind]
  rfl

/-- Whatever is looked up is also found under its own name. Among artifacts with proper names, those
with the same factory are those with the same name. -/
theorem Ordered.get?_name (h : r.Ordered) {name : String} {a : Artifact}
    (hget : r.get? name = some a) : r.get? a.name = some a := by
  rw [get?] at hget ⊢
  cases hfind : r.artifacts.find? fun b => b.name == name with
  | some b =>
    rw [hfind] at hget
    cases hget
    obtain rfl : a.name = name := by simpa using List.find?_some hfind
    rw [hfind]
    rfl
  | none =>
    rw [hfind] at hget
    have hfactory : (r.artifacts.find? fun b => b.factory == name) = some a := hget
    have ha : a.factory = name := by simpa using List.find?_some hfactory
    have hproper := h.proper a (List.mem_of_find?_eq_some hfactory)
    obtain ⟨-, before, after, hlist, hbefore⟩ := List.find?_eq_some_iff_append.1 hfactory
    have hname : (r.artifacts.find? fun b => b.name == a.name) = some a := by
      refine List.find?_eq_some_iff_append.2 ⟨beq_self_eq_true _, before, after, hlist, ?_⟩
      intro b hb
      -- an earlier artifact with the name would have the factory
      have hb' : b ∈ r.artifacts := by simp [hlist, hb]
      have hother : b.factory ≠ name := by simpa using hbefore b hb
      have hne : b.name ≠ a.name := by
        intro heq
        apply hother
        rw [← ha, Artifact.factory, Artifact.factory, (h.proper b hb').factory, hproper.factory]
        exact congrArg ShapeName.factoryFor heq
      simpa using hne
    rw [hname]
    rfl

/-- Names that lead to the same artifact have the same value. -/
theorem materialize_eq_of_get? {name other : String} {a : Artifact} (h : r.get? name = some a)
    (h' : r.get? other = some a) : r.materialize name = r.materialize other := by
  simp only [materialize, materializeWithin, get, h, h']

theorem get?_of_resolveMembers {follow : String → Except RegistryFault Json}
    {samples : List (String × Sample)} {values : List (String × Json)}
    (h : resolveMembers follow samples = .ok values) {key : String} {sample : Sample}
    (hsample : Members.get? samples key = some sample) :
    ∃ value, Members.get? values key = some value ∧ resolve follow sample = .ok value := by
  induction samples generalizing values with
  | nil => cases hsample
  | cons entry rest ih =>
    obtain ⟨k, item⟩ := entry
    rw [resolveMembers] at h
    obtain ⟨value, hvalue, h⟩ := exists_of_bind h
    obtain ⟨others, hothers, h⟩ := exists_of_bind h
    cases h
    by_cases hkey : k = key
    · obtain rfl : item = sample := by simpa [Members.get?, hkey] using hsample
      exact ⟨value, by simp [Members.get?, hkey], hvalue⟩
    · simp only [Members.get?, beq_iff_eq, hkey, if_false] at hsample ⊢
      exact ih hothers hsample

/-- The value of an artifact is an object with what its members are resolved to. -/
theorem Ordered.exists_members (h : r.Ordered) {name : String} {a : Artifact}
    (ha : r.get? name = some a) :
    ∃ values, r.materialize name = .ok (.obj values) ∧
      resolveMembers r.materialize a.value = .ok values := by
  have hcontains : r.contains name = true := by simp [contains, ha]
  obtain ⟨a', value, hget, hvalue, hresolve, -⟩ := h.exists_materialize hcontains
  obtain rfl : a = a' := Option.some.inj (ha.symm.trans hget)
  rw [resolve] at hresolve
  obtain ⟨values, hvalues, hobj⟩ := exists_of_bind hresolve
  cases hobj
  exact ⟨values, hvalue, hvalues⟩

/-- Following references by keys is following the same keys through the value. -/
theorem Ordered.at?_materialize (h : r.Ordered) {path : List String} {a b : Artifact}
    (ha : r.get? a.name = some a) (hpath : r.follow? a path = some b) :
    ∃ whole part, r.materialize a.name = .ok whole ∧ whole.at? path = some part ∧
      r.materialize b.name = .ok part := by
  obtain ⟨values, hwhole, hvalues⟩ := h.exists_members ha
  induction path generalizing a values with
  | nil =>
    obtain rfl : a = b := by simpa [follow?] using hpath
    exact ⟨_, _, hwhole, rfl, hwhole⟩
  | cons key rest ih =>
    obtain ⟨name, next, hname, hnext, hrest⟩ := exists_next_of_follow? hpath
    obtain ⟨value, hvalue, hresolve⟩ := get?_of_resolveMembers hvalues hname
    -- the reference is replaced by what the artifact it leads to has under its own name
    have hown := h.get?_name hnext
    have hinner : r.materialize next.name = .ok value := by
      rw [← materialize_eq_of_get? hnext hown]
      exact hresolve
    obtain ⟨members, hmembers, hbelow⟩ := h.exists_members hown
    obtain ⟨inner, part, hinner', hat, hpart⟩ := ih hown hrest members hmembers hbelow
    obtain rfl : value = inner := Except.ok.inj (hinner.symm.trans hinner')
    refine ⟨.obj values, part, hwhole, ?_, hpart⟩
    rw [Json.at?_obj_of_get? hvalue, hat]

end Registry

/-- **Building composes along references.** From an artifact that the registry lists, a path of keys
leads over references to another one. Overrides that are nested along the path give, at the end of
the path, what they give for the last artifact alone. Beside the path everything is as in the value
of the first artifact without overrides. -/
theorem build_along_references {providers : Providers} {schema : Schema} {config : Config}
    {sources : List SourceDocument}
    {artifacts : List Artifact}
    (h : (generateSamples providers schema config sources).result = .ok artifacts)
    {first last : Artifact} {path : List String} (hfirst : first ∈ (Registry.mk artifacts).entries)
    (hpath : (Registry.mk artifacts).follow? first path = some last) (overrides : Json) :
    ∃ whole built part,
      (Registry.mk artifacts).materialize first.name = .ok whole ∧
      (Registry.mk artifacts).build first.name (.nested path overrides) = .ok built ∧
      (Registry.mk artifacts).build last.name overrides = .ok part ∧
      built.at? path = some part ∧
      ∀ before next rest key, path = before ++ next :: rest → key ≠ next →
        built.at? (before ++ [key]) = whole.at? (before ++ [key]) := by
  obtain ⟨gs, w, trees, hemitted⟩ := Run.exists_emitted h
  have hown := Registry.get?_name_of_mem_entries hfirst
  obtain ⟨whole, part, hwhole, hat, hpart⟩ := hemitted.ordered.at?_materialize hown hpath
  refine ⟨whole, whole.override (.nested path overrides), part.override overrides, hwhole, ?_, ?_,
    Json.at?_override_nested hat overrides, ?_⟩
  · rw [Registry.build, hwhole]
    rfl
  · rw [Registry.build, hpart]
    rfl
  · intro before next rest key hsplit hne
    rw [hsplit]
    exact Json.at?_override_nested_beside whole before hne rest overrides

/-- The friend of the owner is built inside the query. The reference leads to the first of two
artifacts with one name. -/
theorem build_along_references_friend : ∃ artifacts first last whole built part,
    (generateSamples Pets.providers Pets.schema .defaults Pets.friends).result = .ok artifacts ∧
    artifacts.map Artifact.name =
      ["HomeOwnerFriend", "HomeOwnerFriend", "HomeOwner", "HomeQuery"] ∧
    first ∈ (Registry.mk artifacts).entries ∧ first.name = "HomeQuery" ∧
    (Registry.mk artifacts).follow? first ["owner", "friend"] = some last ∧
    last.name = "HomeOwnerFriend" ∧
    (Registry.mk artifacts).materialize "HomeQuery" = .ok whole ∧
    (Registry.mk artifacts).build "HomeQuery"
      (.obj [("owner", .obj [("friend", .obj [("mood", .str "GLAD")])])]) = .ok built ∧
    (Registry.mk artifacts).build "HomeOwnerFriend" (.obj [("mood", .str "GLAD")]) = .ok part ∧
    built.at? ["owner", "friend"] = some part ∧
    built.at? ["ownerFriend"] = whole.at? ["ownerFriend"] := by
  obtain ⟨artifacts, hresult, hcheck⟩ := Pets.exists_result Pets.friends
    (fun artifacts => artifacts.map Artifact.name ==
      ["HomeOwnerFriend", "HomeOwnerFriend", "HomeOwner", "HomeQuery"] &&
        (Registry.mk artifacts).entries.any fun first => first.name == "HomeQuery" &&
          ((Registry.mk artifacts).follow? first ["owner", "friend"]).any fun last =>
            last.name == "HomeOwnerFriend")
    (by decide +kernel)
  simp only [Bool.and_eq_true, beq_iff_eq, List.any_eq_true, Option.any_eq_true] at hcheck
  obtain ⟨hnames, first, hfirst, hname, last, hpath, hlast⟩ := hcheck
  obtain ⟨whole, built, part, hwhole, hbuilt, hpart, hat, hbeside⟩ :=
    build_along_references hresult hfirst hpath (.obj [("mood", .str "GLAD")])
  rw [hname] at hwhole hbuilt
  rw [hlast] at hpart
  exact ⟨artifacts, first, last, whole, built, part, hresult, hnames, hfirst, hname, hpath, hlast,
    hwhole, hbuilt, hpart, hat, hbeside [] "owner" ["friend"] "ownerFriend" rfl (by decide)⟩

end OperationSamples
