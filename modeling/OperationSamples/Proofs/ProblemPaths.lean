import OperationSamples.Config.Check
import OperationSamples.Proofs.Overriding

/-!
The paths of problems with a configuration.

A check is told the path of the value that it looks at. Checks of single values report problems at
this path only (`Checked.Uniform`), so that they can be moved to another path. A check of an object
goes down to its keys. Along the path of a problem the keys stand as they are written in the value,
options included; only what is missing has no place there (`Config.located_checkRoot`).
-/

namespace OperationSamples

namespace Checked

variable {α β : Type}

/-- The same value and problems, with other paths. -/
def relabel (f : List String → List String) (x : Checked α) : Checked α :=
  ⟨x.value, x.problems.map fun p => { p with path := f p.path }⟩

theorem relabel_pure (f : List String → List String) (a : α) :
    (Pure.pure a : Checked α).relabel f = Pure.pure a := rfl

theorem relabel_bind (f : List String → List String) (x : Checked α) (g : α → Checked β) :
    (x >>= g).relabel f = x.relabel f >>= fun a => (g a).relabel f :=
  congrArg (Checked.mk _) List.map_append

theorem relabel_eq_self {f : List String → List String} {x : Checked α}
    (h : ∀ p ∈ x.problems, f p.path = p.path) : x.relabel f = x := by
  have hproblems : (x.problems.map fun p => { p with path := f p.path }) = x.problems := by
    refine (List.map_congr_left fun p hp => ?_).trans (List.map_id _)
    rw [h p hp, id]
  exact congrArg (Checked.mk x.value) hproblems

/-- Whether a check reports problems at the path of the value only. -/
def Uniform (check : List String → RawValue → Checked α) : Prop :=
  ∀ (f : List String → List String) path value,
    check (f path) value = (check path value).relabel f

/-- Whether the paths of all problems with a value, which stands at a path itself, lead on along its
keys. What is missing need not be there. -/
def Located (x : Checked α) (path : List String) (value : Json) : Prop :=
  ∀ p ∈ x.problems, ∃ rest, p.path = path ++ rest ∧
    (p.kind ≠ .missing → ∃ part, value.at? rest = some part)

theorem located_pure (a : α) (path : List String) (value : Json) :
    (Pure.pure a : Checked α).Located path value :=
  fun _ hp => nomatch hp

theorem located_failed (a : α) (path : List String) (kind : ConfigProblemKind) (value : Json) :
    (failed a path kind).Located path value := by
  intro p hp
  obtain rfl := List.mem_singleton.1 hp
  exact ⟨[], (List.append_nil path).symm, fun _ => ⟨value, rfl⟩⟩

theorem Located.bind {x : Checked α} {g : α → Checked β} {path : List String} {value : Json}
    (hx : x.Located path value) (hg : (g x.value).Located path value) :
    (x >>= g).Located path value := by
  intro p hp
  rcases List.mem_append.1 hp with hp | hp
  · exact hx p hp
  · exact hg p hp

theorem Uniform.located {check : List String → RawValue → Checked α} (h : Uniform check)
    (path : List String) (raw : RawValue) (value : Json) : (check path raw).Located path value := by
  intro p hp
  have hpath := h (fun _ => path) path raw
  rw [hpath] at hp
  obtain ⟨q, -, rfl⟩ := List.mem_map.1 hp
  exact ⟨[], (List.append_nil path).symm, fun _ => ⟨value, rfl⟩⟩

/-- A problem below a key is one below the object. -/
theorem Located.member {x : Checked α} {path : List String} {key : String} {inner : Json}
    (h : x.Located (path ++ [key]) inner) {members : List (String × Json)}
    (hget : Members.get? members key = some inner) : x.Located path (.obj members) := by
  intro p hp
  obtain ⟨rest, hpath, hpart⟩ := h p hp
  refine ⟨key :: rest, by rw [hpath, List.append_assoc, List.singleton_append], fun hkind => ?_⟩
  rw [Json.at?_obj_of_get? hget]
  exact hpart hkind

end Checked

namespace Config

open Checked (Uniform)
open RawValue (ofJson ofMembers)

/-! ### Single values -/

theorem uniform_checkWhole : Uniform checkWhole := by
  intro f path value
  unfold checkWhole
  split
  · rfl
  · rfl
  · split <;> rfl
  · dsimp only
    split
    · rfl
    · split <;> rfl
  · rfl
  · rfl

theorem uniform_checkLimit (least : Nat) : Uniform fun path => checkLimit path least := by
  intro f path value
  simp only [checkLimit, uniform_checkWhole f path value, Checked.relabel, List.isEmpty_map]
  split <;> rfl

theorem uniform_checkBool : Uniform checkBool := by
  have hnumber : ∀ (f : List String → List String) path n,
      checkBool.ofNumber (f path) n = (checkBool.ofNumber path n).relabel f := by
    intro f path n
    unfold checkBool.ofNumber
    split
    · rfl
    · split <;> rfl
  intro f path value
  unfold checkBool
  split
  · rfl
  · exact hnumber f path _
  · split
    · exact hnumber f path _
    · rfl
  · dsimp only
    split
    · rfl
    · split <;> rfl
  · rfl
  · rfl

theorem uniform_checkText : Uniform checkText := by
  intro f path value
  unfold checkText
  split <;> rfl

theorem uniform_checkArguments : Uniform checkArguments := by
  intro f path value
  unfold checkArguments
  split
  · rfl
  · dsimp only
    split <;> rfl
  · split <;> rfl

/-! ### Objects -/

theorem ofMembers_eq_map (members : List (String × Json)) :
    ofMembers members = members.map fun entry => (.text entry.1, ofJson entry.2) := by
  induction members with
  | nil => rfl
  | cons entry rest ih => rw [ofMembers, ih, List.map_cons]

theorem valueAt?_ofMembers (members : List (String × Json)) (key : String) :
    valueAt? (ofMembers members) key = (Members.get? members key).map ofJson := by
  induction members with
  | nil => rfl
  | cons entry rest ih =>
    rw [ofMembers, valueAt?, Members.get?, ih]
    split <;> rfl

/-- An option is found under a key of the object. -/
theorem OptionKey.exists_of_find? {o : OptionKey} {members : List (String × Json)}
    {spelling : String} {raw : RawValue} (h : o.find? (ofMembers members) = some (spelling, raw)) :
    ∃ value, Members.get? members spelling = some value ∧ raw = ofJson value := by
  rw [OptionKey.find?, valueAt?_ofMembers, valueAt?_ofMembers] at h
  cases hfirst : Members.get? members o.first with
  | some value =>
    rw [hfirst] at h
    cases h
    exact ⟨value, hfirst, rfl⟩
  | none =>
    rw [hfirst] at h
    obtain ⟨found, hsecond, hsame⟩ := Option.map_eq_some_iff.1 h
    obtain ⟨value, hvalue, rfl⟩ := Option.map_eq_some_iff.1 hsecond
    cases hsame
    exact ⟨value, hvalue, rfl⟩

section

variable {members : List (String × Json)} {path : List String}

theorem located_checkOption {α : Type} (o : OptionKey) (default : α)
    {check : List String → RawValue → Checked α}
    (h : ∀ key value, (key, value) ∈ members →
      (check (path ++ [key]) (ofJson value)).Located (path ++ [key]) value) :
    (checkOption o path (ofMembers members) default check).Located path (.obj members) := by
  unfold checkOption
  split
  · exact Checked.located_pure _ _ _
  · next spelling raw hfind =>
    obtain ⟨value, hget, rfl⟩ := OptionKey.exists_of_find? hfind
    exact (h spelling value (Members.mem_of_get? hget)).member hget

theorem located_checkExtras (options : List OptionKey)
    (hnodup : (Members.keys members).Nodup) :
    (checkExtras options path (ofMembers members)).Located path (.obj members) := by
  intro p hp
  obtain ⟨entry, hentry, hextra⟩ := List.mem_filterMap.1 hp
  rw [ofMembers_eq_map] at hentry
  obtain ⟨⟨key, value⟩, hmem, rfl⟩ := List.mem_map.1 hentry
  rw [extraProblem?] at hextra
  split at hextra
  · cases hextra
  · cases hextra
    refine ⟨[key], rfl, fun _ => ⟨value, ?_⟩⟩
    exact Json.at?_obj_of_get? (Members.get?_of_mem hnodup hmem) []

end

theorem located_checkSpec (path : List String) {value : Json} (hkeys : value.distinctKeys = true) :
    (checkSpec path (ofJson value)).Located path value := by
  cases value with
  | str generator => exact Checked.located_pure _ _ _
  | obj members =>
    obtain ⟨hnodup, -⟩ := Json.distinctKeys_obj.1 hkeys
    have hgenerator : (checkGenerator path (ofMembers members)).Located path (.obj members) := by
      unfold checkGenerator
      split
      · intro p hp
        obtain rfl := List.mem_singleton.1 hp
        exact ⟨[generatorKey.first], rfl, fun hkind => absurd rfl hkind⟩
      · next spelling raw hfind =>
        obtain ⟨value, hget, rfl⟩ := OptionKey.exists_of_find? hfind
        exact (uniform_checkText.located _ _ value).member hget
    refine hgenerator.bind (Checked.Located.bind ?_ (Checked.Located.bind ?_ ?_))
    · exact located_checkOption _ _ fun key value _ => uniform_checkArguments.located _ _ value
    · exact located_checkExtras _ hnodup
    · exact Checked.located_pure _ _ _
  | _ => exact Checked.located_failed _ _ _ _

theorem located_checkScalars (path : List String) {value : Json}
    (hkeys : value.distinctKeys = true) :
    (checkScalars path (ofJson value)).Located path value := by
  cases value with
  | obj members =>
    obtain ⟨hnodup, hvalues⟩ := Json.distinctKeys_obj.1 hkeys
    -- the entries are those of the object, of which some are already checked
    have hentries : ∀ specs : List (String × Json), (∀ entry ∈ specs, entry ∈ members) →
        (checkScalarEntries path (ofMembers specs)).Located path (.obj members) := by
      intro specs
      induction specs with
      | nil => exact fun _ => Checked.located_pure _ _ _
      | cons entry rest ih =>
        intro hsubset
        obtain ⟨key, value⟩ := entry
        have hmem := hsubset _ List.mem_cons_self
        have hspec := (located_checkSpec (path ++ [key]) (hvalues _ hmem)).member
          (Members.get?_of_mem hnodup hmem)
        have hrest := ih fun entry hentry => hsubset entry (List.mem_cons_of_mem _ hentry)
        refine Checked.Located.bind ?_ (hspec.bind (hrest.bind ?_))
        · exact Checked.located_pure _ _ _
        · exact Checked.located_pure _ _ _
    exact hentries members fun _ hmem => hmem
  | _ => exact Checked.located_failed _ _ _ _

theorem located_checkNaming (path : List String) {value : Json}
    (hkeys : value.distinctKeys = true) :
    (checkNaming path (ofJson value)).Located path value := by
  cases value with
  | obj members =>
    obtain ⟨hnodup, -⟩ := Json.distinctKeys_obj.1 hkeys
    refine Checked.Located.bind ?_ (Checked.Located.bind ?_ ?_)
    · exact located_checkOption _ _ fun key value _ => uniform_checkBool.located _ _ value
    · exact located_checkExtras _ hnodup
    · exact Checked.located_pure _ _ _
  | _ => exact Checked.located_failed _ _ _ _

/-- The path of every problem with a configuration shows keys as they are written there. -/
theorem located_checkRoot {value : Json} (hkeys : value.distinctKeys = true) :
    (checkRoot (ofJson value)).Located [] value := by
  cases value with
  | obj members =>
    obtain ⟨hnodup, hvalues⟩ := Json.distinctKeys_obj.1 hkeys
    refine Checked.Located.bind ?_ (Checked.Located.bind ?_ (Checked.Located.bind ?_
      (Checked.Located.bind ?_ (Checked.Located.bind ?_ (Checked.Located.bind ?_ ?_)))))
    · exact located_checkOption _ _ fun _ _ hmem => located_checkScalars _ (hvalues _ hmem)
    · exact located_checkOption _ _ fun _ _ hmem => located_checkNaming _ (hvalues _ hmem)
    · exact located_checkOption _ _ fun _ value _ => (uniform_checkLimit 0).located _ _ value
    · exact located_checkOption _ _ fun _ value _ => (uniform_checkLimit 1).located _ _ value
    · exact located_checkOption _ _ fun _ value _ => uniform_checkBool.located _ _ value
    · exact located_checkExtras _ hnodup
    · exact Checked.located_pure _ _ _
  | _ => exact Checked.located_failed _ _ _ _

end Config

end OperationSamples
