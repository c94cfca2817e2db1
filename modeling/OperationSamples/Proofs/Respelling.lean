import Mathlib.Data.List.Forall2
import Mathlib.Data.List.Nodup
import Mathlib.Data.List.Pairwise
import OperationSamples.Proofs.ProblemPaths

/-!
Spelling does not matter in a configuration.

An option can be given by either of its spellings, and a generator without arguments by its name
alone. An object that gives every option once has the same value for it, and the same keys that are
no options, whichever spellings are used (`Config.checkOption_respelled`,
`Config.checkExtras_respelled`). So the configuration is the same, or the problems are, but for the
spellings that their paths show, which are those of the object (`Config.checkRoot_respelled`). The
options also count: every key of an object that is accepted spells one, and the configuration has
the value that stands there (`Config.given_of_checkRoot`).
-/

namespace OperationSamples

namespace Config

/-! ### Spellings -/

def OptionKey.spelledBy (o : OptionKey) (key : String) : Bool := key == o.first || key == o.second

/-- Whether an option is given by both of its spellings. -/
def OptionKey.givenTwice (o : OptionKey) (keys : List String) : Bool :=
  o.first != o.second && keys.contains o.first && keys.contains o.second

/-- Whether two keys are the same, or two spellings of the same option. -/
def SameKey (options : List OptionKey) (key other : String) : Prop :=
  key = other ∨ ∃ o ∈ options, o.spelledBy key ∧ o.spelledBy other

/-- Whether no spelling of an option is one of another option. -/
def Separate (options : List OptionKey) : Prop :=
  ∀ o ∈ options, ∀ o' ∈ options, o'.spelledBy o.first ∨ o'.spelledBy o.second → o = o'

instance (options : List OptionKey) : Decidable (Separate options) :=
  inferInstanceAs (Decidable
    (∀ o ∈ options, ∀ o' ∈ options, o'.spelledBy o.first ∨ o'.spelledBy o.second → o = o'))

/-- Whether no option is given by two of the keys. -/
def EachOnce (options : List OptionKey) (keys : List String) : Prop :=
  keys.Pairwise fun key other => ∀ o ∈ options, ¬(o.spelledBy key ∧ o.spelledBy other)

section

variable {options : List OptionKey}

theorem Separate.eq_of_spelledBy (hoptions : Separate options) {o o' : OptionKey}
    (ho : o ∈ options) (ho' : o' ∈ options) {key : String} (h : o.spelledBy key)
    (h' : o'.spelledBy key) : o = o' := by
  refine hoptions o ho o' ho' ?_
  rw [OptionKey.spelledBy, Bool.or_eq_true, beq_iff_eq, beq_iff_eq] at h
  rcases h with rfl | rfl
  · exact .inl h'
  · exact .inr h'

theorem spelledBy_of_sameKey (hoptions : Separate options) {o : OptionKey} (ho : o ∈ options)
    {key other : String} (h : SameKey options key other) : o.spelledBy key = o.spelledBy other := by
  rcases h with rfl | ⟨o', ho', hkey, hother⟩
  · rfl
  · rw [Bool.eq_iff_iff]
    constructor
    · intro hspelled
      rwa [hoptions.eq_of_spelledBy ho ho' hspelled hkey]
    · intro hspelled
      rwa [hoptions.eq_of_spelledBy ho ho' hspelled hother]

theorem eachOnce_of_nodup {keys : List String} (hkeys : keys.Nodup)
    (h : ∀ o ∈ options, o.givenTwice keys = false) : EachOnce options keys := by
  refine hkeys.pairwise_of_forall_ne fun key hkey other hother hne o ho hspelled => ?_
  have htwice := h o ho
  simp only [OptionKey.spelledBy, OptionKey.givenTwice, Bool.or_eq_true, beq_iff_eq,
    Bool.and_eq_false_iff, bne_eq_false_iff_eq, List.contains_eq_mem, decide_eq_false_iff_not]
    at hspelled htwice
  grind

/-- Spelling options differently does not give one twice. -/
theorem EachOnce.of_sameKey (hoptions : Separate options) {keys others : List String}
    (h : List.Forall₂ (SameKey options) keys others) (honce : EachOnce options keys) :
    EachOnce options others := by
  induction h with
  | nil => exact .nil
  | @cons key other keys others hkey hrest ih =>
    obtain ⟨hfirst, honce⟩ := List.pairwise_cons.1 honce
    refine List.pairwise_cons.2 ⟨fun name hname o ho hspelled => ?_, ih honce⟩
    obtain ⟨i, hi, rfl⟩ := List.getElem_of_mem hname
    have hi' : i < keys.length := by rwa [hrest.length_eq]
    have hsame : SameKey options keys[i] others[i] := hrest.get hi' hi
    refine hfirst keys[i] (List.getElem_mem hi') o ho ?_
    rwa [spelledBy_of_sameKey hoptions ho hkey, spelledBy_of_sameKey hoptions ho hsame]

/-! ### Paths -/

/-- What a key has become where the keys of an object are replaced one by one. -/
def counterpart (keys others : List String) (key : String) : String :=
  (others[keys.idxOf key]?).getD key

theorem counterpart_self (keys : List String) (key : String) : counterpart keys keys key = key := by
  unfold counterpart
  by_cases hkey : key ∈ keys
  · rw [List.getElem?_idxOf hkey, Option.getD_some]
  · rw [List.idxOf_eq_length hkey, List.getElem?_eq_none (Nat.le_refl _), Option.getD_none]

/-- Where the keys of two objects differ, the entry of one has the key of the other as its
counterpart. -/
theorem forall₂_counterpart {R : String × Json → String × Json → Prop}
    {members others : List (String × Json)} (h : List.Forall₂ R members others)
    (hnodup : (Members.keys members).Nodup) :
    List.Forall₂ (fun entry other => R entry other ∧
      counterpart (Members.keys members) (Members.keys others) entry.1 = other.1)
      members others := by
  rw [List.forall₂_iff_get] at h ⊢
  refine ⟨h.1, fun i hi hi' => ⟨h.2 i hi hi', ?_⟩⟩
  have hkey : i < (Members.keys members).length := by simpa [Members.keys] using hi
  have hidx := hnodup.idxOf_getElem i hkey
  simp only [Members.keys, List.getElem_map] at hidx
  simp only [counterpart, Members.keys, List.get_eq_getElem, hidx, List.getElem?_map,
    List.getElem?_eq_getElem hi', Option.map_some, Option.getD_some]

/-! ### Options of an object -/

open RawValue (ofJson ofMembers)

theorem valueAt?_eq_none {members : List (String × Json)} {key : String}
    (h : key ∉ Members.keys members) : valueAt? (ofMembers members) key = none := by
  rw [valueAt?_ofMembers, Members.get?_eq_none h, Option.map_none]

/-- An option that is given once is found as it is given, whichever spelling is used. -/
theorem find?_cons {o : OptionKey} (ho : o ∈ options) {key : String} {value : Json}
    {rest : List (String × Json)} (h : EachOnce options (Members.keys ((key, value) :: rest))) :
    o.find? (ofMembers ((key, value) :: rest)) =
      if o.spelledBy key then some (key, ofJson value) else o.find? (ofMembers rest) := by
  have hfirst : o.spelledBy o.first := by simp [OptionKey.spelledBy]
  have hrest : o.spelledBy key → valueAt? (ofMembers rest) o.first = none := by
    intro hkey
    exact valueAt?_eq_none fun hmem => (List.pairwise_cons.1 h).1 _ hmem o ho ⟨hkey, hfirst⟩
  rw [OptionKey.find?, OptionKey.find?, ofMembers, valueAt?, valueAt?]
  by_cases hkey : key = o.first
  · subst hkey
    rw [if_pos (beq_self_eq_true _), if_pos hfirst, Option.map_some, Option.orElse_some]
  · by_cases hsecond : key = o.second
    · have hspelled : o.spelledBy key := by simp [OptionKey.spelledBy, hsecond]
      rw [if_neg (by simpa using hkey), if_pos (by simpa using hsecond), if_pos hspelled,
        hrest hspelled, Option.map_none, Option.orElse_none, Option.map_some, hsecond]
    · rw [if_neg (by simpa using hkey), if_neg (by simpa using hsecond),
        if_neg (by simp [OptionKey.spelledBy, hkey, hsecond])]

theorem sameKey_keys {members others : List (String × Json)}
    (h : List.Forall₂ (fun entry other => SameKey options entry.1 other.1) members others) :
    List.Forall₂ (SameKey options) (Members.keys members) (Members.keys others) := by
  rw [Members.keys, Members.keys, List.forall₂_map_left_iff, List.forall₂_map_right_iff]
  exact h

/-- Spelling options differently changes none of their values, and the paths of problems with them
only as it changes the keys. -/
theorem checkOption_respelled {α : Type} (hoptions : Separate options) {o : OptionKey}
    (ho : o ∈ options) (f : List String → List String) (path : List String) (default : α)
    (check : List String → RawValue → Checked α) {members others : List (String × Json)}
    (honce : EachOnce options (Members.keys members))
    (h : List.Forall₂ (fun entry other => SameKey options entry.1 other.1 ∧
      (o.spelledBy entry.1 → check (path ++ [other.1]) (ofJson other.2) =
        (check (path ++ [entry.1]) (ofJson entry.2)).relabel f)) members others) :
    checkOption o path (ofMembers others) default check =
      (checkOption o path (ofMembers members) default check).relabel f := by
  have hother : EachOnce options (Members.keys others) :=
    honce.of_sameKey hoptions (sameKey_keys (h.imp fun _ _ hentry => hentry.1))
  induction h with
  | nil => rfl
  | @cons entry other members others hentry hrest ih =>
    have hspelled := spelledBy_of_sameKey hoptions ho hentry.1
    have ih := ih (List.pairwise_cons.1 honce).2 (List.pairwise_cons.1 hother).2
    unfold checkOption at ih ⊢
    rw [find?_cons ho honce, find?_cons ho hother, ← hspelled]
    by_cases hkey : o.spelledBy entry.1
    · rw [if_pos hkey, if_pos hkey]
      exact hentry.2 hkey
    · rw [if_neg hkey, if_neg hkey]
      exact ih

/-- An option that is given has the value that it is given with. -/
theorem checkOption_of_mem {α : Type} {o : OptionKey} (ho : o ∈ options) (path : List String)
    (default : α) (check : List String → RawValue → Checked α) {members : List (String × Json)}
    (honce : EachOnce options (Members.keys members)) {entry : String × Json}
    (hmem : entry ∈ members) (hkey : o.spelledBy entry.1) :
    checkOption o path (ofMembers members) default check =
      check (path ++ [entry.1]) (ofJson entry.2) := by
  have hfind : o.find? (ofMembers members) = some (entry.1, ofJson entry.2) := by
    induction members with
    | nil => cases hmem
    | cons head rest ih =>
      obtain ⟨hhead, hrest⟩ := List.pairwise_cons.1 honce
      rw [find?_cons ho honce]
      rcases List.mem_cons.1 hmem with rfl | hmem
      · rw [if_pos hkey]
      · have hother : ¬o.spelledBy head.1 := fun hspelled =>
          hhead entry.1 (List.mem_map_of_mem hmem) o ho ⟨hspelled, hkey⟩
        rw [if_neg hother, ih hrest hmem]
  rw [checkOption, hfind]

/-- Where an option is given once, both of its spellings are accepted. -/
theorem accepts_eq_spelledBy {o : OptionKey} (ho : o ∈ options) {members : List (String × Json)}
    (honce : EachOnce options (Members.keys members)) {key : String}
    (hkey : key ∈ Members.keys members) :
    o.accepts (ofMembers members) key = o.spelledBy key := by
  have : Std.Symm fun key other : String => ∀ o ∈ options, ¬(o.spelledBy key ∧ o.spelledBy other) :=
    ⟨fun _ _ h o ho hspelled => h o ho hspelled.symm⟩
  by_cases hfirst : key = o.first
  · simp [OptionKey.accepts, OptionKey.spelledBy, hfirst]
  · by_cases hsecond : key = o.second
    · have hnone : valueAt? (ofMembers members) o.first = none := by
        refine valueAt?_eq_none fun hmem => honce.forall hkey hmem hfirst o ho ?_
        simp [OptionKey.spelledBy, hsecond]
      simp [OptionKey.accepts, OptionKey.spelledBy, hsecond, hnone]
    · rw [OptionKey.accepts, OptionKey.spelledBy, beq_false_of_ne hsecond, Bool.false_and]

/-- The problem with a key that spells no option. -/
def unspelled? (options : List OptionKey) (path : List String) (key : String) :
    Option ConfigProblem :=
  if options.any fun o => o.spelledBy key then none else some (.of (path ++ [key]) .extraForbidden)

theorem checkExtras_eq {members : List (String × Json)}
    (honce : EachOnce options (Members.keys members)) (path : List String) :
    checkExtras options path (ofMembers members) =
      ⟨(), (Members.keys members).filterMap (unspelled? options path)⟩ := by
  have hentry : ∀ entry ∈ members,
      extraProblem? options path (ofMembers members) (.text entry.1, ofJson entry.2) =
        unspelled? options path entry.1 := by
    intro entry hentry
    have hany : (options.any fun o => o.accepts (ofMembers members) entry.1) =
        options.any fun o => o.spelledBy entry.1 := by
      rw [Bool.eq_iff_iff, List.any_eq_true, List.any_eq_true]
      refine exists_congr fun o => and_congr_right fun ho => ?_
      rw [accepts_eq_spelledBy ho honce (List.mem_map_of_mem hentry)]
    rw [extraProblem?, unspelled?, hany]
  rw [checkExtras, Members.keys, List.filterMap_map]
  nth_rewrite 2 [ofMembers_eq_map]
  rw [List.filterMap_map]
  exact congrArg (Checked.mk ()) (List.filterMap_congr hentry)

theorem unspelled?_of_sameKey {f : List String → List String} {path : List String}
    {key other : String} (h : SameKey options key other)
    (hpath : f (path ++ [key]) = path ++ [other]) : unspelled? options path other =
      (unspelled? options path key).map fun p => { p with path := f p.path } := by
  rcases h with rfl | ⟨o, ho, hkey, hother⟩
  · unfold unspelled?
    split
    · rfl
    · simp only [Option.map_some, ConfigProblem.of, hpath]
  · rw [unspelled?, unspelled?, if_pos (List.any_eq_true.2 ⟨o, ho, hother⟩),
      if_pos (List.any_eq_true.2 ⟨o, ho, hkey⟩), Option.map_none]

theorem filterMap_unspelled? {f : List String → List String} {path : List String}
    {keys others : List String} (h : List.Forall₂ (fun key other => SameKey options key other ∧
      f (path ++ [key]) = path ++ [other]) keys others) :
    others.filterMap (unspelled? options path) =
      (keys.filterMap (unspelled? options path)).map fun p => { p with path := f p.path } := by
  rw [List.map_filterMap]
  induction h with
  | nil => rfl
  | cons hkey _ ih =>
    rw [List.filterMap_cons, List.filterMap_cons, unspelled?_of_sameKey hkey.1 hkey.2, ih]

theorem exists_spelledBy_of_checkExtras {path : List String} {members : List (String × Json)}
    (honce : EachOnce options (Members.keys members))
    (h : checkExtras options path (ofMembers members) = pure ()) {entry : String × Json}
    (hmem : entry ∈ members) : ∃ o ∈ options, o.spelledBy entry.1 := by
  rw [checkExtras_eq honce] at h
  have hnone : (Members.keys members).filterMap (unspelled? options path) = [] :=
    congrArg Checked.problems h
  have hkey : unspelled? options path entry.1 = none :=
    List.filterMap_eq_nil_iff.1 hnone _ (List.mem_map_of_mem hmem)
  rw [unspelled?] at hkey
  split at hkey
  · next hany => exact List.any_eq_true.1 hany
  · cases hkey

/-- Spelling options differently changes nothing about the keys that are no options. -/
theorem checkExtras_respelled (hoptions : Separate options) (f : List String → List String)
    (path : List String) {members others : List (String × Json)}
    (honce : EachOnce options (Members.keys members))
    (h : List.Forall₂ (fun entry other => SameKey options entry.1 other.1 ∧
      f (path ++ [entry.1]) = path ++ [other.1]) members others) :
    checkExtras options path (ofMembers others) =
      (checkExtras options path (ofMembers members)).relabel f := by
  have hkeys : List.Forall₂ (fun key other => SameKey options key other ∧
      f (path ++ [key]) = path ++ [other]) (Members.keys members) (Members.keys others) := by
    rw [Members.keys, Members.keys, List.forall₂_map_left_iff, List.forall₂_map_right_iff]
    exact h
  have hother := honce.of_sameKey hoptions (hkeys.imp fun _ _ hkey => hkey.1)
  rw [checkExtras_eq honce, checkExtras_eq hother, filterMap_unspelled? hkeys]
  rfl

end

/-! ### Scalars -/

open RawValue (ofJson ofMembers)

/-- A generator without arguments is written as an object or by its name alone. -/
inductive SameSpec : Json → Json → Prop where
  | same (value : Json) : SameSpec value value
  | spelledOut (generator : String) :
    SameSpec (.str generator) (.obj [("generator", .str generator)])
  | shortened (generator : String) :
    SameSpec (.obj [("generator", .str generator)]) (.str generator)

theorem checkSpec_generator (path : List String) (generator : String) :
    checkSpec path (ofJson (.obj [("generator", .str generator)])) =
      checkSpec path (ofJson (.str generator)) := by
  rfl

theorem checkSpec_respelled {value other : Json} (h : SameSpec value other) (path : List String) :
    checkSpec path (ofJson other) = checkSpec path (ofJson value) := by
  cases h with
  | same => rfl
  | spelledOut generator => exact checkSpec_generator path generator
  | shortened generator => exact (checkSpec_generator path generator).symm

def SameScalars (specs others : List (String × Json)) : Prop :=
  List.Forall₂ (fun entry other => entry.1 = other.1 ∧ SameSpec entry.2 other.2) specs others

theorem checkScalars_respelled {specs others : List (String × Json)} (h : SameScalars specs others)
    (path : List String) :
    checkScalars path (ofJson (.obj others)) = checkScalars path (ofJson (.obj specs)) := by
  simp only [ofJson, checkScalars]
  induction h with
  | nil => rfl
  | @cons entry other _ _ hentry _ ih =>
    obtain ⟨key, value⟩ := entry
    obtain ⟨name, value'⟩ := other
    obtain ⟨rfl, hvalue⟩ := hentry
    simp only [ofMembers, checkScalarEntries, checkSpec_respelled hvalue, ih]

/-! ### The whole configuration -/

def namingOptions : List OptionKey := [suffixKey]

def rootOptions : List OptionKey :=
  [scalarsKey, namingKey, maxDepthKey, maxFragmentDepthKey, splitKey]

theorem separate_namingOptions : Separate namingOptions := by decide

theorem separate_rootOptions : Separate rootOptions := by decide

def SameNaming (members others : List (String × Json)) : Prop :=
  List.Forall₂ (fun entry other => SameKey namingOptions entry.1 other.1 ∧ entry.2 = other.2)
    members others

theorem checkNaming_respelled {f : List String → List String} {path : List String}
    {members others : List (String × Json)} (honce : EachOnce namingOptions (Members.keys members))
    (h : List.Forall₂ (fun entry other => (SameKey namingOptions entry.1 other.1 ∧
      entry.2 = other.2) ∧ f (path ++ [entry.1]) = path ++ [other.1]) members others) :
    checkNaming path (ofJson (.obj others)) =
      (checkNaming path (ofJson (.obj members))).relabel f := by
  have hsuffix : suffixKey ∈ namingOptions := List.mem_singleton_self _
  have hoption := checkOption_respelled separate_namingOptions hsuffix f path
    defaults.addOperationSuffix checkBool honce (h.imp fun entry other hentry =>
      ⟨hentry.1.1, fun _ => by rw [← hentry.1.2, ← hentry.2, uniform_checkBool]⟩)
  have hextras := checkExtras_respelled separate_namingOptions f path honce
    (h.imp fun _ _ hentry => ⟨hentry.1.1, hentry.2⟩)
  rw [namingOptions] at hextras
  simp only [ofJson, checkNaming, hoption, hextras, Checked.relabel_bind, Checked.relabel_pure]

/-- Another spelling of the same entry of a configuration. -/
inductive Respelled : String × Json → String × Json → Prop where
  | option {key other : String} (value : Json) (hkey : SameKey rootOptions key other) :
    Respelled (key, value) (other, value)
  | scalars {specs others : List (String × Json)} (h : SameScalars specs others) :
    Respelled ("scalars", .obj specs) ("scalars", .obj others)
  | naming {members others : List (String × Json)} (h : SameNaming members others) :
    Respelled ("naming", .obj members) ("naming", .obj others)

/-- Whether no option of a configuration is given by both of its spellings. -/
def GivenOnce (members : List (String × Json)) : Prop :=
  (∀ o ∈ rootOptions, o.givenTwice (Members.keys members) = false) ∧
    ∀ naming, ("naming", .obj naming) ∈ members →
      ∀ o ∈ namingOptions, o.givenTwice (Members.keys naming) = false

theorem Respelled.sameKey {entry other : String × Json} (h : Respelled entry other) :
    SameKey rootOptions entry.1 other.1 := by
  cases h with
  | option _ hkey => exact hkey
  | scalars => exact .inl rfl
  | naming => exact .inl rfl

theorem Respelled.value_eq {o : OptionKey} (hscalars : o.spelledBy "scalars" = false)
    (hnaming : o.spelledBy "naming" = false) {entry other : String × Json}
    (h : Respelled entry other) (hkey : o.spelledBy entry.1) : entry.2 = other.2 := by
  cases h with
  | option => rfl
  | scalars => simp [hscalars] at hkey
  | naming => simp [hnaming] at hkey

/-- A key with one spelling stays. -/
theorem Respelled.key_eq_iff {entry other : String × Json} (h : Respelled entry other)
    {key : String} (hkey : ∀ o ∈ rootOptions, o.spelledBy key → o = ⟨key, key⟩) :
    entry.1 = key ↔ other.1 = key := by
  rcases h.sameKey with hsame | ⟨o, ho, hentry, hother⟩
  · rw [hsame]
  · constructor
    · intro heq
      obtain rfl := hkey o ho (heq ▸ hentry)
      simpa [OptionKey.spelledBy] using hother
    · intro heq
      obtain rfl := hkey o ho (heq ▸ hother)
      simpa [OptionKey.spelledBy] using hentry

/-- What stands under a key with one spelling, in both objects. -/
theorem rel_get?_of_respelled {R : Json → Json → Prop} {key : String}
    (hkey : ∀ o ∈ rootOptions, o.spelledBy key → o = ⟨key, key⟩)
    (hvalue : ∀ {entry other}, Respelled entry other → entry.1 = key → R entry.2 other.2)
    {members others : List (String × Json)} (h : List.Forall₂ Respelled members others) :
    Option.Rel R (Members.get? members key) (Members.get? others key) := by
  induction h with
  | nil => exact .none
  | @cons entry other members others hentry _ ih =>
    obtain ⟨name, value⟩ := entry
    obtain ⟨name', value'⟩ := other
    have hsame : name = key ↔ name' = key := hentry.key_eq_iff hkey
    rw [Members.get?, Members.get?]
    by_cases hname : name = key
    · rw [if_pos (beq_iff_eq.2 hname), if_pos (beq_iff_eq.2 (hsame.1 hname))]
      exact .some (hvalue hentry hname)
    · rw [if_neg (mt beq_iff_eq.1 hname), if_neg (mt beq_iff_eq.1 (mt hsame.2 hname))]
      exact ih

theorem Respelled.checkScalars_eq {entry other : String × Json} (h : Respelled entry other)
    (hkey : entry.1 = "scalars") (path : List String) :
    checkScalars path (ofJson other.2) = checkScalars path (ofJson entry.2) := by
  cases h with
  | option => rfl
  | scalars hspecs => exact checkScalars_respelled hspecs path
  | naming => simp at hkey

def SameNamingValue (value other : Json) : Prop :=
  value = other ∨ ∃ naming naming', value = .obj naming ∧ other = .obj naming' ∧
    SameNaming naming naming'

theorem Respelled.sameNaming {entry other : String × Json} (h : Respelled entry other)
    (hkey : entry.1 = "naming") : SameNamingValue entry.2 other.2 := by
  cases h with
  | option => exact .inl rfl
  | scalars => simp at hkey
  | naming hnaming => exact .inr ⟨_, _, rfl, rfl, hnaming⟩

/-- An option with one spelling is found under it. -/
theorem checkOption_plain {α : Type} (key : String) (path : List String)
    (members : List (String × Json)) (default : α) (check : List String → RawValue → Checked α) :
    checkOption ⟨key, key⟩ path (ofMembers members) default check =
      match Members.get? members key with
      | none => pure default
      | some value => check (path ++ [key]) (ofJson value) := by
  rw [checkOption, OptionKey.find?, valueAt?_ofMembers]
  cases Members.get? members key <;> rfl

/-! Paths from one object to the other. -/

/-- The keys of the options on names. -/
def namingKeys (members : List (String × Json)) : List String :=
  match Members.get? members "naming" with
  | some (.obj naming) => Members.keys naming
  | _ => []

/-- A path into a configuration, as it is after respelling. -/
def respelledPath (members others : List (String × Json)) : List String → List String
  | [] => []
  | [key] => [counterpart (Members.keys members) (Members.keys others) key]
  | key :: inner :: rest =>
    if key = "naming" then key :: counterpart (namingKeys members) (namingKeys others) inner :: rest
    else counterpart (Members.keys members) (Members.keys others) key :: inner :: rest

section

variable {members others : List (String × Json)} (hnodup : (Members.keys members).Nodup)
  (h : List.Forall₂ Respelled members others)

include hnodup h

theorem forall₂_respelled : List.Forall₂ (fun entry other => Respelled entry other ∧
    respelledPath members others [entry.1] = [other.1]) members others :=
  (forall₂_counterpart h hnodup).imp fun _ _ hentry => ⟨hentry.1, by rw [respelledPath, hentry.2]⟩

/-- A key with one spelling is shown as it is. -/
theorem counterpart_plain {key : String}
    (hkey : ∀ o ∈ rootOptions, o.spelledBy key → o = ⟨key, key⟩) :
    counterpart (Members.keys members) (Members.keys others) key = key := by
  by_cases hmem : key ∈ Members.keys members
  · obtain ⟨entry, hentry, rfl⟩ := List.mem_map.1 hmem
    obtain ⟨i, hi, rfl⟩ := List.getElem_of_mem hentry
    have hall := List.forall₂_iff_get.1 (forall₂_counterpart h hnodup)
    obtain ⟨hentry, hother⟩ := hall.2 i hi (hall.1 ▸ hi)
    rw [List.get_eq_getElem] at hentry hother
    rw [hother]
    exact (hentry.key_eq_iff hkey).1 rfl
  · have hlength := h.length_eq
    unfold counterpart
    rw [List.idxOf_eq_length hmem, List.getElem?_eq_none (by simp [Members.keys, hlength]),
      Option.getD_none]

theorem checkOption_scalars (hkeys : (Json.obj members).distinctKeys = true) :
    checkOption scalarsKey [] (ofMembers others) [] checkScalars =
      (checkOption scalarsKey [] (ofMembers members) [] checkScalars).relabel
        (respelledPath members others) := by
  have hplain : ∀ o ∈ rootOptions, o.spelledBy "scalars" → o = ⟨"scalars", "scalars"⟩ := by decide
  have hrel := rel_get?_of_respelled (R := fun value value' => ∀ path,
    checkScalars path (ofJson value') = checkScalars path (ofJson value)) hplain
    (fun hentry hkey => hentry.checkScalars_eq hkey) h
  rw [scalarsKey, checkOption_plain, checkOption_plain]
  generalize hget : Members.get? members "scalars" = found at hrel
  generalize Members.get? others "scalars" = found' at hrel
  cases hrel with
  | none => rfl
  | @some value value' hvalue =>
    have hdistinct := (Json.distinctKeys_obj.1 hkeys).2 _ (Members.mem_of_get? hget)
    refine (hvalue _).trans (Checked.relabel_eq_self fun p hp => ?_).symm
    obtain ⟨rest, hpath, -⟩ := located_checkScalars _ hdistinct p hp
    rw [hpath]
    cases rest with
    | nil => exact congrArg (fun key => [key]) (counterpart_plain hnodup h hplain)
    | cons inner rest =>
      exact congrArg (fun key => key :: inner :: rest) (counterpart_plain hnodup h hplain)

theorem checkOption_naming (hkeys : (Json.obj members).distinctKeys = true)
    (hnaming : ∀ naming, ("naming", .obj naming) ∈ members →
      EachOnce namingOptions (Members.keys naming)) :
    checkOption namingKey [] (ofMembers others) defaults.addOperationSuffix checkNaming =
      (checkOption namingKey [] (ofMembers members) defaults.addOperationSuffix
        checkNaming).relabel (respelledPath members others) := by
  have hplain : ∀ o ∈ rootOptions, o.spelledBy "naming" → o = ⟨"naming", "naming"⟩ := by decide
  have hrel := rel_get?_of_respelled (R := SameNamingValue) hplain
    (fun hentry hkey => hentry.sameNaming hkey) h
  rw [namingKey, checkOption_plain, checkOption_plain]
  generalize hget : Members.get? members "naming" = found at hrel
  generalize hget' : Members.get? others "naming" = found' at hrel
  cases hrel with
  | none => rfl
  | @some value value' hvalue =>
    have hdistinct := (Json.distinctKeys_obj.1 hkeys).2 _ (Members.mem_of_get? hget)
    rcases hvalue with rfl | ⟨naming, naming', rfl, rfl, hsame⟩
    · have hsame : namingKeys others = namingKeys members := by
        rw [namingKeys, namingKeys, hget, hget']
      refine (Checked.relabel_eq_self fun p hp => ?_).symm
      obtain ⟨rest, hpath, -⟩ := located_checkNaming _ hdistinct p hp
      rw [hpath]
      cases rest with
      | nil => exact congrArg (fun key => [key]) (counterpart_plain hnodup h hplain)
      | cons inner rest =>
        simp only [List.nil_append, List.singleton_append, respelledPath, if_pos, hsame,
          counterpart_self]
    · have honce := hnaming naming (Members.mem_of_get? hget)
      have hpairs := forall₂_counterpart hsame (Json.distinctKeys_obj.1 hdistinct).1
      refine checkNaming_respelled honce (hpairs.imp fun entry other hentry => ⟨hentry.1, ?_⟩)
      simp only [List.nil_append, List.singleton_append, respelledPath, if_pos, namingKeys, hget,
        hget', hentry.2]

/-- An option other than the scalars and the options on names. -/
theorem checkOption_of_respelled {α : Type} (honce : EachOnce rootOptions (Members.keys members))
    {o : OptionKey} (ho : o ∈ rootOptions) (hscalars : o.spelledBy "scalars" = false)
    (hnaming : o.spelledBy "naming" = false) (default : α)
    {check : List String → RawValue → Checked α} (hcheck : Checked.Uniform check) :
    checkOption o [] (ofMembers others) default check =
      (checkOption o [] (ofMembers members) default check).relabel
        (respelledPath members others) := by
  refine checkOption_respelled separate_rootOptions ho _ [] default check honce ?_
  refine (forall₂_respelled hnodup h).imp fun entry other hentry =>
    ⟨hentry.1.sameKey, fun hkey => ?_⟩
  rw [← hentry.1.value_eq hscalars hnaming hkey, List.nil_append, List.nil_append, ← hentry.2,
    hcheck]

/-- Respelling changes the paths of problems as it changes the keys, and nothing else. -/
theorem checkRoot_respelled (hkeys : (Json.obj members).distinctKeys = true)
    (honce : EachOnce rootOptions (Members.keys members))
    (hnaming : ∀ naming, ("naming", .obj naming) ∈ members →
      EachOnce namingOptions (Members.keys naming)) :
    checkRoot (ofJson (.obj others)) =
      (checkRoot (ofJson (.obj members))).relabel (respelledPath members others) := by
  have hscalars := checkOption_scalars hnodup h hkeys
  have hnames := checkOption_naming hnodup h hkeys hnaming
  have hdepth := checkOption_of_respelled hnodup h honce (o := maxDepthKey) (by decide) (by decide)
    (by decide) defaults.maxDepth (uniform_checkLimit 0)
  have hfragments := checkOption_of_respelled hnodup h honce (o := maxFragmentDepthKey)
    (by decide) (by decide) (by decide) defaults.maxFragmentDepth (uniform_checkLimit 1)
  have hsplit := checkOption_of_respelled hnodup h honce (o := splitKey) (by decide) (by decide)
    (by decide) defaults.splitInterfaceVariants uniform_checkBool
  have hextras := checkExtras_respelled separate_rootOptions (respelledPath members others) []
    honce ((forall₂_respelled hnodup h).imp fun _ _ hentry => ⟨hentry.1.sameKey, hentry.2⟩)
  rw [rootOptions] at hextras
  simp only [ofJson, checkRoot, hscalars, hnames, hdepth, hfragments, hsplit, hextras,
    Checked.relabel_bind, Checked.relabel_pure]

end

/-! ### Accepted configurations -/

/-- Nothing is wrong with a value in two parts when nothing is wrong with either. -/
theorem bind_eq_pure {α β : Type} {x : Checked α} {f : α → Checked β} {b : β} :
    x >>= f = pure b ↔ ∃ a, x = pure a ∧ f a = pure b := by
  constructor
  · intro h
    have hvalue : (f x.value).value = b := congrArg Checked.value h
    have hproblems : x.problems ++ (f x.value).problems = [] := congrArg Checked.problems h
    obtain ⟨hfirst, hsecond⟩ := List.append_eq_nil_iff.1 hproblems
    refine ⟨x.value, ?_, ?_⟩
    · exact congrArg (Checked.mk x.value) hfirst
    · subst hvalue
      exact congrArg (Checked.mk (f x.value).value) hsecond
  · rintro ⟨a, rfl, h⟩
    exact h

theorem relabel_eq_pure_iff {α : Type} {f : List String → List String} {x : Checked α} {a : α} :
    x.relabel f = pure a ↔ x = pure a := by
  obtain ⟨value, problems⟩ := x
  change Checked.mk _ _ = Checked.mk _ _ ↔ Checked.mk _ _ = Checked.mk _ _
  simp

/-- Whether an entry of an object is an option that a configuration has the value of. -/
inductive Given (config : Config) : String × Json → Prop where
  | scalars {entry : String × Json} (hkey : scalarsKey.spelledBy entry.1)
    (h : checkScalars [entry.1] (ofJson entry.2) = pure config.scalars) : Given config entry
  | naming {entry : String × Json} (hkey : namingKey.spelledBy entry.1)
    (h : checkNaming [entry.1] (ofJson entry.2) = pure config.addOperationSuffix) :
    Given config entry
  | maxDepth {entry : String × Json} (hkey : maxDepthKey.spelledBy entry.1)
    (h : checkLimit [entry.1] 0 (ofJson entry.2) = pure config.maxDepth) : Given config entry
  | maxFragmentDepth {entry : String × Json} (hkey : maxFragmentDepthKey.spelledBy entry.1)
    (h : checkLimit [entry.1] 1 (ofJson entry.2) = pure config.maxFragmentDepth) :
    Given config entry
  | split {entry : String × Json} (hkey : splitKey.spelledBy entry.1)
    (h : checkBool [entry.1] (ofJson entry.2) =
      pure config.splitInterfaceVariants) : Given config entry

theorem ofRaw_eq_ok_iff {value : RawValue} {config : Config} :
    ofRaw value = .ok config ↔ checkRoot value = pure config := by
  rw [ofRaw]
  constructor
  · intro h
    split at h
    · next hproblems =>
      obtain rfl : (checkRoot value).value = config := by simpa using h
      exact congrArg (Checked.mk (checkRoot value).value) (List.isEmpty_iff.1 hproblems)
    · cases h
  · intro h
    rw [h]
    rfl

theorem ofRaw_eq_error_iff {value : RawValue} {problems : List ConfigProblem} :
    ofRaw value = .error problems ↔ (checkRoot value).problems ≠ [] ∧
      problems = (checkRoot value).problems.mergeSort ConfigProblem.le := by
  rw [ofRaw]
  split
  · next hproblems => simp [List.isEmpty_iff.1 hproblems]
  · next hproblems =>
    have hne := mt List.isEmpty_iff.2 hproblems
    exact ⟨fun h => ⟨hne, (Except.error.inj h).symm⟩, fun h => congrArg Except.error h.2.symm⟩

/-- Every key of an accepted object spells an option, which has the value that stands there. -/
theorem given_of_checkRoot {members : List (String × Json)}
    (honce : EachOnce rootOptions (Members.keys members)) {config : Config}
    (h : checkRoot (ofJson (.obj members)) = pure config) {entry : String × Json}
    (hmem : entry ∈ members) : Given config entry := by
  simp only [ofJson, checkRoot, bind_eq_pure] at h
  obtain ⟨scalars, hscalars, suffix, hsuffix, depth, hdepth, fragments, hfragments, split, hsplit, _,
    hextras, hconfig⟩ := h
  obtain rfl : ⟨scalars, suffix, depth, fragments, split⟩ = config := congrArg Checked.value hconfig
  obtain ⟨o, ho, hkey⟩ := exists_spelledBy_of_checkExtras honce hextras hmem
  have hoptions := ho
  simp only [rootOptions, List.mem_cons, List.not_mem_nil, or_false] at hoptions
  rcases hoptions with rfl | rfl | rfl | rfl | rfl
  · rw [checkOption_of_mem ho _ _ _ honce hmem hkey] at hscalars
    exact .scalars hkey hscalars
  · rw [checkOption_of_mem ho _ _ _ honce hmem hkey] at hsuffix
    exact .naming hkey hsuffix
  · rw [checkOption_of_mem ho _ _ _ honce hmem hkey] at hdepth
    exact .maxDepth hkey hdepth
  · rw [checkOption_of_mem ho _ _ _ honce hmem hkey] at hfragments
    exact .maxFragmentDepth hkey hfragments
  · rw [checkOption_of_mem ho _ _ _ honce hmem hkey] at hsplit
    exact .split hkey hsplit

/-- A configuration in which no option is given by both of its spellings means the same whichever
spellings its options have, and whether its generators without arguments are objects or names. If it
has problems, they are the same as well, but for the keys along their paths, which are those of the
configuration that is given: each shows what stands in the place of the key. In a configuration that
is accepted, every key spells an option, which has the value that stands there. -/
theorem ofRaw_respelled (members others : List (String × Json))
    (hkeys : (Json.obj members).distinctKeys = true) (honce : GivenOnce members)
    (h : List.Forall₂ Respelled members others) :
    (∀ config, Config.ofRaw (.ofJson (.obj others)) = .ok config ↔
      Config.ofRaw (.ofJson (.obj members)) = .ok config) ∧
    (∀ problems, Config.ofRaw (.ofJson (.obj members)) = .error problems →
      (∀ p ∈ problems, p.kind ≠ .missing →
        ∃ value, (Json.obj members).at? p.path = some value) ∧
      ∃ problems', Config.ofRaw (.ofJson (.obj others)) = .error problems' ∧
        problems'.Perm
          (problems.map fun p => { p with path := respelledPath members others p.path })) ∧
    ∀ config, Config.ofRaw (.ofJson (.obj others)) = .ok config →
      ∀ entry ∈ members, Given config entry := by
  obtain ⟨hnodup, hvalues⟩ := Json.distinctKeys_obj.1 hkeys
  have hroot : EachOnce rootOptions (Members.keys members) := eachOnce_of_nodup hnodup honce.1
  have hnaming : ∀ naming, ("naming", .obj naming) ∈ members →
      EachOnce namingOptions (Members.keys naming) := by
    intro naming hmem
    exact eachOnce_of_nodup (Json.distinctKeys_obj.1 (hvalues _ hmem)).1 (honce.2 naming hmem)
  have hcheck := checkRoot_respelled hnodup h hkeys hroot hnaming
  have hsame : ∀ config, Config.ofRaw (.ofJson (.obj others)) = .ok config ↔
      Config.ofRaw (.ofJson (.obj members)) = .ok config := by
    intro config
    rw [ofRaw_eq_ok_iff, ofRaw_eq_ok_iff, hcheck, relabel_eq_pure_iff]
  refine ⟨hsame, fun problems hproblems => ?_, fun config hconfig entry hmem => ?_⟩
  · obtain ⟨hne, rfl⟩ := ofRaw_eq_error_iff.1 hproblems
    refine ⟨fun p hp hkind => ?_, _, ofRaw_eq_error_iff.2 ⟨?_, rfl⟩, ?_⟩
    · obtain ⟨rest, hpath, hpart⟩ := located_checkRoot hkeys p (List.mem_mergeSort.1 hp)
      rw [hpath]
      exact hpart hkind
    · rw [hcheck]
      exact mt List.map_eq_nil_iff.1 hne
    · rw [hcheck]
      exact (List.mergeSort_perm _ _).trans ((List.mergeSort_perm _ _).map _).symm
  · exact given_of_checkRoot hroot (ofRaw_eq_ok_iff.1 ((hsame config).1 hconfig)) hmem

def petsOptions : List (String × Json) :=
  [("scalars", .obj [("Date", .str "date"), ("Url", .obj [("generator", .str "uri")])]),
    ("naming", .obj [("add_operation_suffix", .str "no")]), ("maxDepth", .str "2"),
    ("split_interface_variants", .int 1)]

/-- The same options, each in its other spelling. -/
def petsOptionsRespelled : List (String × Json) :=
  [("scalars", .obj [("Date", .obj [("generator", .str "date")]), ("Url", .str "uri")]),
    ("naming", .obj [("addOperationSuffix", .str "no")]), ("max_depth", .str "2"),
    ("splitInterfaceVariants", .int 1)]

def petsConfig : Config :=
  ⟨[("Date", ⟨"date", .none⟩), ("Url", ⟨"uri", .none⟩)], false, 2, defaults.maxFragmentDepth, true⟩

theorem givenOnce_petsOptions : GivenOnce petsOptions := by
  refine ⟨by decide, fun naming hmem => ?_⟩
  have hnaming : naming = [("add_operation_suffix", .str "no")] := by simpa [petsOptions] using hmem
  subst hnaming
  decide

theorem respelled_petsOptions : List.Forall₂ Respelled petsOptions petsOptionsRespelled := by
  refine .cons (.scalars ?_) (.cons (.naming ?_) (.cons (.option _ ?_) (.cons (.option _ ?_) .nil)))
  · exact .cons ⟨rfl, .spelledOut "date"⟩ (.cons ⟨rfl, .shortened "uri"⟩ .nil)
  · exact .cons ⟨.inr ⟨suffixKey, by decide⟩, rfl⟩ .nil
  · exact .inr ⟨maxDepthKey, by decide⟩
  · exact .inr ⟨splitKey, by decide⟩

/-- An accepted configuration with every option in its other spelling, and a refused one. -/
theorem ofRaw_respelled_pets :
    Config.ofRaw (.ofJson (.obj petsOptions)) = .ok petsConfig ∧
      Config.ofRaw (.ofJson (.obj petsOptionsRespelled)) = .ok petsConfig ∧
      Given petsConfig ("maxDepth", .str "2") ∧
      ∃ problems, Config.ofRaw (.ofJson (.obj [("maxDepth", .int (-1))])) = .error problems ∧
        problems.Perm [.of ["maxDepth"] .greaterThanEqual] := by
  have hok : Config.ofRaw (.ofJson (.obj petsOptions)) = .ok petsConfig := by
    decide +kernel
  obtain ⟨hsame, -, hgiven⟩ := ofRaw_respelled petsOptions petsOptionsRespelled (by decide)
    givenOnce_petsOptions respelled_petsOptions
  have hrespelled := (hsame petsConfig).2 hok
  have honce : GivenOnce [("max_depth", .int (-1))] := ⟨by decide, by simp⟩
  obtain ⟨-, hrefused, -⟩ := ofRaw_respelled [("max_depth", .int (-1))] [("maxDepth", .int (-1))]
    (by decide) honce (.cons (.option _ (.inr ⟨maxDepthKey, by decide⟩)) .nil)
  refine ⟨hok, hrespelled, hgiven _ hrespelled _ ?_, ?_⟩
  · simp [petsOptions]
  · exact (hrefused [.of ["max_depth"] .greaterThanEqual] (by decide +kernel)).2

/-- The path of a problem shows the spelling that is used, so that two spellings of one
configuration are refused with different paths. -/
theorem spelling_shown_in_path :
    GivenOnce [("max_depth", .int (-1))] ∧
      Respelled ("max_depth", .int (-1)) ("maxDepth", .int (-1)) ∧
      Config.ofRaw (.ofJson (.obj [("max_depth", .int (-1))])) =
        .error [.of ["max_depth"] .greaterThanEqual] ∧
      Config.ofRaw (.ofJson (.obj [("maxDepth", .int (-1))])) =
        .error [.of ["maxDepth"] .greaterThanEqual] := by
  refine ⟨⟨by decide, by simp⟩, .option _ (.inr ⟨maxDepthKey, by decide⟩), ?_, ?_⟩
  · decide +kernel
  · decide +kernel

end Config

end OperationSamples
