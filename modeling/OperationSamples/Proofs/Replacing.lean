import OperationSamples.Proofs.Splicing
import OperationSamples.Proofs.Subtypes

/-!
Selections that differ below one field.

Let two lists of selections be the same but for one field, which stands inside some fragments and
selects something else below it in each of them (`ChangedIn`). If no other selection of the lists
leads to the key of the field, whatever is done with the lists is the same but for that field. It
stays the only difference when the lists are merged (`ChangedIn.merge`) or marked
(`ChangedIn.markAll`), when the fields are gathered on a type (`puts_of_changedIn`), and when they
are split by member (`partsChanged_of_changedIn`).
-/

namespace OperationSamples

namespace Selection

/-- A field with two selection sets. -/
structure Change where
  head : FieldHead
  mark : Option Nat
  new : List Selection
  old : List Selection

namespace Change

variable (c : Change)

def key : String := c.head.responseKey

def newField : Selection := .branch c.head c.mark c.new

def oldField : Selection := .branch c.head c.mark c.old

end Change

/-- Whether two selections differ in a changed field only, inside fragments with the given
conditions. -/
inductive Changed (c : Change) : List String → Selection → Selection → Prop
  | field : Changed c [] c.newField c.oldField
  | inline {condition : String} {directives : List Directive} {conditions : List String}
      {before after : List Selection} {s t : Selection} (hbefore : Avoids [] before c.key)
      (hafter : Avoids [] after c.key) (h : Changed c conditions s t) :
      Changed c (condition :: conditions)
        (.inline (some condition) directives (before ++ s :: after))
        (.inline (some condition) directives (before ++ t :: after))

/-- Whether two lists differ in a changed field only, and lead to its key nowhere else. -/
inductive ChangedIn (c : Change) (conditions : List String) :
    List Selection → List Selection → Prop
  | around {before after : List Selection} {s t : Selection} (hbefore : Avoids [] before c.key)
      (hafter : Avoids [] after c.key) (h : Changed c conditions s t) :
      ChangedIn c conditions (before ++ s :: after) (before ++ t :: after)

section Changed

variable {c : Change} {conditions : List String} {s t : Selection} {xs ys : List Selection}

theorem Changed.single (h : Changed c conditions s t) : ChangedIn c conditions [s] [t] :=
  @ChangedIn.around c conditions [] [] s t avoids_nil avoids_nil h

theorem Changed.head?_eq (h : Changed c conditions s t) : s.head? = t.head? := by
  cases h <;> rfl

theorem Changed.head_eq (h : Changed c conditions s t) {head : FieldHead}
    (hhead : t.head? = some head) : head = c.head := by
  cases h with
  | field => exact (Option.some.inj hhead).symm
  | inline => cases hhead

theorem ChangedIn.append_left (h : ChangedIn c conditions xs ys) {more : List Selection}
    (hmore : Avoids [] more c.key) : ChangedIn c conditions (more ++ xs) (more ++ ys) := by
  cases h with
  | around hbefore hafter h =>
    rw [← List.append_assoc, ← List.append_assoc]
    exact .around (avoids_append.2 ⟨hmore, hbefore⟩) hafter h

theorem ChangedIn.append_right (h : ChangedIn c conditions xs ys) {more : List Selection}
    (hmore : Avoids [] more c.key) : ChangedIn c conditions (xs ++ more) (ys ++ more) := by
  cases h with
  | around hbefore hafter h =>
    rw [List.append_assoc, List.append_assoc]
    exact .around hbefore (avoids_append.2 ⟨hafter, hmore⟩) h

/-- The key of the field stands nowhere else, so merging leaves it alone. -/
theorem ChangedIn.merge (h : ChangedIn c conditions xs ys) :
    ChangedIn c conditions (merge xs) (merge ys) := by
  cases h with
  | @around before after s t hbefore hafter h =>
    have hothers := avoids_append.2 ⟨hbefore, hafter⟩
    obtain ⟨first, second, hmerged, haround⟩ := exists_merge_around t.head? before after (by
      intro head hhead
      obtain rfl := h.head_eq hhead
      exact hothers.ne_key)
    have hkept := hothers.merge
    rw [hmerged] at hkept
    obtain ⟨hfirst, hsecond⟩ := avoids_append.1 hkept
    rw [haround s h.head?_eq, haround t rfl]
    exact .around hfirst hsecond h

/-! ### Marking -/

mutual

theorem avoids_mark {key : String} (next : Nat) :
    ∀ s : Selection, Avoids [] [s] key → Avoids [] [(mark next s).1] key
  | .leaf head => fun h => h
  | .branch head own selections => fun h => by
    rw [avoids_field rfl] at h
    cases own <;> exact (avoids_field rfl).2 h
  | .inline condition directives selections => fun h => by
    rw [mark, avoids_inline]
    exact avoids_markAll next selections (avoids_inline.1 h)
  | .spread name directives => fun h => h

theorem avoids_markAll {key : String} (next : Nat) :
    ∀ xs : List Selection, Avoids [] xs key → Avoids [] (markAll next xs).1 key
  | [] => fun h => h
  | s :: rest => fun h => by
    obtain ⟨hs, hrest⟩ := avoids_cons.1 h
    rw [markAll, avoids_cons]
    exact ⟨avoids_mark next s hs, avoids_markAll _ rest hrest⟩

end

/-- A change whose two sets are marked from a number on. -/
def Change.marked (c : Change) (own : Option Nat) (next : Nat) : Change :=
  ⟨c.head, own, (markAll next c.new).1, (markAll next c.old).1⟩

/-- Whether marking gives out as many numbers for one set as for the other. -/
def Change.CountsAlike (c : Change) : Prop :=
  ∀ next, (markAll next c.new).2 = (markAll next c.old).2

theorem Changed.mark (hcount : c.CountsAlike) (h : Changed c conditions s t) (next : Nat) :
    ∃ own start, Changed (c.marked own start) conditions (mark next s).1 (mark next t).1 ∧
      (Selection.mark next s).2 = (Selection.mark next t).2 := by
  induction h generalizing next with
  | field =>
    obtain ⟨head, own, new, old⟩ := c
    cases own with
    | none => exact ⟨some next, next + 1, .field, hcount (next + 1)⟩
    | some m => exact ⟨some m, next, .field, hcount next⟩
  | @inline condition directives conditions before after s t hbefore hafter _ ih =>
    obtain ⟨own, start, hchanged, hnext⟩ := ih (markAll next before).2
    refine ⟨own, start, ?_⟩
    simp only [Selection.mark, markAll_append, markAll, hnext]
    exact ⟨.inline (avoids_markAll next before hbefore) (avoids_markAll _ after hafter) hchanged,
      trivial⟩

theorem ChangedIn.markAll (hcount : c.CountsAlike) (h : ChangedIn c conditions xs ys)
    (next : Nat) :
    ∃ own start, ChangedIn (c.marked own start) conditions (markAll next xs).1
        (markAll next ys).1 ∧ (Selection.markAll next xs).2 = (Selection.markAll next ys).2 := by
  cases h with
  | @around before after s t hbefore hafter h =>
    obtain ⟨own, start, hchanged, hnext⟩ := h.mark hcount (Selection.markAll next before).2
    refine ⟨own, start, ?_⟩
    simp only [markAll_append, Selection.markAll, hnext]
    exact ⟨.around (avoids_markAll next before hbefore) (avoids_markAll _ after hafter) hchanged,
      trivial⟩

end Changed

end Selection

/-! ### Gathering fields -/

namespace Analysis

open Selection

/-- An entry, with the new field under the key of a change. -/
def Entry.put (c : Change) (e : Entry) : Entry :=
  if e.key = c.key then { e with field := c.newField } else e

def Collected.put (c : Change) (state : Collected) : Collected :=
  { state with entries := state.entries.map (Entry.put c) }

section Put

variable {schema : Schema} {c : Change}

@[simp] theorem Entry.key_put (e : Entry) : (e.put c).key = e.key := by
  unfold put
  split <;> rfl

theorem Entry.put_of_ne {e : Entry} (h : e.key ≠ c.key) : e.put c = e := if_neg h

theorem Entry.put_of_eq {e : Entry} (h : e.key = c.key) :
    e.put c = { e with field := c.newField } := if_pos h

theorem Collected.put_of_new {state : Collected} (h : ∀ e ∈ state.entries, e.key ≠ c.key) :
    state.put c = state := by
  have hentries : state.entries.map (Entry.put c) = state.entries.map id :=
    List.map_congr_left fun e he => Entry.put_of_ne (h e he)
  rw [put, hentries, List.map_id]

theorem fileField_put (entries : List Entry) {key : String} (hkey : key ≠ c.key) (type : TypeRef)
    (field : Selection) :
    fileField (entries.map (Entry.put c)) key type field =
      (fileField entries key type field).map (Entry.put c) := by
  induction entries with
  | nil =>
    rw [List.map_nil, fileField, List.map_singleton, Entry.put_of_ne hkey]
  | cons e rest ih =>
    rw [List.map_cons, fileField, fileField, Entry.key_put]
    by_cases hsame : (e.key == key) = true
    · have hother : e.key ≠ c.key := by rwa [beq_iff_eq.1 hsame]
      have hmerged : Entry.put c { e with field := e.field.mergePair field } =
          { e with field := e.field.mergePair field } := Entry.put_of_ne hother
      rw [if_pos hsame, if_pos hsame, List.map_cons, Entry.put_of_ne hother, hmerged]
    · rw [if_neg hsame, if_neg hsame, List.map_cons, ih]

theorem collectField_put (current : TypeDef) (state : Collected) {head : FieldHead}
    (field : Selection) (hkey : head.responseKey ≠ c.key) :
    collectField current (state.put c) head field =
      Collected.put c <$> collectField current state head field := by
  unfold collectField
  split
  · rfl
  · split
    · rfl
    · split
      · rfl
      · simp only [Collected.put, fileField_put state.entries hkey, map_pure]

mutual

theorem collect_put (current : TypeDef) (state : Collected) :
    ∀ s : Selection, Avoids [] [s] c.key →
      collect schema current (state.put c) s = Collected.put c <$> collect schema current state s
  | .leaf head => fun h => by
    have hkey : head.responseKey ≠ c.key := fun heq =>
      (avoids_field rfl).1 h (congrArg some heq)
    simpa only [collect] using collectField_put current state (.leaf head) hkey
  | .branch head mark selections => fun h => by
    have hkey : head.responseKey ≠ c.key := fun heq =>
      (avoids_field rfl).1 h (congrArg some heq)
    simpa only [collect] using collectField_put current state (.branch head mark selections) hkey
  | .inline condition directives selections => fun h => by
    simp only [collect, map_bind]
    refine bind_congr fun target => ?_
    cases target with
    | none => rfl
    | some target =>
      exact collectList_put target { state with folded := foldType current target state.folded }
        selections (avoids_inline.1 h)
  | .spread name directives => fun _ => rfl

theorem collectList_put (current : TypeDef) (state : Collected) :
    ∀ xs : List Selection, Avoids [] xs c.key →
      collectList schema current (state.put c) xs =
        Collected.put c <$> collectList schema current state xs
  | [] => fun _ => rfl
  | s :: rest => fun h => by
    obtain ⟨hs, hrest⟩ := avoids_cons.1 h
    simp only [collectList, map_bind, collect_put current state s hs, bind_map_left]
    exact bind_congr fun next => collectList_put current next rest hrest

end

/-- Whether the first of two walks ends as the second, with the new field in the place of an entry
that has a property. -/
structure Puts (c : Change) (P : Entry → Prop) (x y : Except AnalysisFault Collected) : Prop where
  eq : x = y.map (Collected.put c)
  under : ∀ next, y = .ok next → ∀ e ∈ next.entries, e.key = c.key → P e

theorem Puts.of_new (P : Entry → Prop) {state : Collected}
    (h : ∀ e ∈ state.entries, e.key ≠ c.key) : Puts c P (.ok state) (.ok state) where
  eq := by rw [Except.map, Collected.put_of_new h]
  under := by
    rintro next hnext e he hkey
    cases hnext
    exact absurd hkey (h e he)

/-- The walk over a list is the walk over the selections that differ, up to what stands around
them. -/
theorem Puts.around {P : Entry → Prop} {current : TypeDef} {before after : List Selection}
    {s t : Selection} (hbefore : Avoids [] before c.key) (hafter : Avoids [] after c.key)
    (h : ∀ state : Collected, (∀ e ∈ state.entries, e.key ≠ c.key) →
      Puts c P (collect schema current state s).result (collect schema current state t).result)
    {state : Collected} (hstate : ∀ e ∈ state.entries, e.key ≠ c.key) :
    Puts c P (collectList schema current state (before ++ s :: after)).result
      (collectList schema current state (before ++ t :: after)).result := by
  have hnone : Stable (· ≠ c.key) fun state => ∀ e ∈ state.entries, e.key ≠ c.key :=
    stable_under c.key fun _ => False
  have hallowed : ∀ {xs : List Selection}, Avoids [] xs c.key →
      ∀ key, ¬ key ≠ c.key → Avoids [] xs key := by
    intro xs hxs key hkey
    rwa [not_not.1 hkey]
  simp only [collectList_append, collectList, Walk.result_bind]
  cases hfirst : (collectList schema current state before).result with
  | error fault => exact ⟨rfl, fun next hnext => by cases hnext⟩
  | ok between =>
    have hbetween := hnone.collectList current state between hstate before (hallowed hbefore) hfirst
    have hputs := h between hbetween
    change Puts c P ((collect schema current between s).result >>= _)
      ((collect schema current between t).result >>= _)
    cases hsecond : (collect schema current between t).result with
    | error fault =>
      rw [hputs.eq, hsecond]
      exact ⟨rfl, fun next hnext => by cases hnext⟩
    | ok last =>
      have hunder := hputs.under last hsecond
      rw [hputs.eq, hsecond]
      refine ⟨?_, fun next hnext => ?_⟩
      · change (collectList schema current (last.put c) after).result = _
        rw [collectList_put current last after hafter, Walk.result_map]
        rfl
      · exact (stable_under c.key P).collectList current last next hunder after (hallowed hafter)
          hnext

theorem puts_of_changed {conditions : List String} {s t : Selection}
    (h : Changed c conditions s t) (current : TypeDef) {state : Collected}
    (hstate : ∀ e ∈ state.entries, e.key ≠ c.key) :
    Puts c (fun e => e.field = c.oldField ∧ ∃ target, Targets schema current conditions target ∧
        target.fieldType? c.head.name = some e.type)
      (collect schema current state s).result (collect schema current state t).result := by
  induction h generalizing current state with
  | field =>
    simp only [Change.newField, Change.oldField, collect, collectField]
    split
    · exact Puts.of_new _ hstate
    · split
      · exact ⟨rfl, fun next hnext => by cases hnext⟩
      · split
        · exact Puts.of_new _ hstate
        · next type htype =>
          have hfiled := fun field => fileField_of_new type field hstate
          simp only [Change.key] at hfiled
          simp only [hfiled, Walk.result_pure]
          refine ⟨?_, ?_⟩
          · have hkept := congrArg Collected.entries (Collected.put_of_new hstate)
            simp only [Collected.put] at hkept
            simp only [Except.map, Collected.put, List.map_append, hkept, List.map_singleton]
            rw [Entry.put_of_eq rfl]
            rfl
          · intro next hnext e he hkey
            cases hnext
            rcases List.mem_append.1 he with he | he
            · exact absurd hkey (hstate e he)
            · obtain rfl := List.mem_singleton.1 he
              exact ⟨rfl, current, rfl, htype⟩
  | @inline condition directives conditions before after s t hbefore hafter _ ih =>
    simp only [collect, Walk.result_bind, Walk.result_lift]
    cases htarget : (conditionTarget schema current (some condition)).value with
    | none => exact Puts.of_new _ hstate
    | some target =>
      have hfolded : ∀ e ∈ ({ state with folded := foldType current target state.folded } :
          Collected).entries, e.key ≠ c.key := hstate
      have hinside := Puts.around hbefore hafter (fun state => ih target) hfolded
      refine ⟨hinside.eq, fun next hnext e he hkey => ?_⟩
      obtain ⟨hfield, narrowed, htargets, htype⟩ := hinside.under next hnext e he hkey
      exact ⟨hfield, narrowed, ⟨target, htarget, htargets⟩, htype⟩

/-- **Gathering the fields of lists that differ below one field.** Under its key stands the field,
with the type that it has where the conditions lead to. -/
theorem puts_of_changedIn {conditions : List String} {xs ys : List Selection}
    (h : ChangedIn c conditions xs ys) (current : TypeDef) :
    Puts c (fun e => e.field = c.oldField ∧ ∃ target, Targets schema current conditions target ∧
        target.fieldType? c.head.name = some e.type)
      (collectList schema current ⟨[], []⟩ xs).result
      (collectList schema current ⟨[], []⟩ ys).result := by
  cases h with
  | around hbefore hafter h =>
    exact Puts.around hbefore hafter (fun state => puts_of_changed h current) (by simp)

end Put

end Analysis

/-! ### Splitting by member -/

namespace MemberSelection

open Selection

def Split.append (first second : Split) : Split :=
  ⟨first.common ++ second.common, first.conditioned ++ second.conditioned⟩

theorem Split.append_assoc (first second third : Split) :
    (first.append second).append third = first.append (second.append third) := by
  simp only [append, List.append_assoc]

/-- What selections on an abstract type are split into. -/
def parts (schema : Schema) (abstract : TypeDef) (xs : List Selection) : Split :=
  (splitList schema abstract ⟨[], []⟩ xs).value

section Parts

variable {schema : Schema} {abstract : TypeDef}

/-- A fragment on another type goes to a member as a whole, or nowhere. -/
theorem value_split_other (schema : Schema) {condition : String} (h : condition ≠ abstract.name) :
    (∃ member, schema.type? condition = some member ∧ Schema.isMember abstract member = true ∧
      ∀ (state : Split) directives xs,
        (split schema abstract state (.inline (some condition) directives xs)).value =
          ⟨state.common, state.conditioned ++ [(member, xs)]⟩) ∨
    ∀ (state : Split) directives xs,
      (split schema abstract state (.inline (some condition) directives xs)).value = state := by
  cases hfound : schema.type? condition with
  | none =>
    refine .inr fun state directives xs => ?_
    rw [split, if_neg (by simpa using h)]
    simp only [hfound]
    rfl
  | some candidate =>
    by_cases hmember : Schema.isMember abstract candidate = true
    · refine .inl ⟨candidate, rfl, hmember, fun state directives xs => ?_⟩
      rw [split, if_neg (by simpa using h)]
      simp only [hfound]
      rw [if_pos hmember]
      rfl
    · refine .inr fun state directives xs => ?_
      rw [split, if_neg (by simpa using h)]
      simp only [hfound]
      rw [if_neg hmember]
      rfl

mutual

theorem value_split_eq (state : Split) :
    ∀ s : Selection, (split schema abstract state s).value =
      state.append (split schema abstract ⟨[], []⟩ s).value
  | .leaf head => by simp [split, Split.append]
  | .branch head mark selections => by simp [split, Split.append]
  | .spread name directives => by simp [split, Split.append]
  | .inline none directives selections => value_splitList_eq state selections
  | .inline (some condition) directives selections => by
    by_cases hname : condition = abstract.name
    · rw [split, split, if_pos (by simpa using hname), if_pos (by simpa using hname)]
      exact value_splitList_eq state selections
    · rcases value_split_other schema hname with ⟨member, -, -, hmember⟩ | hnone
      · simp [hmember, Split.append]
      · simp [hnone, Split.append]

theorem value_splitList_eq (state : Split) :
    ∀ xs : List Selection, (splitList schema abstract state xs).value =
      state.append (parts schema abstract xs)
  | [] => by simp [splitList, parts, Split.append]
  | s :: rest => by
    rw [parts, splitList, splitList, Logged.value_bind, Logged.value_bind,
      value_splitList_eq _ rest, value_splitList_eq _ rest, value_split_eq state s,
      Split.append_assoc]

end

theorem parts_singleton (s : Selection) :
    parts schema abstract [s] = (split schema abstract ⟨[], []⟩ s).value := by
  simp [parts, splitList]

theorem parts_append (xs ys : List Selection) :
    parts schema abstract (xs ++ ys) =
      (parts schema abstract xs).append (parts schema abstract ys) := by
  induction xs with
  | nil => rfl
  | cons s rest ih =>
    have hcons : ∀ zs, parts schema abstract (s :: zs) =
        (parts schema abstract [s]).append (parts schema abstract zs) := by
      intro zs
      rw [parts_singleton, parts, splitList, Logged.value_bind, value_splitList_eq]
    rw [List.cons_append, hcons, ih, hcons rest, Split.append_assoc]

theorem parts_around (before after : List Selection) (s : Selection) :
    parts schema abstract (before ++ s :: after) =
      (parts schema abstract before).append
        ((parts schema abstract [s]).append (parts schema abstract after)) := by
  rw [← List.singleton_append, parts_append, parts_append]

theorem parts_own {condition : String} (h : condition = abstract.name)
    (directives : List Directive) (xs : List Selection) :
    parts schema abstract [.inline (some condition) directives xs] = parts schema abstract xs := by
  rw [parts_singleton, split, if_pos (by simpa using h), parts]

theorem parts_other (schema : Schema) {condition : String} (h : condition ≠ abstract.name) :
    (∃ member, schema.type? condition = some member ∧ Schema.isMember abstract member = true ∧
      ∀ directives xs, parts schema abstract [.inline (some condition) directives xs] =
        ⟨[], [(member, xs)]⟩) ∨
    ∀ directives xs, parts schema abstract [.inline (some condition) directives xs] =
      ⟨[], []⟩ := by
  simp only [parts_singleton]
  rcases value_split_other schema h with ⟨member, hfound, hmember, hsplit⟩ | hnone
  · exact .inl ⟨member, hfound, hmember, hsplit ⟨[], []⟩⟩
  · exact .inr (hnone ⟨[], []⟩)

/-- Whether parts lead to a key nowhere. -/
structure Split.Avoids (p : Split) (key : String) : Prop where
  common : Selection.Avoids [] p.common key
  conditioned : ∀ part ∈ p.conditioned, Selection.Avoids [] part.2 key

theorem Split.Avoids.append {first second : Split} {key : String} (hfirst : first.Avoids key)
    (hsecond : second.Avoids key) : (first.append second).Avoids key :=
  ⟨avoids_append.2 ⟨hfirst.common, hsecond.common⟩,
    List.forall_mem_append.2 ⟨hfirst.conditioned, hsecond.conditioned⟩⟩

mutual

theorem avoids_part {key : String} :
    ∀ s : Selection, Selection.Avoids [] [s] key → (parts schema abstract [s]).Avoids key
  | .leaf head => fun h => ⟨h, by simp [parts, splitList, split]⟩
  | .branch head mark selections => fun h => ⟨h, by simp [parts, splitList, split]⟩
  | .spread name directives => fun _ => ⟨avoids_nil, by simp [parts, splitList, split]⟩
  | .inline none directives selections => fun h => by
    rw [parts_singleton]
    exact avoids_parts selections (avoids_inline.1 h)
  | .inline (some condition) directives selections => fun h => by
    have hinside := avoids_inline.1 h
    by_cases hname : condition = abstract.name
    · rw [parts_own hname]
      exact avoids_parts selections hinside
    · rcases parts_other schema hname with ⟨member, -, -, hmember⟩ | hnone
      · rw [hmember]
        exact ⟨avoids_nil, List.forall_mem_singleton.2 hinside⟩
      · rw [hnone]
        exact ⟨avoids_nil, by simp⟩

theorem avoids_parts {key : String} :
    ∀ xs : List Selection, Selection.Avoids [] xs key → (parts schema abstract xs).Avoids key
  | [] => fun _ => ⟨avoids_nil, by simp [parts, splitList]⟩
  | s :: rest => fun h => by
    obtain ⟨hs, hrest⟩ := avoids_cons.1 h
    rw [← List.singleton_append, parts_append]
    exact (avoids_part s hs).append (avoids_parts rest hrest)

end

mutual

theorem isMember_of_mem_part :
    ∀ s : Selection, ∀ part ∈ (parts schema abstract [s]).conditioned,
      schema.Finds part.1 ∧ Schema.isMember abstract part.1 = true
  | .leaf head => fun part hpart => by cases hpart
  | .branch head mark selections => fun part hpart => by cases hpart
  | .spread name directives => fun part hpart => by cases hpart
  | .inline none directives selections => fun part hpart => by
    rw [parts_singleton] at hpart
    exact isMember_of_mem_parts selections part hpart
  | .inline (some condition) directives selections => fun part hpart => by
    by_cases hname : condition = abstract.name
    · rw [parts_own hname] at hpart
      exact isMember_of_mem_parts selections part hpart
    · rcases parts_other schema hname with ⟨member, hfound, hmember, hparts⟩ | hnone
      · rw [hparts] at hpart
        obtain rfl := List.mem_singleton.1 hpart
        exact ⟨Schema.finds_of_type? hfound, hmember⟩
      · rw [hnone] at hpart
        cases hpart

theorem isMember_of_mem_parts :
    ∀ xs : List Selection, ∀ part ∈ (parts schema abstract xs).conditioned,
      schema.Finds part.1 ∧ Schema.isMember abstract part.1 = true
  | [] => fun part hpart => by cases hpart
  | s :: rest => fun part hpart => by
    rw [← List.singleton_append, parts_append] at hpart
    rcases List.mem_append.1 hpart with hpart | hpart
    · exact isMember_of_mem_part s part hpart
    · exact isMember_of_mem_parts rest part hpart

end

/-- How two splits can differ: in a common field, below one member, or not at all. The conditions
around the field are used up on the way to it. -/
inductive PartsChanged (schema : Schema) (abstract : TypeDef) (c : Change)
    (conditions : List String) : Split → Split → Prop
  | common {new old : List Selection} {conditioned : List (TypeDef × List Selection)}
      (hcommon : ChangedIn c [] new old)
      (hconditioned : ∀ part ∈ conditioned, Selection.Avoids [] part.2 c.key)
      (hown : ∀ condition ∈ conditions, condition = abstract.name) :
      PartsChanged schema abstract c conditions ⟨new, conditioned⟩ ⟨old, conditioned⟩
  | member {common : List Selection} {before after : List (TypeDef × List Selection)}
      {member : TypeDef} {new old : List Selection} {outer inner : List String}
      (hcommon : Selection.Avoids [] common c.key) (hmember : ChangedIn c inner new old)
      (hconditions : conditions = outer ++ member.name :: inner) :
      PartsChanged schema abstract c conditions ⟨common, before ++ (member, new) :: after⟩
        ⟨common, before ++ (member, old) :: after⟩
  | same {p : Split} : PartsChanged schema abstract c conditions p p

theorem PartsChanged.append {c : Change} {conditions : List String} {p q first last : Split}
    (h : PartsChanged schema abstract c conditions p q) (hfirst : first.Avoids c.key)
    (hlast : last.Avoids c.key) :
    PartsChanged schema abstract c conditions (first.append (p.append last))
      (first.append (q.append last)) := by
  cases h with
  | common hcommon hconditioned hown =>
    refine .common ((hcommon.append_right hlast.common).append_left hfirst.common) ?_ hown
    exact List.forall_mem_append.2 ⟨hfirst.conditioned,
      List.forall_mem_append.2 ⟨hconditioned, hlast.conditioned⟩⟩
  | member hcommon hmember hconditions =>
    simp only [Split.append, List.append_assoc, List.cons_append]
    rw [← List.append_assoc first.conditioned, ← List.append_assoc first.conditioned]
    exact .member (avoids_append.2 ⟨hfirst.common, avoids_append.2 ⟨hcommon, hlast.common⟩⟩)
      hmember hconditions
  | same => exact .same

theorem PartsChanged.own {c : Change} {conditions : List String} {p q : Split}
    (h : PartsChanged schema abstract c conditions p q) :
    PartsChanged schema abstract c (abstract.name :: conditions) p q := by
  cases h with
  | common hcommon hconditioned hown =>
    exact .common hcommon hconditioned (List.forall_mem_cons.2 ⟨rfl, hown⟩)
  | member hcommon hmember hconditions =>
    exact .member hcommon hmember (by rw [hconditions, List.cons_append])
  | same => exact .same

theorem partsChanged_of_changed {c : Change} {conditions : List String} {s t : Selection}
    (h : Changed c conditions s t) :
    PartsChanged schema abstract c conditions (parts schema abstract [s])
      (parts schema abstract [t]) := by
  induction h with
  | field =>
    exact .common Changed.field.single (by simp) (by simp)
  | @inline condition directives conditions before after s t hbefore hafter h ih =>
    by_cases hname : condition = abstract.name
    · subst hname
      rw [parts_own rfl, parts_own rfl, parts_around, parts_around]
      exact (ih.append (avoids_parts before hbefore) (avoids_parts after hafter)).own
    · rcases parts_other schema hname with ⟨member, hfound, -, hparts⟩ | hnone
      · obtain rfl : member.name = condition := by simpa using List.find?_some hfound
        rw [hparts, hparts]
        exact @PartsChanged.member schema abstract _ _ [] [] [] member _ _ [] conditions avoids_nil
          (.around hbefore hafter h) rfl
      · rw [hnone, hnone]
        exact .same

/-- **Splitting lists that differ below one field.** -/
theorem partsChanged_of_changedIn {c : Change} {conditions : List String} {xs ys : List Selection}
    (h : ChangedIn c conditions xs ys) :
    PartsChanged schema abstract c conditions (parts schema abstract xs)
      (parts schema abstract ys) := by
  cases h with
  | around hbefore hafter h =>
    rw [parts_around, parts_around]
    exact (partsChanged_of_changed h).append (avoids_parts _ hbefore) (avoids_parts _ hafter)

end Parts

end MemberSelection

end OperationSamples
