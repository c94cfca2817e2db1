import OperationSamples.Proofs.Collection

/-!
What the walk over selections keeps.

An analysis changes what it has gathered in two ways only: it folds a type, and it files a field
under its key. What both keep, a whole walk keeps (`Stable.collectList`). When the selections lead
to no field with some key (`Avoids`), only fields with other keys are filed, and whatever was
gathered under the key before stays as it was (`stable_under`).
-/

namespace OperationSamples

/-! ### Selections without a key -/

namespace Selection

/-- Whether some selections lead to no field with a key, through any fragments. -/
def Avoids (table : FragmentTable) (selections : List Selection) (key : String) : Prop :=
  ∀ conditions, ¬ Reaches table selections conditions fun f => f.responseKey? = some key

section Avoids

variable {table : FragmentTable} {xs ys : List Selection} {key : String}

theorem avoids_nil : Avoids table [] key := fun _ => not_reaches_nil

theorem avoids_append :
    Avoids table (xs ++ ys) key ↔ Avoids table xs key ∧ Avoids table ys key := by
  simp only [Avoids, reaches_append, not_or, forall_and]

theorem avoids_cons {s : Selection} :
    Avoids table (s :: xs) key ↔ Avoids table [s] key ∧ Avoids table xs key := by
  rw [← List.singleton_append, avoids_append]

theorem Avoids.ne_key (h : Avoids table xs key) : ∀ s ∈ xs, s.responseKey? ≠ some key := by
  intro s hs hkey
  refine h [] (reaches_iff_exists_mem.2 ⟨s, hs, ?_⟩)
  exact (reaches_field (isSome_head?_of_key hkey)).2 ⟨rfl, hkey⟩

theorem avoids_field {s : Selection} (hfield : s.head?.isSome) :
    Avoids table [s] key ↔ s.responseKey? ≠ some key := by
  simp [Avoids, reaches_field hfield]

theorem avoids_inline {condition : Option String} {directives : List Directive} :
    Avoids table [.inline condition directives xs] key ↔ Avoids table xs key := by
  cases condition with
  | none => simp only [Avoids, reaches_bare]
  | some condition =>
    constructor
    · intro h conditions hreaches
      exact h (condition :: conditions) (reaches_inline.2 ⟨conditions, rfl, hreaches⟩)
    · intro h conditions hreaches
      obtain ⟨inner, -, hinside⟩ := reaches_inline.1 hreaches
      exact h inner hinside

theorem Avoids.merge (h : Avoids table xs key) : Avoids table (merge xs) key := by
  intro conditions hreaches
  refine h conditions (hreaches.of_merge fun fields f hmerged hkey => ?_)
  obtain ⟨g, hg, -⟩ := hmerged.head
  exact ⟨g, hg, (hmerged.key g hg).trans hkey⟩

/-- What is expanded leads to no other keys than before. -/
theorem Avoids.expandList (h : Avoids table xs key) (limit remaining : Nat)
    (entered : List Entered) (level : Nat) :
    Avoids [] (expandList (expandWithin table limit remaining) entered level xs).value key := by
  rintro conditions ⟨s, hs, chain, f, hleads, hcrossed, hkey⟩
  obtain ⟨head, hhead, hown⟩ := Option.map_eq_some_iff.1 hkey
  have hreaches := reaches_of_expandList (sound_expandWithin table limit remaining) entered level
    conditions head xs ⟨s, hs, chain, f, hleads, hcrossed, hhead⟩
  refine h conditions (hreaches.mono (fun _ => id) fun g hg => ?_)
  rw [responseKey?_eq_some hg, hown]

end Avoids

end Selection

namespace Analysis

open Selection

/-! ### One step and a whole walk -/

/-- What is kept when a type is folded, and when a field with one of some keys is filed. -/
structure Stable (allowed : String → Prop) (P : Collected → Prop) : Prop where
  fold : ∀ state folded, P state → P { state with folded := folded }
  file : ∀ state key type field, allowed key → field.responseKey? = some key → P state →
    P { state with entries := fileField state.entries key type field }

namespace Stable

variable {schema : Schema} {allowed : String → Prop} {P : Collected → Prop}

theorem collectField (hP : Stable allowed P) {current : TypeDef} {state next : Collected}
    {head : FieldHead} {field : Selection} (h : P state) (hhead : field.head? = some head)
    (havoids : ∀ key, ¬ allowed key → Avoids [] [field] key)
    (hnext : (Analysis.collectField current state head field).result = .ok next) : P next := by
  have hkey := responseKey?_eq_some hhead
  have hallowed : allowed head.responseKey := by
    by_contra hnot
    exact (havoids _ hnot).ne_key field (List.mem_singleton_self field) hkey
  unfold Analysis.collectField at hnext
  split at hnext
  · cases hnext
    exact h
  · split at hnext
    · cases hnext
    · split at hnext
      · cases hnext
        exact h
      · cases hnext
        exact hP.file state _ _ field hallowed hkey h

mutual

theorem collect (hP : Stable allowed P) (current : TypeDef) (state next : Collected)
    (h : P state) :
    ∀ s : Selection, (∀ key, ¬ allowed key → Avoids [] [s] key) →
      (Analysis.collect schema current state s).result = .ok next → P next
  | .leaf head => fun havoids hnext => by
    rw [Analysis.collect] at hnext
    exact hP.collectField h rfl havoids hnext
  | .branch head mark selections => fun havoids hnext => by
    rw [Analysis.collect] at hnext
    exact hP.collectField h rfl havoids hnext
  | .inline condition directives selections => fun havoids hnext => by
    simp only [Analysis.collect, Walk.result_bind, Walk.result_lift] at hnext
    cases htarget : (conditionTarget schema current condition).value with
    | none =>
      rw [htarget] at hnext
      cases hnext
      exact h
    | some target =>
      rw [htarget] at hnext
      exact collectList hP target _ next (hP.fold state _ h) selections
        (fun key hkey => avoids_inline.1 (havoids key hkey)) hnext
  | .spread name directives => fun _ hnext => by
    cases hnext
    exact h

theorem collectList (hP : Stable allowed P) (current : TypeDef) (state next : Collected)
    (h : P state) :
    ∀ selections : List Selection, (∀ key, ¬ allowed key → Avoids [] selections key) →
      (Analysis.collectList schema current state selections).result = .ok next → P next
  | [] => fun _ hnext => by
    cases hnext
    exact h
  | s :: rest => fun havoids hnext => by
    simp only [Analysis.collectList, Walk.result_bind] at hnext
    cases hbetween : (Analysis.collect schema current state s).result with
    | error fault =>
      rw [hbetween] at hnext
      cases hnext
    | ok between =>
      rw [hbetween] at hnext
      have hkept := collect hP current state between h s
        (fun key hkey => (avoids_cons.1 (havoids key hkey)).1) hbetween
      exact collectList hP current between next hkept rest
        (fun key hkey => (avoids_cons.1 (havoids key hkey)).2) hnext

end

/-- What every field keeps, every walk keeps. -/
theorem collectList_of_all (hP : Stable (fun _ => True) P) {current : TypeDef}
    {state next : Collected} (h : P state) {selections : List Selection}
    (hnext : (Analysis.collectList schema current state selections).result = .ok next) : P next :=
  hP.collectList current state next h selections (fun _ hnot => absurd trivial hnot) hnext

theorem collect_of_all (hP : Stable (fun _ => True) P) {current : TypeDef}
    {state next : Collected} (h : P state) {s : Selection}
    (hnext : (Analysis.collect schema current state s).result = .ok next) : P next :=
  hP.collect current state next h s (fun _ hnot => absurd trivial hnot) hnext

end Stable

theorem collectList_append (schema : Schema) (current : TypeDef) (state : Collected)
    (xs ys : List Selection) :
    collectList schema current state (xs ++ ys) =
      collectList schema current state xs >>= fun next => collectList schema current next ys := by
  induction xs generalizing state with
  | nil => simp [collectList]
  | cons s rest ih => simp only [List.cons_append, collectList, ih, bind_assoc]

/-! ### Filing under other keys -/

theorem mem_of_mem_fileField {entries : List Entry} {key : String} {type : TypeRef}
    {field : Selection} {e : Entry} (he : e ∈ fileField entries key type field)
    (hkey : e.key ≠ key) : e ∈ entries := by
  induction entries with
  | nil =>
    obtain rfl := List.mem_singleton.1 he
    exact absurd rfl hkey
  | cons first rest ih =>
    rw [fileField] at he
    split at he
    · next hsame =>
      rcases List.mem_cons.1 he with rfl | he
      · exact absurd (beq_iff_eq.1 hsame) hkey
      · exact List.mem_cons_of_mem first he
    · rcases List.mem_cons.1 he with rfl | he
      · exact List.mem_cons_self
      · exact List.mem_cons_of_mem first (ih he)

/-- What holds of the entries under a key is kept as long as only other keys are filed. -/
theorem stable_under (key : String) (P : Entry → Prop) :
    Stable (· ≠ key) fun state => ∀ e ∈ state.entries, e.key = key → P e where
  fold _ _ h := h
  file := by
    intro state other type field hother _ h e he hkey
    exact h e (mem_of_mem_fileField he fun heq => hother (heq.symm.trans hkey)) hkey

theorem fileField_of_new {entries : List Entry} {key : String} (type : TypeRef)
    (field : Selection) (h : ∀ e ∈ entries, e.key ≠ key) :
    fileField entries key type field = entries ++ [⟨key, type, field⟩] := by
  induction entries with
  | nil => rfl
  | cons first rest ih =>
    obtain ⟨hfirst, hrest⟩ := List.forall_mem_cons.1 h
    rw [fileField, if_neg (by simpa using hfirst), ih hrest, List.cons_append]

end Analysis

end OperationSamples
