import OperationSamples.Proofs.Unmarked

/-!
What marks stand for.

A mark is a number, and a number alone says nothing about the set that carries it. `Files` records,
for every mark given out so far, the set it was given to, the response keys that lead to that set
from the root, and whether the set was put together for a member of a union. A selection is `Filed`
when all marks in it are on record with the sets that carry them and the keys that lead there.

Merging, analysing and splitting keep selections filed, because they move marked sets but never
change one. Marking extends the record. Once everything is filed, two sets with the same mark are
the same set in the same place.
-/

namespace OperationSamples

/-- What is on record about a marked set. -/
structure Filing where
  selections : List Selection
  /-- The response keys from the root to the set. -/
  keys : List String
  /-- The position among the members of a union, for a set that belongs to one. -/
  member : Option Nat

abbrev Files := Nat → Option Filing

namespace Files

/-- Every mark on record is below the bound. -/
def Bounded (files : Files) (bound : Nat) : Prop := ∀ m f, files m = some f → m < bound

/-- The newer record says everything that the older one says. -/
def Within (older newer : Files) : Prop := ∀ m f, older m = some f → newer m = some f

/-- The record after the marks from `start` up to `finish` were given out. -/
structure Grows (older : Files) (start : Nat) (newer : Files) (finish : Nat) : Prop where
  le : start ≤ finish
  keeps : ∀ m < start, newer m = older m
  bounded : newer.Bounded finish

theorem Bounded.mono {files : Files} {small large : Nat} (h : files.Bounded small)
    (hle : small ≤ large) : files.Bounded large := fun m f hm => Nat.lt_of_lt_of_le (h m f hm) hle

theorem Within.refl (files : Files) : files.Within files := fun _ _ h => h

theorem Within.trans {first second third : Files} (h : first.Within second)
    (h' : second.Within third) : first.Within third := fun m f hm => h' m f (h m f hm)

theorem Grows.refl {files : Files} {bound : Nat} (h : files.Bounded bound) :
    Grows files bound files bound := ⟨Nat.le_refl _, fun _ _ => rfl, h⟩

theorem Grows.trans {first second third : Files} {a b c : Nat} (h : Grows first a second b)
    (h' : Grows second b third c) : Grows first a third c := by
  refine ⟨Nat.le_trans h.le h'.le, ?_, h'.bounded⟩
  intro m hm
  rw [h'.keeps m (Nat.lt_of_lt_of_le hm h.le), h.keeps m hm]

theorem Grows.within {older newer : Files} {start finish : Nat}
    (h : Grows older start newer finish) (hbounded : older.Bounded start) :
    older.Within newer := by
  intro m f hm
  rw [h.keeps m (hbounded m f hm)]
  exact hm

/-- The record with one more entry. -/
def file (files : Files) (mark : Nat) (filing : Filing) : Files :=
  fun m => if m = mark then some filing else files m

@[simp] theorem file_self (files : Files) (mark : Nat) (filing : Filing) :
    files.file mark filing mark = some filing := by simp [file]

theorem file_of_ne (files : Files) {mark m : Nat} (filing : Filing) (h : m ≠ mark) :
    files.file mark filing m = files m := by simp [file, h]

theorem within_file {files : Files} {mark : Nat} (filing : Filing) (h : files mark = none) :
    files.Within (files.file mark filing) := by
  intro m f hm
  by_cases heq : m = mark
  · rw [heq, h] at hm
    cases hm
  · rw [file_of_ne files filing heq]
    exact hm

/-- A number that is held back while others are given out is still free. -/
theorem Grows.unused {older newer : Files} {start finish : Nat} (hbounded : older.Bounded start)
    (h : Grows older (start + 1) newer finish) : newer start = none := by
  rw [h.keeps start (Nat.lt_succ_self start)]
  cases hfile : older start with
  | none => rfl
  | some f => exact absurd (hbounded start f hfile) (Nat.lt_irrefl _)

/-- The number that was held back can be given out last. -/
theorem Grows.file {older newer : Files} {start finish : Nat} (filing : Filing)
    (h : Grows older (start + 1) newer finish) :
    Grows older start (newer.file start filing) finish := by
  refine ⟨Nat.le_trans (Nat.le_succ start) h.le, ?_, ?_⟩
  · intro m hm
    rw [file_of_ne _ _ (Nat.ne_of_lt hm)]
    exact h.keeps m (Nat.lt_succ_of_lt hm)
  · intro m f hm
    by_cases heq : m = start
    · rw [heq]
      exact h.le
    · rw [file_of_ne _ _ heq] at hm
      exact h.bounded m f hm

end Files

namespace Selection

mutual

/-- Whether every set in a selection has a mark. -/
def FullyMarked : Selection → Prop
  | .leaf _ => True
  | .branch _ mark selections => mark.isSome ∧ AllFullyMarked selections
  | .inline _ _ selections => AllFullyMarked selections
  | .spread _ _ => True

def AllFullyMarked : List Selection → Prop
  | [] => True
  | s :: rest => FullyMarked s ∧ AllFullyMarked rest

end

mutual

/-- Whether the marks in a selection are on record, given the keys that lead to the selection. -/
def Filed (files : Files) (keys : List String) : Selection → Prop
  | .leaf _ => True
  | .branch head mark selections =>
    (∀ m, mark = some m →
      files m = some ⟨selections, keys ++ [head.responseKey], none⟩ ∧ AllFullyMarked selections) ∧
    AllFiled files (keys ++ [head.responseKey]) selections
  | .inline _ _ selections => AllFiled files keys selections
  | .spread _ _ => True

def AllFiled (files : Files) (keys : List String) : List Selection → Prop
  | [] => True
  | s :: rest => Filed files keys s ∧ AllFiled files keys rest

end

variable {files : Files} {keys : List String}

theorem allFiled_iff {selections : List Selection} :
    AllFiled files keys selections ↔ ∀ s ∈ selections, Filed files keys s := by
  induction selections with
  | nil => simp [AllFiled]
  | cons s rest ih => simp [AllFiled, ih]

theorem allFiled_append {first second : List Selection} :
    AllFiled files keys (first ++ second) ↔
      AllFiled files keys first ∧ AllFiled files keys second := by
  simp only [allFiled_iff, List.mem_append]
  constructor
  · intro h
    exact ⟨fun s hs => h s (Or.inl hs), fun s hs => h s (Or.inr hs)⟩
  · rintro ⟨hfirst, hsecond⟩ s (hs | hs)
    · exact hfirst s hs
    · exact hsecond s hs

mutual

theorem Filed.mono {older newer : Files} (h : older.Within newer) :
    ∀ (keys : List String) (s : Selection), Filed older keys s → Filed newer keys s
  | _, .leaf _ => id
  | keys, .branch head mark selections => by
    rintro ⟨hmark, hbelow⟩
    refine ⟨?_, AllFiled.mono h _ selections hbelow⟩
    intro m hm
    exact ⟨h _ _ (hmark m hm).1, (hmark m hm).2⟩
  | keys, .inline _ _ selections => AllFiled.mono h keys selections
  | _, .spread _ _ => id

theorem AllFiled.mono {older newer : Files} (h : older.Within newer) :
    ∀ (keys : List String) (selections : List Selection),
      AllFiled older keys selections → AllFiled newer keys selections
  | _, [] => id
  | keys, s :: rest => by
    rintro ⟨hs, hrest⟩
    exact ⟨Filed.mono h keys s hs, AllFiled.mono h keys rest hrest⟩

end

mutual

/-- Without marks there is nothing to record. -/
theorem filed_unmarked (files : Files) :
    ∀ (keys : List String) (s : Selection), Filed files keys s.unmarked
  | _, .leaf _ => trivial
  | keys, .branch head mark selections => by
    refine ⟨?_, allFiled_unmarkedAll files _ selections⟩
    intro m hm
    cases hm
  | keys, .inline _ _ selections => allFiled_unmarkedAll files keys selections
  | _, .spread _ _ => trivial

theorem allFiled_unmarkedAll (files : Files) :
    ∀ (keys : List String) (selections : List Selection),
      AllFiled files keys (unmarkedAll selections)
  | _, [] => trivial
  | keys, s :: rest => ⟨filed_unmarked files keys s, allFiled_unmarkedAll files keys rest⟩

end

/-! ### Merging -/

theorem responseKey_of_hasKey {key : String} {s : Selection} {head : FieldHead}
    (hkey : hasKey key s = true) (hhead : s.head? = some head) : head.responseKey = key := by
  simpa [hasKey, responseKey?, hhead] using hkey

/-- What stands below a filed field is filed, one key further. -/
theorem Filed.children {s : Selection} {head : FieldHead} (h : Filed files keys s)
    (hhead : s.head? = some head) : AllFiled files (keys ++ [head.responseKey]) s.children := by
  cases s with
  | branch own mark selections =>
    obtain rfl : own = head := by simpa [head?] using hhead
    exact h.2
  | _ => exact trivial

theorem allFiled_childrenOf {key : String} {selections : List Selection}
    (h : AllFiled files keys selections)
    (hkey : ∀ s ∈ selections, hasKey key s = true) :
    AllFiled files (keys ++ [key]) (childrenOf selections) := by
  rw [allFiled_iff] at h ⊢
  intro child hchild
  obtain ⟨s, hs, hmem⟩ := List.mem_flatMap.1 hchild
  have hheadSome : ∃ head, s.head? = some head := by
    have := hkey s hs
    cases hhead : s.head? with
    | none => simp [hasKey, responseKey?, hhead] at this
    | some head => exact ⟨head, rfl⟩
  obtain ⟨head, hhead⟩ := hheadSome
  have hbelow := (h s hs).children hhead
  rw [responseKey_of_hasKey (hkey s hs) hhead] at hbelow
  exact allFiled_iff.1 hbelow child hmem

theorem allFiled_filter (p : Selection → Bool) {selections : List Selection}
    (h : AllFiled files keys selections) : AllFiled files keys (selections.filter p) := by
  rw [allFiled_iff] at h ⊢
  intro s hs
  exact h s (List.mem_filter.1 hs).1

theorem allFiled_merge {selections : List Selection} (h : AllFiled files keys selections) :
    AllFiled files keys (merge selections) := by
  induction selections using merge.induct generalizing keys with
  | case1 => simpa using h
  | case2 s rest hhead ih =>
    rw [merge_cons_fragment hhead]
    exact ⟨h.1, ih h.2⟩
  | case3 s rest head hhead ihBelow ihRest =>
    rw [merge_cons_field hhead]
    refine ⟨?_, ihRest (allFiled_filter _ h.2)⟩
    unfold joined
    split
    · exact h.1
    · refine ⟨by simp, ihBelow (allFiled_childrenOf ⟨h.1, allFiled_filter _ h.2⟩ ?_)⟩
      intro x hx
      rcases List.mem_cons.1 hx with rfl | hx
      · simp [hasKey, responseKey?, hhead]
      · exact (List.mem_filter.1 hx).2

theorem filed_mergePair {first second : Selection} (hfirst : Filed files keys first)
    (hsecond : Filed files keys second) (hkey : first.responseKey? = second.responseKey?) :
    Filed files keys (mergePair first second) := by
  unfold mergePair
  cases hhead : first.head? with
  | none => exact hfirst
  | some head =>
    dsimp only
    split
    · have hsecondHead : ∃ other, second.head? = some other ∧
          other.responseKey = head.responseKey := by
        rw [responseKey?, hhead] at hkey
        cases hother : second.head? with
        | none => simp [responseKey?, hother] at hkey
        | some other => exact ⟨other, rfl, by simpa [responseKey?, hother] using hkey.symm⟩
      obtain ⟨other, hother, heq⟩ := hsecondHead
      have hbelow := hsecond.children hother
      rw [heq] at hbelow
      exact ⟨by simp, allFiled_merge (allFiled_append.2 ⟨hfirst.children hhead, hbelow⟩)⟩
    · exact hfirst

@[simp] theorem head?_mergePair (first second : Selection) :
    (mergePair first second).head? = first.head? := by
  unfold mergePair
  cases hhead : first.head? with
  | none => exact hhead
  | some head =>
    dsimp only
    split
    · rfl
    · exact hhead

end Selection

/-! ### Analysing -/

/-- Whether the marks in a selection set are on record, its own mark included. -/
structure SelectionSet.Filed (files : Files) (keys : List String) (member : Option Nat)
    (set : SelectionSet) : Prop where
  below : Selection.AllFiled files keys set.selections
  own : ∀ m, set.mark = some m →
    files m = some ⟨set.selections, keys, member⟩ ∧ Selection.AllFullyMarked set.selections

/-- Whether the marks in what a field selects are on record. -/
def FieldInfo.Filed (files : Files) (keys : List String) (info : FieldInfo) : Prop :=
  ∀ set, info.set = some set → set.Filed files (keys ++ [info.responseKey]) none

theorem SelectionSet.Filed.mono {older newer : Files} {keys : List String} {member : Option Nat}
    {set : SelectionSet} (h : set.Filed older keys member) (hle : older.Within newer) :
    set.Filed newer keys member :=
  ⟨Selection.AllFiled.mono hle _ _ h.below, fun m hm => ⟨hle _ _ (h.own m hm).1, (h.own m hm).2⟩⟩

/-- Whether the type that a schema has under the name of a type is that type. -/
def Schema.Finds (schema : Schema) (t : TypeDef) : Prop := schema.type? t.name = some t

theorem Schema.finds_of_type? {schema : Schema} {name : String} {t : TypeDef}
    (h : schema.type? name = some t) : schema.Finds t := by
  have hname : t.name = name := by simpa using List.find?_some h
  rw [Finds, hname, h]

namespace Analysis

variable {files : Files} {keys : List String}

/-- What holds of the entries gathered from filed selections. -/
def EntryFiled (files : Files) (keys : List String) (e : Entry) : Prop :=
  e.field.Filed files keys ∧ e.field.responseKey? = some e.key

theorem keys_fileField (entries : List Entry) (key : String) (type : TypeRef) (field : Selection) :
    (fileField entries key type field).map Entry.key =
      if key ∈ entries.map Entry.key then entries.map Entry.key
      else entries.map Entry.key ++ [key] := by
  induction entries with
  | nil => simp [fileField]
  | cons e rest ih =>
    by_cases h : e.key = key
    · simp [fileField, h]
    · have h' : ¬ key = e.key := fun heq => h heq.symm
      simp only [fileField, beq_iff_eq, h, if_false, List.map_cons, ih, List.mem_cons, h', false_or]
      split <;> simp

theorem filed_fileField {entries : List Entry} {key : String} {type : TypeRef} {field : Selection}
    (h : ∀ e ∈ entries, EntryFiled files keys e) (hfield : field.Filed files keys)
    (hkey : field.responseKey? = some key) :
    ∀ e ∈ fileField entries key type field, EntryFiled files keys e := by
  induction entries with
  | nil =>
    intro e he
    obtain rfl : e = ⟨key, type, field⟩ := by simpa [fileField] using he
    exact ⟨hfield, hkey⟩
  | cons first rest ih =>
    intro e he
    have hfirst := h first (by simp)
    by_cases hk : first.key = key
    · simp only [fileField, hk, beq_self_eq_true, if_true, List.mem_cons] at he
      rcases he with rfl | he
      · refine ⟨Selection.filed_mergePair hfirst.1 hfield ?_, ?_⟩
        · rw [hfirst.2, hkey, hk]
        · simpa [Selection.responseKey?, hk] using hfirst.2
      · exact h e (by simp [he])
    · simp only [fileField, beq_iff_eq, hk, if_false, List.mem_cons] at he
      rcases he with rfl | he
      · exact hfirst
      · exact ih (fun x hx => h x (by simp [hx])) e he

/-- What holds of everything gathered so far: the entries are filed and their keys differ. -/
structure CollectedFiled (files : Files) (keys : List String) (c : Collected) : Prop where
  entries : ∀ e ∈ c.entries, EntryFiled files keys e
  distinct : (c.entries.map Entry.key).Nodup

theorem filed_collectField {current : TypeDef} {state next : Collected} {head : FieldHead}
    {field : Selection} (h : CollectedFiled files keys state) (hfield : field.Filed files keys)
    (hhead : field.head? = some head)
    (hnext : (collectField current state head field).result = .ok next) :
    CollectedFiled files keys next := by
  unfold collectField at hnext
  split at hnext
  · cases hnext
    exact h
  · split at hnext
    · cases hnext
    · split at hnext
      · simp only [Walk.result_bind, Walk.result_lift, Walk.result_pure] at hnext
        cases hnext
        exact h
      · cases hnext
        refine ⟨filed_fileField h.entries hfield (by simp [Selection.responseKey?, hhead]), ?_⟩
        simp only [keys_fileField]
        split
        · exact h.distinct
        · next hnew =>
          refine List.nodup_append.2 ⟨h.distinct, by simp, ?_⟩
          intro x hx y hy hxy
          obtain rfl : y = head.responseKey := by simpa using hy
          exact hnew (hxy ▸ hx)

mutual

theorem filed_collect (schema : Schema) (current : TypeDef) (state next : Collected)
    (h : CollectedFiled files keys state) :
    ∀ s : Selection, s.Filed files keys →
      (collect schema current state s).result = .ok next → CollectedFiled files keys next
  | .leaf head => fun hs hnext => by
    rw [collect] at hnext
    exact filed_collectField h hs rfl hnext
  | .branch head mark selections => fun hs hnext => by
    rw [collect] at hnext
    exact filed_collectField h hs rfl hnext
  | .inline condition directives selections => fun hs hnext => by
    simp only [collect, Walk.result_bind, Walk.result_lift] at hnext
    change (match (conditionTarget schema current condition).value with
      | none => pure state
      | some target => collectList schema target
          { state with folded := foldType current target state.folded } selections :
        Walk Collected).result = .ok next at hnext
    split at hnext
    · cases hnext
      exact h
    · next target _ =>
      exact filed_collectList schema target
        { state with folded := foldType current target state.folded } next
        ⟨h.entries, h.distinct⟩ selections hs hnext
  | .spread name directives => fun _ hnext => by
    simp only [collect, Walk.result_bind, Walk.result_lift, Walk.result_pure] at hnext
    cases hnext
    exact h

theorem filed_collectList (schema : Schema) (current : TypeDef) (state next : Collected)
    (h : CollectedFiled files keys state) :
    ∀ selections : List Selection, Selection.AllFiled files keys selections →
      (collectList schema current state selections).result = .ok next →
        CollectedFiled files keys next
  | [] => fun _ hnext => by
    cases hnext
    exact h
  | s :: rest => fun hs hnext => by
    simp only [collectList, Walk.result_bind] at hnext
    cases hstep : (collect schema current state s).result with
    | error fault =>
      rw [hstep] at hnext
      cases hnext
    | ok middle =>
      rw [hstep] at hnext
      exact filed_collectList schema current middle next
        (filed_collect schema current state middle h s hs.1 hstep) rest hs.2 hnext

end

theorem filed_fieldInfo {schema : Schema} {split : Bool} {e : Entry} {info : FieldInfo}
    (h : EntryFiled files keys e) (hinfo : fieldInfo schema split e = .ok info) :
    (info.Filed files keys ∧ schema.Finds info.namedType) ∧ info.responseKey = e.key := by
  unfold fieldInfo at hinfo
  split at hinfo
  · cases hinfo
  · next type htype =>
    split at hinfo
    · cases hinfo
    · cases hinfo
      refine ⟨⟨?_, Schema.finds_of_type? htype⟩, rfl⟩
      intro set hset
      obtain ⟨hfield, hkey⟩ := h
      cases hcase : e.field with
      | branch head mark selections =>
        simp only [hcase, Selection.set?, Option.some.injEq] at hset
        subst hset
        have hheadKey : head.responseKey = e.key := by
          simpa [hcase, Selection.responseKey?, Selection.head?] using hkey
        rw [hcase, Selection.Filed, hheadKey] at hfield
        exact ⟨hfield.2, hfield.1⟩
      | _ => simp [hcase, Selection.set?] at hset

theorem filed_mapM_fieldInfo {schema : Schema} {split : Bool} {entries : List Entry}
    {infos : List FieldInfo} (h : ∀ e ∈ entries, EntryFiled files keys e)
    (hinfos : entries.mapM (fieldInfo schema split) = .ok infos) :
    (∀ info ∈ infos, info.Filed files keys ∧ schema.Finds info.namedType) ∧
      infos.map FieldInfo.responseKey = entries.map Entry.key := by
  induction entries generalizing infos with
  | nil =>
    cases hinfos
    simp
  | cons e rest ih =>
    rw [List.mapM_cons] at hinfos
    cases hfirst : fieldInfo schema split e with
    | error fault =>
      rw [hfirst] at hinfos
      cases hinfos
    | ok info =>
      cases hrest : rest.mapM (fieldInfo schema split) with
      | error fault =>
        rw [hfirst, hrest] at hinfos
        cases hinfos
      | ok others =>
        rw [hfirst, hrest] at hinfos
        cases hinfos
        obtain ⟨hfiled, hkey⟩ := filed_fieldInfo (h e (by simp)) hfirst
        obtain ⟨hothers, hkeys⟩ := ih (fun x hx => h x (by simp [hx])) hrest
        constructor
        · intro x hx
          rcases List.mem_cons.1 hx with rfl | hx
          · exact hfiled
          · exact hothers x hx
        · simp [hkey, hkeys]

/-- The fields found in filed selections are filed and have types of the schema, and no two have the
same response key. -/
theorem filed_ofSelections {schema : Schema} {split : Bool} {owner : TypeDef}
    {selections : List Selection} {analysis : Analysis}
    (h : Selection.AllFiled files keys selections)
    (hanalysis : (ofSelections schema split owner selections).result = .ok analysis) :
    (∀ info ∈ analysis.fields, info.Filed files keys ∧ schema.Finds info.namedType) ∧
      (analysis.fields.map FieldInfo.responseKey).Nodup := by
  simp only [ofSelections, Walk.result_bind, Walk.result_liftExcept] at hanalysis
  cases hcollect : (collectList schema owner ⟨[], []⟩ selections).result with
  | error fault =>
    rw [hcollect] at hanalysis
    cases hanalysis
  | ok collected =>
    have hfiled := filed_collectList schema owner ⟨[], []⟩ collected ⟨by simp, by simp⟩ selections h
      hcollect
    cases hinfos : collected.entries.mapM (fieldInfo schema split) with
    | error fault =>
      simp only [hcollect, bind, Except.bind, hinfos] at hanalysis
      cases hanalysis
    | ok infos =>
      simp only [hcollect, bind, Except.bind, hinfos] at hanalysis
      cases hanalysis
      obtain ⟨hinfo, hkeys⟩ := filed_mapM_fieldInfo hfiled.entries hinfos
      exact ⟨hinfo, hkeys ▸ hfiled.distinct⟩

end Analysis

/-! ### Splitting by member -/

namespace MemberSelection

variable {files : Files} {keys : List String}

structure SplitFiled (schema : Schema) (files : Files) (keys : List String) (parts : Split) :
    Prop where
  common : Selection.AllFiled files keys parts.common
  conditioned : ∀ part ∈ parts.conditioned, Selection.AllFiled files keys part.2
  members : ∀ part ∈ parts.conditioned, schema.Finds part.1 ∧ part.1.isObject = true

mutual

theorem filed_split (schema : Schema) (abstract : TypeDef) (state : Split)
    (h : SplitFiled schema files keys state) :
    ∀ s : Selection, s.Filed files keys →
      SplitFiled schema files keys (split schema abstract state s).value
  | .leaf head => fun hs =>
    ⟨Selection.allFiled_append.2 ⟨h.common, hs, trivial⟩, h.conditioned, h.members⟩
  | .branch head mark selections => fun hs =>
    ⟨Selection.allFiled_append.2 ⟨h.common, hs, trivial⟩, h.conditioned, h.members⟩
  | .spread name directives => fun _ => h
  | .inline none directives selections => fun hs => by
    rw [split]
    exact filed_splitList schema abstract state h selections hs
  | .inline (some condition) directives selections => fun hs => by
    rw [split]
    split
    · exact filed_splitList schema abstract state h selections hs
    · split
      · exact h
      · next candidate hcandidate =>
        split
        · next hmember =>
          refine ⟨h.common, ?_, ?_⟩
          · intro part hpart
            rcases List.mem_append.1 hpart with hpart | hpart
            · exact h.conditioned part hpart
            · obtain rfl : part = (candidate, selections) := by simpa using hpart
              exact hs
          · intro part hpart
            rcases List.mem_append.1 hpart with hpart | hpart
            · exact h.members part hpart
            · obtain rfl : part = (candidate, selections) := by simpa using hpart
              simp only [Schema.isMember, Bool.and_eq_true] at hmember
              exact ⟨Schema.finds_of_type? hcandidate, hmember.1.2⟩
        · exact h

theorem filed_splitList (schema : Schema) (abstract : TypeDef) (state : Split)
    (h : SplitFiled schema files keys state) :
    ∀ selections : List Selection, Selection.AllFiled files keys selections →
      SplitFiled schema files keys (splitList schema abstract state selections).value
  | [] => fun _ => h
  | s :: rest => fun hs =>
    filed_splitList schema abstract _ (filed_split schema abstract state h s hs.1) rest hs.2

end

/-- Every member of a filed union field is an object type of the schema, and its selections are
filed, one key further. -/
theorem filed_expand (schema : Schema) {info : FieldInfo} (h : info.Filed files keys) :
    ∀ m ∈ (expand schema info).value,
      Selection.AllFiled files (keys ++ [info.responseKey]) m.selections ∧
        schema.Finds m.member ∧ m.member.isObject = true := by
  intro m hm
  unfold expand at hm
  split at hm
  · cases hm
  · next set hset =>
    have hparts := filed_splitList schema info.namedType ⟨[], []⟩ ⟨trivial, by simp, by simp⟩
      set.selections (h set hset).below
    simp only [Logged.value_bind, Logged.value_pure, List.mem_map] at hm
    obtain ⟨part, hpart, rfl⟩ := hm
    refine ⟨Selection.allFiled_merge ?_, hparts.members part hpart⟩
    exact Selection.allFiled_append.2 ⟨hparts.common, hparts.conditioned part hpart⟩

end MemberSelection

/-! ### Marking -/

namespace Selection

mutual

/-- Marking leaves alone what is marked throughout. -/
theorem mark_of_fullyMarked (next : Nat) :
    ∀ s : Selection, FullyMarked s → mark next s = (s, next)
  | .leaf _ => fun _ => rfl
  | .branch head (some m) selections => fun h => by
    simp only [mark, markAll_of_allFullyMarked next selections h.2]
  | .branch head none selections => fun h => by
    cases h.1
  | .inline _ _ selections => fun h => by
    simp only [mark, markAll_of_allFullyMarked next selections h]
  | .spread _ _ => fun _ => rfl

theorem markAll_of_allFullyMarked (next : Nat) :
    ∀ selections : List Selection, AllFullyMarked selections →
      markAll next selections = (selections, next)
  | [] => fun _ => rfl
  | s :: rest => fun h => by
    simp only [markAll, mark_of_fullyMarked next s h.1, markAll_of_allFullyMarked next rest h.2]

end

/-- What marking gives: a record that grew, and a selection that is marked throughout, is filed and
selects the same. -/
structure Marked (files : Files) (start : Nat) (keys : List String) (s s' : Selection)
    (finish : Nat) (files' : Files) : Prop where
  grows : Files.Grows files start files' finish
  filed : Filed files' keys s'
  full : FullyMarked s'
  same : s'.unmarked = s.unmarked

structure AllMarked (files : Files) (start : Nat) (keys : List String)
    (selections selections' : List Selection) (finish : Nat) (files' : Files) : Prop where
  grows : Files.Grows files start files' finish
  filed : AllFiled files' keys selections'
  full : AllFullyMarked selections'
  same : unmarkedAll selections' = unmarkedAll selections

mutual

theorem exists_marked (files : Files) (start : Nat) (hbounded : files.Bounded start) :
    ∀ (keys : List String) (s : Selection), Filed files keys s →
      ∃ files', Marked files start keys s (mark start s).1 (mark start s).2 files'
  | _, .leaf _ => fun _ => ⟨files, .refl hbounded, trivial, trivial, rfl⟩
  | keys, .branch head (some m) selections => fun h => by
    -- a marked set is marked throughout, so nothing changes
    have hfull := (h.1 m rfl).2
    have hmark : mark start (.branch head (some m) selections) =
        (.branch head (some m) selections, start) :=
      mark_of_fullyMarked start _ ⟨rfl, hfull⟩
    rw [hmark]
    exact ⟨files, .refl hbounded, h, ⟨rfl, hfull⟩, rfl⟩
  | keys, .branch head none selections => fun h => by
    have hsmall : files.Bounded (start + 1) := hbounded.mono (Nat.le_succ start)
    obtain ⟨inner, hinner⟩ := exists_allMarked files (start + 1) hsmall _ selections h.2
    have hunused : inner start = none := hinner.grows.unused hbounded
    let filing : Filing :=
      ⟨(markAll (start + 1) selections).1, keys ++ [head.responseKey], none⟩
    refine ⟨inner.file start filing, hinner.grows.file filing, ⟨?_, ?_⟩, ⟨rfl, hinner.full⟩, ?_⟩
    · intro m hm
      cases hm
      exact ⟨Files.file_self _ _ _, hinner.full⟩
    · exact AllFiled.mono (Files.within_file filing hunused) _ _ hinner.filed
    · simp only [mark, unmarked, hinner.same]
  | keys, .inline condition directives selections => fun h => by
    obtain ⟨inner, hinner⟩ := exists_allMarked files start hbounded keys selections h
    exact ⟨inner, hinner.grows, hinner.filed, hinner.full, by
      simp only [mark, unmarked, hinner.same]⟩
  | _, .spread _ _ => fun _ => ⟨files, .refl hbounded, trivial, trivial, rfl⟩

theorem exists_allMarked (files : Files) (start : Nat) (hbounded : files.Bounded start) :
    ∀ (keys : List String) (selections : List Selection), AllFiled files keys selections →
      ∃ files', AllMarked files start keys selections (markAll start selections).1
        (markAll start selections).2 files'
  | _, [] => fun _ => ⟨files, .refl hbounded, trivial, trivial, rfl⟩
  | keys, s :: rest => fun h => by
    obtain ⟨middle, hfirst⟩ := exists_marked files start hbounded keys s h.1
    have hwithin := hfirst.grows.within hbounded
    obtain ⟨final, hrest⟩ := exists_allMarked middle _ hfirst.grows.bounded keys rest
      (AllFiled.mono hwithin _ _ h.2)
    have hwithin' := hrest.grows.within hfirst.grows.bounded
    refine ⟨final, hfirst.grows.trans hrest.grows, ⟨?_, hrest.filed⟩, ⟨hfirst.full, hrest.full⟩, ?_⟩
    · exact Filed.mono hwithin' _ _ hfirst.filed
    · simp only [markAll, unmarkedAll, hfirst.same, hrest.same]

end

end Selection

/-- A set whose own mark is on record, and everything below it. -/
structure SelectionSet.OnFile (files : Files) (keys : List String) (member : Option Nat)
    (set : SelectionSet) : Prop where
  below : Selection.AllFiled files keys set.selections
  own : ∃ m, set.mark = some m ∧ files m = some ⟨set.selections, keys, member⟩
  full : Selection.AllFullyMarked set.selections

theorem SelectionSet.OnFile.filed {files : Files} {keys : List String} {member : Option Nat}
    {set : SelectionSet} (h : set.OnFile files keys member) : set.Filed files keys member := by
  refine ⟨h.below, ?_⟩
  intro m hm
  obtain ⟨own, hown, hfile⟩ := h.own
  rw [hown] at hm
  cases hm
  exact ⟨hfile, h.full⟩

theorem SelectionSet.OnFile.mono {older newer : Files} {keys : List String} {member : Option Nat}
    {set : SelectionSet} (h : set.OnFile older keys member) (hle : older.Within newer) :
    set.OnFile newer keys member := by
  obtain ⟨m, hm, hfile⟩ := h.own
  exact ⟨Selection.AllFiled.mono hle _ _ h.below, ⟨m, hm, hle m _ hfile⟩, h.full⟩

/-- Marking a filed set puts it on file, and does not change what it selects. -/
theorem SelectionSet.exists_onFile_marked {files : Files} {start : Nat} {keys : List String}
    {member : Option Nat} {set : SelectionSet} (hbounded : files.Bounded start)
    (h : set.Filed files keys member) :
    ∃ files', Files.Grows files start files' (set.marked start).2 ∧
      (set.marked start).1.OnFile files' keys member ∧
      (set.marked start).1.unmarked = set.unmarked := by
  obtain ⟨mark, selections⟩ := set
  cases mark with
  | some m =>
    obtain ⟨hfile, hfull⟩ := h.own m rfl
    have hmarked : (SelectionSet.mk (some m) selections).marked start =
        (⟨some m, selections⟩, start) := by
      simp only [SelectionSet.marked, Selection.markAll_of_allFullyMarked start selections hfull]
    rw [hmarked]
    exact ⟨files, .refl hbounded, ⟨h.below, ⟨m, rfl, hfile⟩, hfull⟩, rfl⟩
  | none =>
    have hsmall : files.Bounded (start + 1) := hbounded.mono (Nat.le_succ start)
    obtain ⟨inner, hinner⟩ := Selection.exists_allMarked files (start + 1) hsmall keys selections
      h.below
    have hunused : inner start = none := hinner.grows.unused hbounded
    let filing : Filing := ⟨(Selection.markAll (start + 1) selections).1, keys, member⟩
    refine ⟨inner.file start filing, hinner.grows.file filing, ⟨?_, ?_, hinner.full⟩, ?_⟩
    · exact Selection.AllFiled.mono (Files.within_file filing hunused) _ _ hinner.filed
    · exact ⟨start, rfl, Files.file_self _ _ _⟩
    · have hsame := hinner.same
      simp only [Selection.unmarkedAll_eq_map] at hsame
      simp only [SelectionSet.marked, SelectionSet.unmarked, hsame]

end OperationSamples
