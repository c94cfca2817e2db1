import Mathlib.Data.List.Forall2
import Mathlib.Data.List.Induction
import OperationSamples.Json.Basic

/-!
What a dictionary holds, and what a sequence of assignments leaves in it.

Assigning a key again changes its value and not its place. So the last assignment to a key decides
its value, and assignments to different keys are the dictionary, in order.
-/

namespace OperationSamples.Members

variable {α β : Type}

/-! ### Looking up -/

theorem mem_of_get? {members : Members α} {key : String} {value : α}
    (h : get? members key = some value) : (key, value) ∈ members := by
  induction members with
  | nil => cases h
  | cons entry rest ih =>
    obtain ⟨k, v⟩ := entry
    rw [get?] at h
    split at h
    · next hkey =>
      rw [← Option.some.inj h, eq_of_beq hkey]
      exact List.mem_cons_self
    · exact List.mem_cons_of_mem _ (ih h)

theorem get?_eq_none {members : Members α} {key : String} (h : key ∉ keys members) :
    get? members key = none := by
  cases hget : get? members key with
  | none => rfl
  | some value => exact absurd (List.mem_map_of_mem (mem_of_get? hget)) h

/-- Where keys differ, every member is found under its key. -/
theorem get?_of_mem {members : Members α} (h : (keys members).Nodup) {key : String} {value : α}
    (hmem : (key, value) ∈ members) : get? members key = some value := by
  induction members with
  | nil => cases hmem
  | cons entry rest ih =>
    obtain ⟨k, v⟩ := entry
    obtain ⟨hnew, hrest⟩ := List.nodup_cons.1 h
    rcases List.mem_cons.1 hmem with heq | hmem
    · cases heq
      simp [get?]
    · have hne : k ≠ key := by
        rintro rfl
        exact hnew (List.mem_map.2 ⟨_, hmem, rfl⟩)
      rw [get?, if_neg (by simpa using hne), ih hrest hmem]

/-- Setting a key to the value that it has changes nothing. -/
theorem insert_of_get? {members : Members α} {key : String} {value : α}
    (h : get? members key = some value) : insert members key value = members := by
  induction members with
  | nil => cases h
  | cons entry rest ih =>
    obtain ⟨k, v⟩ := entry
    rw [get?] at h
    rw [insert]
    split at h
    · next hkey => rw [if_pos hkey, Option.some.inj h]
    · next hkey => rw [if_neg hkey, ih h]

/-! ### Assigning -/

theorem ofList_snoc (entries : List (String × α)) (entry : String × α) :
    ofList (entries ++ [entry]) = insert (ofList entries) entry.1 entry.2 := by
  rw [ofList, List.foldl_append]
  rfl

/-- A new key is put at the end. -/
theorem insert_of_not_mem {members : Members α} {key : String} (h : key ∉ keys members)
    (value : α) : insert members key value = members ++ [(key, value)] := by
  induction members with
  | nil => rfl
  | cons first rest ih =>
    have hne : key ≠ first.1 := fun heq => h (by simp [keys, heq])
    have hrest : key ∉ keys rest := fun hmem => h (by simpa [keys, hne] using hmem)
    rw [insert, if_neg (by simpa using Ne.symm hne), ih hrest, List.cons_append]

theorem ofList_of_nodup {entries : List (String × α)} (h : (entries.map Prod.fst).Nodup) :
    ofList entries = entries := by
  induction entries using List.reverseRecOn with
  | nil => rfl
  | append_singleton entries entry ih =>
    rw [List.map_append, List.nodup_append] at h
    have hnew : entry.1 ∉ keys entries := fun hmem => h.2.2 _ hmem entry.1 (by simp) rfl
    rw [ofList_snoc, ih h.1, insert_of_not_mem hnew]

/-- The last assignment to a key decides its value. -/
theorem get?_ofList_append {first rest : List (String × α)} {key : String} (value : α)
    (h : ∀ entry ∈ rest, entry.1 ≠ key) :
    get? (ofList (first ++ (key, value) :: rest)) key = some value := by
  induction rest using List.reverseRecOn with
  | nil => rw [ofList_snoc, get?_insert_self]
  | append_singleton rest entry ih =>
    have hlast : entry.1 ≠ key := h entry (by simp)
    rw [← List.cons_append, ← List.append_assoc, ofList_snoc, get?_insert_of_ne _ _ hlast]
    exact ih fun e he => h e (by simp [he])

/-- The keys of a dictionary do not depend on the values that are assigned. -/
theorem keys_ofList (entries : List (String × α)) : keys (ofList entries) =
    (entries.map Prod.fst).foldl (fun ks key => if key ∈ ks then ks else ks ++ [key]) [] := by
  induction entries using List.reverseRecOn with
  | nil => rfl
  | append_singleton entries entry ih =>
    rw [ofList_snoc, keys_insert, ih, List.map_append, List.foldl_append]
    rfl

theorem nodup_keys_ofList (entries : List (String × α)) : (keys (ofList entries)).Nodup := by
  induction entries using List.reverseRecOn with
  | nil => exact List.nodup_nil
  | append_singleton entries entry ih =>
    rw [ofList_snoc, keys_insert]
    split
    · exact ih
    · next hnew =>
      refine List.nodup_append.2 ⟨ih, by simp, fun key hkey other hother => ?_⟩
      rw [List.mem_singleton.1 hother]
      rintro rfl
      exact hnew hkey

/-- Assigning a key does not matter to the others. -/
theorem get?_ofList_congr {before after : List (String × α)} {key other : String} (a b : α)
    (h : other ≠ key) : get? (ofList (before ++ (key, a) :: after)) other =
      get? (ofList (before ++ (key, b) :: after)) other := by
  induction after using List.reverseRecOn with
  | nil => rw [ofList_snoc, ofList_snoc, get?_insert_of_ne _ _ h.symm, get?_insert_of_ne _ _ h.symm]
  | append_singleton after entry ih =>
    rw [← List.cons_append, ← List.append_assoc, ofList_snoc, ← List.cons_append,
      ← List.append_assoc, ofList_snoc]
    by_cases hentry : entry.1 = other
    · rw [hentry, get?_insert_self, get?_insert_self]
    · rw [get?_insert_of_ne _ _ hentry, get?_insert_of_ne _ _ hentry, ih]

/-- Assignments that correspond leave corresponding dictionaries. -/
theorem forall₂_insert {R : α → β → Prop} {xs : Members α} {ys : Members β}
    (h : List.Forall₂ (fun x y => x.1 = y.1 ∧ R x.2 y.2) xs ys) (key : String) {a : α} {b : β}
    (hab : R a b) :
    List.Forall₂ (fun x y => x.1 = y.1 ∧ R x.2 y.2) (insert xs key a) (insert ys key b) := by
  induction h with
  | nil => exact .cons ⟨rfl, hab⟩ .nil
  | @cons x y xs ys hxy hrest ih =>
    rw [insert, insert, hxy.1]
    split
    · exact .cons ⟨rfl, hab⟩ hrest
    · exact .cons ⟨rfl, hxy.2⟩ ih

theorem forall₂_ofList {R : α → β → Prop} {xs : List (String × α)} {ys : List (String × β)}
    (h : List.Forall₂ (fun x y => x.1 = y.1 ∧ R x.2 y.2) xs ys) :
    List.Forall₂ (fun x y => x.1 = y.1 ∧ R x.2 y.2) (ofList xs) (ofList ys) := by
  have hfold : ∀ (members : Members α) (others : Members β),
      List.Forall₂ (fun x y => x.1 = y.1 ∧ R x.2 y.2) members others →
      List.Forall₂ (fun x y => x.1 = y.1 ∧ R x.2 y.2)
        (xs.foldl (fun members e => insert members e.1 e.2) members)
        (ys.foldl (fun members e => insert members e.1 e.2) others) := by
    induction h with
    | nil => exact fun _ _ hmembers => hmembers
    | @cons x y xs ys hxy _ ih =>
      intro members others hmembers
      rw [List.foldl_cons, List.foldl_cons, hxy.1]
      exact ih _ _ (forall₂_insert hmembers y.1 hxy.2)
  exact hfold [] [] .nil

/-- What is under a key of one list is related to what is under the same key of the other. -/
theorem exists_get?_of_forall₂ {R : α → β → Prop} {xs : Members α} {ys : Members β}
    (h : List.Forall₂ (fun x y => x.1 = y.1 ∧ R x.2 y.2) xs ys) (hkeys : (keys ys).Nodup)
    {entry : String × α} (hentry : entry ∈ xs) :
    ∃ b, get? ys entry.1 = some b ∧ R entry.2 b := by
  obtain ⟨i, hi⟩ := List.mem_iff_get.1 hentry
  have hlt : i.1 < ys.length := h.length_eq ▸ i.2
  obtain ⟨hkey, hrelated⟩ := h.get i.2 hlt
  rw [← hi]
  refine ⟨_, ?_, hrelated⟩
  rw [show (xs.get i).1 = (ys.get ⟨i, hlt⟩).1 from hkey]
  exact get?_of_mem hkeys (List.get_mem ys _)

end OperationSamples.Members
