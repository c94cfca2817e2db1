import OperationSamples.Proofs.Draws
import OperationSamples.Proofs.Overriding
import OperationSamples.Proofs.References

/-!
The JSON forms of values.

The form of a value is made from the forms of its parts: the items of a list, a tuple or a set, and
the values of a mapping (`RawValue.parts`). A value has a form exactly if none of the decimals in it
signals and the keys in it can be written (`RawValue.isSome_toJson?_iff`). Every object in a form
has each of its keys once, since entries whose keys have the same text are one member
(`RawValue.distinctKeys_of_toJson?`), and the JSON values of this kind are the ones that are their
own forms (`RawValue.toJson?_ofJson_iff`). So what has a form has one that stays what it is
(`RawValue.native_and_stable`).
-/

namespace OperationSamples

/-- Whether a decimal is the one that forbids its use. -/
def DecimalValue.signals : DecimalValue → Bool
  | .nan _ signals _ => signals
  | _ => false

theorem DecimalValue.isSome_toDouble? (d : DecimalValue) :
    d.toDouble?.isSome = true ↔ d.signals = false := by
  rcases d with _ | _ | ⟨negative, _ | _, payload⟩ <;> simp [toDouble?, signals]

def Json.isScalar : Json → Bool
  | .arr _ => false
  | .obj _ => false
  | _ => true

theorem Json.distinctKeys_of_isScalar {json : Json} (h : json.isScalar = true) :
    json.distinctKeys = true := by
  cases json with
  | arr items => cases h
  | obj members => cases h
  | _ => rfl

namespace RawValue

/-! ### Parts -/

/-- The values that a value is made of. The keys of a mapping are not among them. -/
def parts : RawValue → List RawValue
  | .list items => items
  | .tuple items => items
  | .set items => items
  | .mapping entries => entries.map Prod.snd
  | _ => []

/-- Whether a value is another one, or stands at some depth in it. -/
inductive Within (inner : RawValue) : RawValue → Prop
  | self : Within inner inner
  | part {value part : RawValue} : part ∈ value.parts → Within inner part → Within inner value

theorem sizeOf_lt_of_mem_parts {value part : RawValue} (h : part ∈ value.parts) :
    sizeOf part < sizeOf value := by
  cases value with
  | list items =>
    have hitem : sizeOf part < sizeOf items := List.sizeOf_lt_of_mem h
    simp only [RawValue.list.sizeOf_spec]
    omega
  | tuple items =>
    have hitem : sizeOf part < sizeOf items := List.sizeOf_lt_of_mem h
    simp only [RawValue.tuple.sizeOf_spec]
    omega
  | set items =>
    have hitem : sizeOf part < sizeOf items := List.sizeOf_lt_of_mem h
    simp only [RawValue.set.sizeOf_spec]
    omega
  | mapping entries =>
    obtain ⟨⟨key, value⟩, hmem, rfl⟩ := List.mem_map.1 h
    have hentry := List.sizeOf_lt_of_mem hmem
    simp only [RawValue.mapping.sizeOf_spec, Prod.mk.sizeOf_spec] at hentry ⊢
    omega
  | _ => cases h

/-- Induction from the parts of a value to the value. -/
@[elab_as_elim]
theorem parts_induction {motive : RawValue → Prop}
    (step : ∀ value, (∀ part ∈ value.parts, motive part) → motive value) (value : RawValue) :
    motive value :=
  step value fun part _ => parts_induction step part
termination_by sizeOf value
decreasing_by exact sizeOf_lt_of_mem_parts ‹_›

/-! ### Which values have a form -/

/-- Whether a value can be brought down to JSON: the decimals in it are doubles, and its keys have
texts. -/
structure Convertible (value : RawValue) : Prop where
  decimals : ∀ d : DecimalValue, Within (.decimal d) value → d.signals = false
  keys : ∀ entries, Within (.mapping entries) value → ∀ entry ∈ entries, entry.1.isWritable = true

/-- Whether a value, its parts left aside, can be brought down to JSON. -/
def fits : RawValue → Bool
  | .decimal d => !d.signals
  | .mapping entries => entries.all fun entry => entry.1.isWritable
  | _ => true

theorem isSome_toJsons? (items : List RawValue) :
    (toJsons? items).isSome = true ↔ ∀ item ∈ items, item.toJson?.isSome = true := by
  induction items with
  | nil => simp [toJsons?]
  | cons item rest ih =>
    rw [List.forall_mem_cons, ← ih, toJsons?]
    cases item.toJson? with
    | none => simp
    | some first => cases toJsons? rest <;> simp

theorem isSome_toMembers? (entries : List (RawValue × RawValue)) :
    (toMembers? entries).isSome = true ↔
      (∀ entry ∈ entries, entry.1.isWritable = true) ∧
        ∀ value ∈ entries.map Prod.snd, value.toJson?.isSome = true := by
  induction entries with
  | nil => simp [toMembers?]
  | cons entry rest ih =>
    obtain ⟨key, value⟩ := entry
    rw [List.map_cons, List.forall_mem_cons, List.forall_mem_cons, and_and_and_comm, ← ih,
      toMembers?, keyText?]
    cases key.isWritable with
    | false => simp
    | true =>
      cases value.toJson? with
      | none => simp
      | some first => cases toMembers? rest <;> simp

/-- A value has a form if its parts do, unless something is in the way in the value itself. -/
theorem isSome_toJson?_of_parts (value : RawValue) : value.toJson?.isSome = true ↔
    value.fits = true ∧ ∀ part ∈ value.parts, part.toJson?.isSome = true := by
  cases value with
  | list items => simpa [toJson?, fits, parts] using isSome_toJsons? items
  | tuple items => simpa [toJson?, fits, parts] using isSome_toJsons? items
  | set items => simpa [toJson?, fits, parts] using isSome_toJsons? items
  | mapping entries =>
    rw [toJson?, Option.isSome_map, isSome_toMembers?, fits, List.all_eq_true, parts]
  | decimal d => simp [toJson?, fits, parts, DecimalValue.isSome_toDouble?]
  | _ => simp [toJson?, fits, parts]

theorem convertible_iff_fits (value : RawValue) :
    value.Convertible ↔ ∀ inner, Within inner value → inner.fits = true := by
  constructor
  · intro h inner hinner
    cases inner with
    | decimal d => simp [fits, h.decimals d hinner]
    | mapping entries => simpa [fits] using h.keys entries hinner
    | _ => rfl
  · intro h
    refine ⟨fun d hd => ?_, fun entries hentries => ?_⟩
    · simpa [fits] using h _ hd
    · simpa [fits] using h _ hentries

theorem isSome_toJson?_iff (value : RawValue) :
    value.toJson?.isSome = true ↔ value.Convertible := by
  rw [convertible_iff_fits]
  induction value using parts_induction with
  | step value ih =>
    rw [isSome_toJson?_of_parts]
    constructor
    · rintro ⟨hself, hparts⟩ inner hinner
      cases hinner with
      | self => exact hself
      | part hpart hwithin => exact (ih _ hpart).1 (hparts _ hpart) inner hwithin
    · intro h
      exact ⟨h value .self, fun part hpart =>
        (ih part hpart).2 fun inner hinner => h inner (.part hpart hinner)⟩

/-! ### Keys -/

theorem exists_of_mem_toJsons? {items : List RawValue} {forms : List Json}
    (h : toJsons? items = some forms) {form : Json} (hform : form ∈ forms) :
    ∃ item ∈ items, item.toJson? = some form := by
  induction items generalizing forms with
  | nil =>
    obtain rfl := Option.some.inj h
    cases hform
  | cons item rest ih =>
    rw [toJsons?] at h
    split at h
    · next first others hfirst hothers =>
      obtain rfl := Option.some.inj h
      rcases List.mem_cons.1 hform with rfl | hform
      · exact ⟨item, List.mem_cons_self, hfirst⟩
      · obtain ⟨other, hother, hjson⟩ := ih hothers hform
        exact ⟨other, List.mem_cons_of_mem _ hother, hjson⟩
    · cases h

theorem exists_of_mem_toMembers? {entries : List (RawValue × RawValue)}
    {members : List (String × Json)} (h : toMembers? entries = some members)
    {member : String × Json} (hmember : member ∈ members) :
    ∃ entry ∈ entries, entry.2.toJson? = some member.2 := by
  induction entries generalizing members with
  | nil =>
    obtain rfl := Option.some.inj h
    cases hmember
  | cons entry rest ih =>
    rw [toMembers?] at h
    split at h
    · next shown first others _ hfirst hothers =>
      obtain rfl := Option.some.inj h
      rcases List.mem_cons.1 hmember with rfl | hmember
      · exact ⟨entry, List.mem_cons_self, hfirst⟩
      · obtain ⟨other, hother, hjson⟩ := ih hothers hmember
        exact ⟨other, List.mem_cons_of_mem _ hother, hjson⟩
    · cases h

/-- A form is a scalar, an array of forms of the parts, or the dictionary that assigning forms of
the parts to keys leaves behind. -/
theorem toJson?_cases {value : RawValue} {json : Json} (h : value.toJson? = some json) :
    json.isScalar = true ∨
    (∃ items, json = .arr items ∧ ∀ item ∈ items, ∃ part ∈ value.parts, part.toJson? = some item) ∨
    ∃ members, json = .obj (Members.ofList members) ∧
      ∀ member ∈ members, ∃ part ∈ value.parts, part.toJson? = some member.2 := by
  have harray : ∀ {items : List RawValue}, (toJsons? items).map .arr = some json →
      ∃ forms, json = .arr forms ∧ ∀ form ∈ forms, ∃ item ∈ items, item.toJson? = some form := by
    intro items hitems
    obtain ⟨forms, hforms, rfl⟩ := Option.map_eq_some_iff.1 hitems
    exact ⟨forms, rfl, fun _ => exists_of_mem_toJsons? hforms⟩
  cases value with
  | list items => exact .inr (.inl (harray h))
  | tuple items => exact .inr (.inl (harray h))
  | set items => exact .inr (.inl (harray h))
  | mapping entries =>
    obtain ⟨members, hmembers, rfl⟩ := Option.map_eq_some_iff.1 h
    refine .inr (.inr ⟨_, rfl, fun member hmember => ?_⟩)
    obtain ⟨entry, hentry, hjson⟩ := exists_of_mem_toMembers? hmembers hmember
    exact ⟨entry.2, List.mem_map_of_mem hentry, hjson⟩
  | decimal d =>
    obtain ⟨x, -, rfl⟩ := Option.map_eq_some_iff.1 h
    exact .inl rfl
  | _ =>
    obtain rfl := Option.some.inj h
    exact .inl rfl

theorem distinctKeys_of_toJson? {value : RawValue} {json : Json} (h : value.toJson? = some json) :
    json.distinctKeys = true := by
  induction value using parts_induction generalizing json with
  | step value ih =>
    rcases toJson?_cases h with hscalar | ⟨items, rfl, hitems⟩ | ⟨members, rfl, hmembers⟩
    · exact Json.distinctKeys_of_isScalar hscalar
    · rw [Json.distinctKeys_arr]
      intro item hitem
      obtain ⟨part, hpart, hjson⟩ := hitems item hitem
      exact ih part hpart hjson
    · rw [Json.distinctKeys_obj]
      refine ⟨Members.nodup_keys_ofList members, fun member hmember => ?_⟩
      obtain ⟨part, hpart, hjson⟩ := hmembers member (Members.mem_of_mem_ofList hmember)
      exact ih part hpart hjson

/-! ### Forms of JSON values -/

mutual

theorem toJson?_ofJson : ∀ json : Json, json.distinctKeys = true → (ofJson json).toJson? = some json
  | .null, _ => rfl
  | .bool _, _ => rfl
  | .int _, _ => rfl
  | .float _, _ => rfl
  | .str _, _ => rfl
  | .arr items, h => by
    rw [ofJson, toJson?, toJsons?_ofJsons items h, Option.map_some]
  | .obj members, h => by
    rw [Json.distinctKeys, Bool.and_eq_true, decide_eq_true_eq] at h
    rw [ofJson, toJson?, toMembers?_ofMembers members h.2, Option.map_some,
      Members.ofList_of_nodup h.1]

theorem toJsons?_ofJsons : ∀ items : List Json, Json.distinctKeysInItems items = true →
    toJsons? (ofJsons items) = some items
  | [], _ => rfl
  | item :: rest, h => by
    rw [Json.distinctKeysInItems, Bool.and_eq_true] at h
    rw [ofJsons, toJsons?, toJson?_ofJson item h.1, toJsons?_ofJsons rest h.2]

theorem toMembers?_ofMembers : ∀ members : List (String × Json),
    Json.distinctKeysInMembers members = true → toMembers? (ofMembers members) = some members
  | [], _ => rfl
  | (key, value) :: rest, h => by
    rw [Json.distinctKeysInMembers, Bool.and_eq_true] at h
    rw [ofMembers, toMembers?, toJson?_ofJson value h.1, toMembers?_ofMembers rest h.2]
    rfl

end

/-- The JSON values that are their own forms are those that have no key twice. -/
theorem toJson?_ofJson_iff (json : Json) :
    (ofJson json).toJson? = some json ↔ json.distinctKeys = true :=
  ⟨distinctKeys_of_toJson?, toJson?_ofJson json⟩

/-- A value with a form has one that has no key twice and is its own form. -/
theorem exists_stable_iff (value : RawValue) :
    (∃ json, value.toJson? = some json ∧ json.distinctKeys = true ∧
      (ofJson json).toJson? = some json) ↔ value.Convertible := by
  rw [← isSome_toJson?_iff, Option.isSome_iff_exists]
  constructor
  · rintro ⟨json, hjson, -, -⟩
    exact ⟨json, hjson⟩
  · rintro ⟨json, hjson⟩
    have hkeys := distinctKeys_of_toJson? hjson
    exact ⟨json, hjson, hkeys, toJson?_ofJson json hkeys⟩

end RawValue

/-- What is assumed of providers: they return nothing with a decimal that signals, nor with a key
that has an integer of too many digits to be written. -/
def Providers.ReturnConvertible (providers : Providers) : Prop :=
  ∀ seed name arguments value, providers.call seed name arguments = .ok value → value.Convertible

theorem Generator.returnConvertible_providers (now : Int) :
    (providers now).ReturnConvertible := by
  intro seed name arguments value hcall
  have hrun : ((run now name arguments).fromSeed seed).mapError exceptionOf = .ok value := hcall
  rw [Draw.fromSeed] at hrun
  cases hresult : (run now name arguments).run (Twister.seed seed) with
  | error fault =>
    rw [hresult] at hrun
    cases hrun
  | ok result =>
    rw [hresult] at hrun
    obtain rfl : result.1 = value := Except.ok.inj hrun
    exact (RawValue.isSome_toJson?_iff _).1 ((gives_run now name arguments _).2 _ _ hresult)

namespace RawValue

/-- **JSON forms.** Every value that a provider returns has a form, which has no key twice and is
its own form. Of all values, those have such a form, or any, that hold no decimal that signals and
no key with an integer of too many digits to be written; and the JSON values that have no key twice
are all their own forms. -/
theorem native_and_stable {providers : Providers} (hproviders : providers.ReturnConvertible) :
    (∀ seed name arguments value, providers.call seed name arguments = .ok value →
      ∃ json, value.toJson? = some json ∧ json.distinctKeys = true ∧
        (ofJson json).toJson? = some json) ∧
    (∀ value : RawValue, (∃ json, value.toJson? = some json ∧ json.distinctKeys = true ∧
        (ofJson json).toJson? = some json) ↔ value.Convertible) ∧
    (∀ value : RawValue, value.toJson?.isSome = true ↔ value.Convertible) ∧
    ∀ json : Json, (ofJson json).toJson? = some json ↔ json.distinctKeys = true := by
  refine ⟨fun seed name arguments value hcall => ?_, exists_stable_iff, isSome_toJson?_iff,
    toJson?_ofJson_iff⟩
  exact (exists_stable_iff value).2 (hproviders seed name arguments value hcall)

/-- A value of the catalogue, and one with two keys of the same text: they are one key of the form,
in the place of the first and with the value of the last. -/
theorem native_and_stable_same_text :
    let value := mapping [(.int 1, .date ⟨2024, 1, 31⟩), (.null, .bytes [0x61, 0xFF]),
      (.text "1", .tuple [.decimal (.finite false ['1', '5'] (-1)), .set [.bool true]])]
    let json := Json.obj [("1", .arr [.float (Double.ofDecimal false 15 (-1)), .arr [.bool true]]),
      ("None", .str "a\uFFFD")]
    (Generator.providers 0).ReturnConvertible ∧
      (∃ drawn form, (Generator.providers 0).call 7 "numerify" [.text "pet"] = .ok drawn ∧
        drawn.toJson? = some form ∧ (ofJson form).toJson? = some form) ∧
      value.toJson? = some json ∧ value.Convertible ∧ (ofJson json).toJson? = some json := by
  intro value json
  have hproviders := Generator.returnConvertible_providers 0
  obtain ⟨hreturns, -, hany, hnative⟩ := native_and_stable hproviders
  have hone : keyText? (.int 1) = some "1" := by
    rw [keyText?, if_pos (by decide +kernel)]
    rfl
  have hform : value.toJson? = some json := by
    simp only [value, toJson?, toMembers?, hone]
    rfl
  have hkeys : json.distinctKeys = true := by decide +kernel
  refine ⟨hproviders, ?_, hform, (hany value).1 (by rw [hform]; rfl), (hnative json).2 hkeys⟩
  have hcall : ((Generator.providers 0).call 7 "numerify" [.text "pet"]).isOk = true := by
    decide +kernel
  cases hdrawn : (Generator.providers 0).call 7 "numerify" [.text "pet"] with
  | error exception =>
    rw [hdrawn] at hcall
    cases hcall
  | ok drawn =>
    obtain ⟨form, hjson, -, hstable⟩ := hreturns _ _ _ _ hdrawn
    exact ⟨drawn, form, rfl, hjson, hstable⟩

end RawValue

end OperationSamples
