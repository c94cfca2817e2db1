import OperationSamples.Proofs.Fractions
import OperationSamples.Sample.Scalar

/-!
Which draws can fail, and how.

`Draw.Meets` is a small logic for draws: from any state of the generator, faults are of a given kind
and results satisfy a postcondition. It has a rule for sequencing and one for every primitive. By it
the draws of the built-in scalars do not fail at all (`Scalar.meets_builtin?`), the generators of
`Generator.refusing` fail for nothing but their arguments, whatever these are
(`Generator.refuses_run`), and all generators give values that have a JSON form
(`Generator.gives_run`).
-/

namespace OperationSamples

namespace Twister

theorem belowWithin_lt {bound : Nat} (h : 0 < bound) (fuel : Nat) (t : Twister) :
    (belowWithin fuel bound t).1 < bound := by
  induction fuel generalizing t with
  | zero => exact h
  | succ fuel ih =>
    unfold belowWithin
    dsimp only
    split
    · assumption
    · exact ih _

theorem unitNumerator_lt (t : Twister) : t.unitNumerator.1 < Nat.pow 2 53 := by
  have hfirst := t.next.1.toNat_lt
  have hsecond := t.next.2.next.1.toNat_lt
  unfold unitNumerator
  dsimp only
  rw [Nat.shiftRight_eq_div_pow, Nat.shiftRight_eq_div_pow]
  change _ * 67108864 + _ < 9007199254740992
  omega

end Twister

/-- Whether a draw, from any state of the generator, fails with the given faults only and has
results that satisfy the postcondition. -/
def Draw.Meets {α : Type} (faults : GeneratorFault → Prop) (draw : Draw α) (post : α → Prop) :
    Prop :=
  ∀ t, (∀ fault, draw.run t = .error fault → faults fault) ∧
    ∀ a after, draw.run t = .ok (a, after) → post a

namespace Draw.Meets

variable {α β : Type} {faults : GeneratorFault → Prop} {post : α → Prop} {post' : β → Prop}

/-- A draw that reads the generator and does not fail. -/
theorem of_total {f : Twister → α × Twister} (h : ∀ t, post (f t).1) :
    Meets faults (fun t => .ok (f t)) post := by
  refine fun t => ⟨fun _ heq => (nomatch heq), fun a after heq => ?_⟩
  have hsame : f t = (a, after) := Except.ok.inj heq
  have hpost := h t
  rw [hsame] at hpost
  exact hpost

protected theorem pure {a : α} (h : post a) : Meets faults (pure a) post :=
  of_total fun _ => h

protected theorem throw {fault : GeneratorFault} (h : faults fault) :
    Meets faults (throw fault : Draw α) post :=
  fun _ => ⟨fun _ heq => Except.error.inj heq ▸ h, fun _ _ heq => nomatch heq⟩

protected theorem bind {x : Draw α} {f : α → Draw β} (hx : Meets faults x post)
    (hf : ∀ a, post a → Meets faults (f a) post') : Meets faults (x >>= f) post' := by
  intro t
  obtain ⟨hfault, hpost⟩ := hx t
  have hrun : (x >>= f).run t = x.run t >>= fun p => (f p.1).run p.2 := rfl
  rw [hrun]
  generalize x.run t = outcome at hfault hpost
  match outcome with
  | .ok (a, after) => exact hf a (hpost a after rfl) after
  | .error fault =>
    exact ⟨fun _ heq => Except.error.inj heq ▸ hfault fault rfl, fun _ _ heq => nomatch heq⟩

theorem mono {x : Draw α} {weaker : α → Prop} (h : Meets faults x post)
    (hpost : ∀ a, post a → weaker a) : Meets faults x weaker :=
  fun t => ⟨(h t).1, fun a after heq => hpost a ((h t).2 a after heq)⟩

theorem trivially (x : Draw α) : Meets (fun _ => True) x fun _ => True :=
  fun _ => ⟨fun _ _ => trivial, fun _ _ _ => trivial⟩

/-! Primitives. -/

theorem need {o : Option α} {a : α} (h : o = some a) :
    Meets faults (Generator.need o) (· = a) := by
  subst h
  exact Meets.pure rfl

theorem bits (count : Nat) : Meets faults (Draw.bits count) fun _ => True :=
  of_total fun _ => trivial

theorem below {bound : Nat} (h : 0 < bound) : Meets faults (Draw.below bound) (· < bound) :=
  of_total (Twister.belowWithin_lt h 10000)

theorem unit : Meets faults Draw.unit (· < Nat.pow 2 53) := of_total Twister.unitNumerator_lt

theorem between {low high : Int} (h : low ≤ high) :
    Meets faults (Draw.between low high) fun n => low ≤ n ∧ n ≤ high := by
  unfold Draw.between
  rw [if_neg (Int.not_lt.2 h)]
  refine (below (by omega)).bind fun n hn => Meets.pure ?_
  omega

theorem times {draw : Draw α} (h : Meets faults draw fun _ => True) (count : Nat) :
    Meets faults (Draw.times count draw) fun items => items.length = count := by
  induction count with
  | zero => exact Meets.pure rfl
  | succ count ih =>
    exact h.bind fun _ _ => ih.bind fun rest hrest => Meets.pure (congrArg (· + 1) hrest)

theorem elementAt {items : List α} {index : Nat} (h : index < items.length) :
    Meets faults (Draw.elementAt items index) fun _ => True := by
  unfold Draw.elementAt
  rw [List.getElem?_eq_getElem h]
  exact Meets.pure trivial

theorem choice {items : List α} (h : items ≠ []) :
    Meets faults (Draw.choice items) fun _ => True := by
  unfold Draw.choice
  rw [if_neg (by simpa using h)]
  exact (below (List.length_pos_iff.2 h)).bind fun _ hindex => elementAt hindex

theorem elementByFraction {items : List α} (h : items ≠ [])
    (hlength : items.length ≤ Nat.pow 2 51) :
    Meets faults (Draw.elementByFraction items) fun _ => True :=
  unit.bind fun _ hnumerator =>
    elementAt (Double.index_lt_of_fraction hnumerator (List.length_pos_iff.2 h) hlength)

theorem pick {items : List α} (h : items ≠ []) (hlength : items.length ≤ Nat.pow 2 51)
    {count : Int} (hcount : 1 ≤ count) : Meets faults (Draw.pick items count) (· ≠ []) := by
  unfold Draw.pick
  split
  · exact (choice h).bind fun item _ => Meets.pure (List.cons_ne_nil item [])
  · refine (times (elementByFraction h hlength) count.toNat).mono fun picked hpicked hnil => ?_
    rw [hnil, List.length_nil] at hpicked
    omega

theorem substitute {draw : Draw (List Char)} (h : Meets faults draw fun _ => True) (mark : Char)
    (text : List Char) : Meets faults (Draw.substitute mark draw text) fun _ => True := by
  induction text with
  | nil => exact Meets.pure trivial
  | cons c rest ih =>
    unfold Draw.substitute
    split
    · exact h.bind fun _ _ => ih.bind fun _ _ => Meets.pure trivial
    · exact ih.bind fun _ _ => Meets.pure trivial

end Draw.Meets

/-! ### Draws that do not fail -/

namespace Generator

variable {faults : GeneratorFault → Prop}

theorem meets_identifier : Draw.Meets faults identifier fun _ => True :=
  (Draw.Meets.bits 128).bind fun _ _ => .pure trivial

theorem meets_inRange {stop : Int} (h : 0 < stop) :
    Draw.Meets faults (inRange 0 stop 1) fun _ => True := by
  have hcount : stepCount 0 stop 1 = stop := by
    simp [stepCount]
  unfold inRange
  rw [hcount, if_neg (by simp; omega)]
  exact (Draw.Meets.below (by omega)).bind fun _ _ => .pure trivial

/-- A number of so many digits, if the digits are counted by a whole number. -/
theorem meets_ofDigits {digits : Int} (h : 0 ≤ digits) :
    Draw.Meets faults (ofDigits (.int digits) false) fun _ => True := by
  have hbelow : (Atom.int digits).isBelow? 0 = some false := by
    simp [Atom.isBelow?, Atom.index?, h]
  have hpower : (0 : Int) < Nat.pow 10 (digits + 0).toNat :=
    Int.natCast_pos.2 (Nat.pow_pos (by decide))
  unfold ofDigits
  refine (Draw.Meets.need hbelow).bind ?_
  rintro _ rfl
  refine (Draw.Meets.pure rfl : Draw.Meets faults (powerOfTen (.int digits) 0)
    (· = .int (Nat.pow 10 (digits + 0).toNat))).bind ?_
  rintro _ rfl
  generalize (Nat.pow 10 (digits + 0).toNat : Int) = power at hpower
  dsimp only
  rw [if_neg Bool.false_ne_true]
  refine (Draw.Meets.pure rfl : Draw.Meets faults (boundOf (.int (power - 1 + 1)))
    (· = power - 1 + 1)).bind ?_
  rintro _ rfl
  exact meets_inRange (by omega)

theorem meets_fraction : Draw.Meets faults fraction fun _ => True :=
  Draw.Meets.unit.bind fun _ _ => .pure trivial

theorem meets_madePositive (right : Int) (value : Double) :
    Draw.Meets faults (madePositive right value) fun _ => True := by
  unfold madePositive
  split
  · exact .pure trivial
  · split
    · exact meets_fraction.bind fun _ _ => .pure trivial
    · exact .pure trivial

theorem meets_signOf (positive : Option Atom) :
    Draw.Meets faults (signOf positive) fun _ => True := by
  unfold signOf
  split
  · exact Draw.Meets.choice (List.cons_ne_nil _ _)
  · exact .pure trivial
  · exact .pure trivial

/-- Once the digits are checked, a double is drawn. -/
theorem meets_double {left right : Int} (hleft : 0 ≤ left) (hright : 0 ≤ right)
    (h : (left < 0 || right < 0 || (left == 0 && right == 0) ||
      reliableDigits < left + right) = false) (positive : Option Atom) :
    Draw.Meets faults (double left right positive) fun _ => True := by
  unfold double
  dsimp only
  rw [h, if_neg Bool.false_ne_true]
  refine (meets_signOf positive).bind fun _ _ => (meets_ofDigits hleft).bind fun _ _ => ?_
  refine (meets_ofDigits hright).bind fun _ _ => ?_
  split
  · exact (meets_madePositive right _).bind fun _ _ => .pure trivial
  · exact .pure trivial

/-- Every share of six words is a finite number. -/
theorem isSome_truncate?_share : ∀ extra : Fin 81,
    (Double.ofIntRatio (6 * (60 + (extra.val : Int))) 100).truncate?.isSome = true := by
  decide +kernel

theorem meets_share : Draw.Meets faults (share (.int 6) 60 140) fun _ => True := by
  refine (Draw.Meets.between (by decide)).bind fun percent hpercent => ?_
  have hfinite : (Double.ofIntRatio (6 * percent) 100).truncate?.isSome = true := by
    have hextra := isSome_truncate?_share ⟨(percent - 60).toNat, by omega⟩
    have hsame : 60 + (((percent - 60).toNat : Nat) : Int) = percent := by omega
    rwa [hsame] at hextra
  obtain ⟨n, hn⟩ := Option.isSome_iff_exists.1 hfinite
  refine (Draw.Meets.need (show (Atom.int 6).index? = some 6 from rfl)).bind ?_
  rintro _ rfl
  rw [pure_bind]
  dsimp only
  split
  · next hparts =>
    rw [Double.truncate?, hparts] at hn
    cases hn
  · exact (Draw.Meets.need hn).mono fun _ _ => trivial

/-- A sentence of about six words. -/
theorem meets_sentenceOf :
    Draw.Meets faults (sentenceOf (.int 6) true (pure sampleWords)) fun _ => True := by
  unfold sentenceOf
  refine (Draw.Meets.need (show (Atom.int 6).atMost? 0 = some false by decide)).bind ?_
  rintro _ rfl
  rw [if_neg Bool.false_ne_true]
  dsimp only
  rw [if_pos rfl]
  refine meets_share.bind fun n _ => ?_
  rw [pure_bind, pure_bind]
  have hwords : sampleWords ≠ [] := by decide
  have hlength : sampleWords.length ≤ Nat.pow 2 51 := by decide +kernel
  refine (Draw.Meets.pick hwords hlength (Int.le_max_left 1 n)).bind fun picked hpicked => ?_
  cases picked with
  | nil => exact absurd rfl hpicked
  | cons first rest => exact .pure trivial

end Generator

/-- The draws of the built-in scalars do not fail. -/
theorem Scalar.meets_builtin? {name : String} {draw : Draw Json} (h : builtin? name = some draw)
    (faults : GeneratorFault → Prop) : draw.Meets faults fun _ => True := by
  unfold builtin? at h
  split at h <;> cases h
  · exact Generator.meets_identifier.bind fun _ _ => .pure trivial
  · exact Generator.meets_sentenceOf.bind fun _ _ => .pure trivial
  · exact (Draw.Meets.between (by decide)).bind fun _ _ => .pure trivial
  · exact (Generator.meets_double (by decide) (by decide) (by decide) _).bind fun _ _ =>
      .pure trivial
  · exact .pure trivial

/-! ### Draws that refuse arguments -/

namespace Generator

/-- Generators that fail for their arguments only, whatever these are. -/
def refusing : List String :=
  ["uuid4", "random_digit", "random_digit_not_null", "random_digit_above_two",
    "random_digit_or_empty", "random_digit_not_null_or_empty", "boolean", "pybool", "null_boolean",
    "pyfloat", "random_letter", "random_lowercase_letter", "random_uppercase_letter", "numerify",
    "hexify", "binary"]

/-- Whether a draw fails for its arguments only, and gives values that have a JSON form. -/
def Refuses (draw : Draw RawValue) : Prop :=
  draw.Meets (· = .badArguments) fun value => value.toJson?.isSome = true

theorem refuses_need {α : Type} (o : Option α) :
    Draw.Meets (· = .badArguments) (need o) fun _ => True := by
  cases o with
  | none => exact .throw rfl
  | some a => exact .pure trivial

theorem refuses_textAt (arguments : List Atom) (place : Nat) (default : String) :
    Draw.Meets (· = .badArguments) (textAt arguments place default) fun _ => True := by
  unfold textAt
  split
  · exact .pure trivial
  · exact .pure trivial
  · exact .throw rfl

theorem refuses_uniqueIdentifier (arguments : List Atom) :
    Refuses (uniqueIdentifier arguments) := by
  unfold uniqueIdentifier
  split
  · exact .throw rfl
  · exact meets_identifier.bind fun _ _ => .pure rfl

theorem refuses_digit {low high : Int} (h : low ≤ high) : Refuses (digit low high) :=
  (Draw.Meets.between h).bind fun _ _ => .pure rfl

theorem refuses_perhapsDigit {low high : Int} (h : low ≤ high) :
    Refuses (perhapsDigit low high) := by
  refine (Draw.Meets.between (by decide)).bind fun present _ => ?_
  split
  · exact refuses_digit h
  · exact .pure rfl

theorem refuses_byChance (chance : Atom) : Refuses (byChance chance) :=
  (Draw.Meets.between (by decide)).bind fun _ _ => (refuses_need _).bind fun _ _ => .pure rfl

theorem refuses_byPercentage (chance : Atom) : Refuses (byPercentage chance) := by
  refine (refuses_need _).bind fun _ _ => (refuses_need _).bind fun _ _ => ?_
  split
  · exact .throw rfl
  · exact refuses_byChance chance

theorem refuses_perhapsBool : Refuses perhapsBool := by
  refine (Draw.Meets.between (by decide)).bind fun _ _ => ?_
  split <;> exact .pure rfl

theorem refuses_double (left right : Int) (positive : Option Atom) :
    Draw.Meets (· = .badArguments) (double left right positive) fun _ => True := by
  cases hcheck : (left < 0 || right < 0 || (left == 0 && right == 0) ||
      reliableDigits < left + right) with
  | false =>
    have hleft : 0 ≤ left := by simp at hcheck; omega
    have hright : 0 ≤ right := by simp at hcheck; omega
    exact meets_double hleft hright hcheck positive
  | true =>
    unfold double
    dsimp only
    rw [hcheck, if_pos rfl]
    exact .throw rfl

theorem refuses_countAt (arguments : List Atom) (place : Nat) (count? : Atom → Option Int) :
    Draw.Meets (· = .badArguments) (countAt arguments place count?) fun _ => True := by
  unfold countAt
  split
  · exact .pure trivial
  · exact (refuses_need _).bind fun _ _ => .pure trivial

theorem refuses_digitCounts (left right : Option Int) :
    Draw.Meets (· = .badArguments) (digitCounts left right) fun _ => True := by
  unfold digitCounts
  split
  · exact .pure trivial
  · exact .pure trivial
  · exact .pure trivial
  · exact (Draw.Meets.between (by decide)).bind fun _ _ => .pure trivial

theorem refuses_decimal (arguments : List Atom) : Refuses (decimal arguments) := by
  unfold decimal
  dsimp only
  by_cases hlength : 3 < arguments.length
  · rw [if_pos hlength]
    exact .throw rfl
  · rw [if_neg hlength]
    refine (refuses_countAt _ _ _).bind fun _ _ => (refuses_countAt _ _ _).bind fun _ _ => ?_
    split
    · exact .throw rfl
    · refine (refuses_digitCounts _ _).bind fun counts _ => ?_
      exact (refuses_double _ _ _).bind fun _ _ => .pure rfl

theorem refuses_letter {source : List Char} (h : source ≠ []) : Refuses (letter source) :=
  (Draw.Meets.choice h).bind fun _ _ => .pure rfl

theorem refuses_fillDigits (text : List Char) :
    Draw.Meets (· = .badArguments) (fillDigits text) fun _ => True := by
  have hdigit : ∀ low high : Int, low ≤ high →
      Draw.Meets (· = .badArguments) (digitText low high) fun _ => True :=
    fun _ _ h => (Draw.Meets.between h).bind fun _ _ => .pure trivial
  have hperhaps : ∀ low high : Int, low ≤ high →
      Draw.Meets (· = .badArguments) (perhapsDigitText low high) fun _ => True := by
    refine fun low high h => (Draw.Meets.between (by decide)).bind fun present _ => ?_
    split
    · exact hdigit low high h
    · exact .pure trivial
  refine (Draw.Meets.substitute (hdigit 0 9 (by decide)) _ text).bind fun _ _ => ?_
  refine (Draw.Meets.substitute (hdigit 1 9 (by decide)) _ _).bind fun _ _ => ?_
  refine (Draw.Meets.substitute (hdigit 2 9 (by decide)) _ _).bind fun _ _ => ?_
  refine (Draw.Meets.substitute (hperhaps 0 9 (by decide)) _ _).bind fun _ _ => ?_
  exact Draw.Meets.substitute (hperhaps 1 9 (by decide)) _ _

theorem refuses_digitTemplate (arguments : List Atom) : Refuses (digitTemplate arguments) :=
  (refuses_textAt _ _ _).bind fun _ _ => (refuses_fillDigits _).bind fun _ _ => .pure rfl

theorem refuses_hexTemplate (arguments : List Atom) : Refuses (hexTemplate arguments) := by
  refine (refuses_textAt _ _ _).bind fun text _ => ?_
  have hdigits : (if isTrueAt arguments 1 false then "0123456789ABCDEF"
      else "0123456789abcdef").toList ≠ [] := by
    split <;> decide
  refine (Draw.Meets.substitute ?_ _ text).bind fun _ _ => .pure rfl
  exact (Draw.Meets.choice hdigits).bind fun _ _ => .pure trivial

theorem refuses_byteString (arguments : List Atom) : Refuses (byteString arguments) := by
  refine (refuses_need _).bind fun count _ => ?_
  refine (Draw.Meets.times ?_ count.toNat).bind fun _ _ => .pure rfl
  exact (Draw.Meets.below (by decide)).mono fun _ _ => trivial

theorem refuses_run_of_find {now : Int} {name : String} {g : Generator} {arguments : List Atom}
    (hfind : ((catalogue now).find? fun g => g.name == name) = some g)
    (h : Refuses (g.draw arguments)) : Refuses (run now name arguments) := by
  unfold run
  rw [hfind]
  dsimp only
  split
  · exact .throw rfl
  · exact h

theorem refuses_run {name : String} (h : name ∈ refusing) (now : Int) (arguments : List Atom) :
    Refuses (run now name arguments) := by
  simp only [refusing, List.mem_cons, List.not_mem_nil, or_false] at h
  rcases h with rfl | rfl | rfl | rfl | rfl | rfl | rfl | rfl | rfl | rfl | rfl | rfl | rfl | rfl |
    rfl | rfl
  · exact refuses_run_of_find rfl (refuses_uniqueIdentifier _)
  · exact refuses_run_of_find rfl (refuses_digit (by decide))
  · exact refuses_run_of_find rfl (refuses_digit (by decide))
  · exact refuses_run_of_find rfl (refuses_digit (by decide))
  · exact refuses_run_of_find rfl (refuses_perhapsDigit (by decide))
  · exact refuses_run_of_find rfl (refuses_perhapsDigit (by decide))
  · exact refuses_run_of_find rfl (refuses_byChance _)
  · exact refuses_run_of_find rfl (refuses_byPercentage _)
  · exact refuses_run_of_find rfl refuses_perhapsBool
  · exact refuses_run_of_find rfl (refuses_decimal _)
  · exact refuses_run_of_find rfl (refuses_letter (by decide))
  · exact refuses_run_of_find rfl (refuses_letter (by decide))
  · exact refuses_run_of_find rfl (refuses_letter (by decide))
  · exact refuses_run_of_find rfl (refuses_digitTemplate _)
  · exact refuses_run_of_find rfl (refuses_hexTemplate _)
  · exact refuses_run_of_find rfl (refuses_byteString _)

/-! ### Values of draws -/

/-- Whether a draw, if it does not fail, gives a value that has a JSON form. -/
def Gives (draw : Draw RawValue) : Prop :=
  draw.Meets (fun _ => True) fun value => value.toJson?.isSome = true

theorem Refuses.gives {draw : Draw RawValue} (h : Refuses draw) : Gives draw :=
  fun t => ⟨fun _ _ => trivial, (h t).2⟩

theorem gives_bind {α : Type} {draw : Draw α} {next : α → Draw RawValue}
    (h : ∀ a, Gives (next a)) : Gives (draw >>= next) :=
  (Draw.Meets.trivially draw).bind fun a _ => h a

theorem gives_throw (fault : GeneratorFault) : Gives (throw fault) := .throw trivial

theorem isSome_toJson?_texts (texts : List String) :
    (RawValue.list (texts.map .text)).toJson?.isSome = true := by
  rw [RawValue.toJson?, Option.isSome_map]
  induction texts with
  | nil => rfl
  | cons text rest ih =>
    rw [List.map_cons, RawValue.toJsons?, RawValue.toJson?]
    cases hrest : RawValue.toJsons? (rest.map .text) with
    | none =>
      rw [hrest] at ih
      cases ih
    | some others => rfl

theorem isSome_toJson?_toRaw (a : Atom) : a.toRaw.toJson?.isSome = true := by
  cases a <;> rfl

theorem gives_wholeNumber (arguments : List Atom) : Gives (wholeNumber arguments) :=
  gives_bind fun _ => gives_bind fun _ => gives_bind fun _ => gives_bind fun _ =>
    gives_bind fun _ => .pure rfl

theorem gives_number (arguments : List Atom) : Gives (number arguments) := by
  unfold number
  split
  · exact gives_bind fun _ => gives_bind fun _ => .pure rfl
  · exact gives_bind fun _ => gives_bind fun _ => gives_bind fun _ => .pure rfl

theorem gives_elements (arguments : List Atom) : Gives (elements arguments) := by
  refine gives_bind fun text => ?_
  split
  · exact gives_bind fun _ => gives_bind fun _ => .pure (isSome_toJson?_texts _)
  · exact gives_bind fun _ => gives_bind fun _ => gives_bind fun _ =>
      .pure (isSome_toJson?_texts _)

theorem gives_aboutAsMany (arguments : List Atom) : Gives (aboutAsMany arguments) := by
  unfold aboutAsMany
  dsimp only
  split
  · exact .pure (isSome_toJson?_toRaw _)
  · exact gives_bind fun _ => gives_bind fun _ => gives_bind fun _ =>
      .pure (isSome_toJson?_toRaw _)

theorem gives_dateAndTime (now : Int) (arguments : List Atom) :
    Gives (dateAndTime now arguments) := by
  unfold dateAndTime
  split
  · exact gives_throw _
  · exact gives_bind fun _ => .pure rfl

theorem gives_of_mem_catalogue {now : Int} {g : Generator} (h : g ∈ catalogue now)
    (arguments : List Atom) : Gives (g.draw arguments) := by
  simp only [catalogue, List.mem_cons, List.not_mem_nil, or_false] at h
  rcases h with rfl | rfl | rfl | rfl | rfl | rfl | rfl | rfl | rfl | rfl | rfl | rfl | rfl | rfl |
    rfl | rfl | rfl | rfl | rfl | rfl | rfl | rfl | rfl | rfl | rfl | rfl | rfl | rfl | rfl | rfl |
    rfl | rfl | rfl | rfl | rfl
  · exact (refuses_uniqueIdentifier _).gives
  · exact gives_wholeNumber _
  · exact gives_wholeNumber _
  · exact (refuses_digit (by decide)).gives
  · exact (refuses_digit (by decide)).gives
  · exact (refuses_digit (by decide)).gives
  · exact (refuses_perhapsDigit (by decide)).gives
  · exact (refuses_perhapsDigit (by decide)).gives
  · exact gives_number _
  · exact (refuses_byChance _).gives
  · exact (refuses_byPercentage _).gives
  · exact refuses_perhapsBool.gives
  · exact (refuses_decimal _).gives
  · exact gives_bind fun _ => gives_bind fun _ => .pure rfl
  · exact gives_bind fun _ => gives_bind fun _ => .pure (isSome_toJson?_texts _)
  · exact gives_bind fun _ => .pure rfl
  · exact gives_bind fun _ => gives_bind fun _ => .pure rfl
  · exact gives_elements _
  · exact gives_elements _
  · exact (refuses_letter (by decide)).gives
  · exact (refuses_letter (by decide)).gives
  · exact (refuses_letter (by decide)).gives
  · exact gives_aboutAsMany _
  · exact (refuses_digitTemplate _).gives
  · exact gives_bind fun _ => gives_bind fun _ => .pure rfl
  · exact gives_bind fun _ => gives_bind fun _ => gives_bind fun _ => .pure rfl
  · exact (refuses_hexTemplate _).gives
  · exact (refuses_byteString _).gives
  · exact gives_throw _
  · exact gives_bind fun _ => gives_bind fun _ => gives_bind fun _ => .pure rfl
  · exact gives_bind fun _ => .pure rfl
  · exact gives_bind fun _ => .pure rfl
  · exact gives_dateAndTime _ _
  · exact gives_bind fun _ => gives_bind fun _ => .pure rfl
  · exact gives_bind fun _ => gives_bind fun _ => .pure rfl

theorem gives_run (now : Int) (name : String) (arguments : List Atom) :
    Gives (run now name arguments) := by
  unfold run
  split
  · exact gives_throw _
  · next g hfind =>
    split
    · exact gives_throw _
    · exact gives_of_mem_catalogue (List.mem_of_find?_eq_some hfind) arguments

end Generator

end OperationSamples
