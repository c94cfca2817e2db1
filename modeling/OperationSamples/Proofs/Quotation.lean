import OperationSamples.Artifact.CodeExpression
import OperationSamples.Json.Reader
import OperationSamples.Proofs.CodePoints

/-!
Quoted texts end at their closing quote.

A code point is written as itself or by an escape: a backslash and a letter, or a backslash, `u` and
four digits. Either way it can be told where it ends and which point it is, unless it takes two
escapes. So no two texts are quoted alike, and in ASCII no two texts with different units.
-/

namespace OperationSamples

namespace Quoting

open CodePoint (ofChar)

/-! ### Hexadecimal numbers -/

/-- One digit more is the last one. -/
theorem hex_succ (width n : Nat) :
    hex (width + 2) n = hex (width + 1) (n / 16) ++ [(Nat.digitChar (n % 16)).toLower] := by
  by_cases h : n < 16
  · have hzero : n / 16 = 0 := Nat.div_eq_of_lt h
    simp [hex, hzero, Nat.mod_eq_of_lt h, Nat.toDigits_of_lt_base h, Nat.toDigits_zero,
      List.replicate_succ']
  · simp [hex, Nat.toDigits_of_base_le (by decide : 1 < 16) (Nat.le_of_not_lt h)]

theorem hexValue?_digitChar {n : Nat} (h : n < 16) :
    Json.hexValue? (Nat.digitChar n).toLower = some n := by
  have hall : ∀ n : Fin 16, Json.hexValue? (Nat.digitChar n).toLower = some n.val := by decide
  exact hall ⟨n, h⟩

/-- Four digits are a number below 65536. -/
theorem hexUnit?_hex {n : Nat} (h : n < 65536) (rest : List Char) :
    Json.hexUnit? (hex 4 n ++ rest) = some (n, rest) := by
  have hfirst : hex 1 (n / 16 / 16 / 16) = [(Nat.digitChar (n / 16 / 16 / 16)).toLower] := by
    have hsmall : n / 16 / 16 / 16 < 16 := by omega
    simp [hex, Nat.toDigits_of_lt_base hsmall]
  rw [hex_succ, hex_succ, hex_succ, hfirst]
  have hvalue : ((n / 16 / 16 / 16 * 16 + n / 16 / 16 % 16) * 16 + n / 16 % 16) * 16 + n % 16 = n := by
    omega
  simp only [List.cons_append, List.nil_append, Json.hexUnit?,
    hexValue?_digitChar (show n / 16 / 16 / 16 < 16 by omega),
    hexValue?_digitChar (Nat.mod_lt _ (by decide : 0 < 16)), Option.bind_eq_bind, Option.bind_some,
    hvalue]
  rfl

/-! ### Escapes -/

/-- The code point of the escape that a text starts with, after its backslash. It is not joined with
a following one. -/
def readPoint? : List Char → Option CodePoint
  | 'u' :: rest => (Json.hexUnit? rest).map fun (unit, _) => .ofNat unit
  | text => (Json.readEscape? text).map Prod.fst

/-- What is written for a code point that is not written as itself: a backslash and something that
is read back, whatever follows it. -/
def Escapes (p : CodePoint) (written : List Char) : Prop :=
  ∃ body, written = '\\' :: body ∧ ∀ rest, readPoint? (body ++ rest) = some p

theorem escapes_unitEscape {p : CodePoint} (h : p.val < 0x10000) :
    Escapes p (unitEscape p.val) := by
  refine ⟨'u' :: hex 4 p.val, rfl, fun rest => ?_⟩
  simp [readPoint?, hexUnit?_hex h, CodePoint.ofNat_val]

theorem escapes_of_shortEscape? {p : CodePoint} {written : List Char}
    (h : shortEscape? p = some written) : Escapes p written := by
  have hcode : ∀ {n : Nat}, p.val == n → p = .ofNat n := by
    intro n hn
    rw [← beq_iff_eq.1 hn, CodePoint.ofNat_val]
  unfold shortEscape? at h
  repeat' split at h
  all_goals cases h
  · next hp => exact ⟨['"'], rfl, fun rest => by rw [beq_iff_eq.1 hp]; rfl⟩
  · next hp => exact ⟨['\\'], rfl, fun rest => by rw [beq_iff_eq.1 hp]; rfl⟩
  · next hp => exact ⟨['n'], rfl, fun rest => by rw [beq_iff_eq.1 hp]; rfl⟩
  · next hp => exact ⟨['r'], rfl, fun rest => by rw [beq_iff_eq.1 hp]; rfl⟩
  · next hp => exact ⟨['t'], rfl, fun rest => by rw [beq_iff_eq.1 hp]; rfl⟩
  · next hp => exact ⟨['b'], rfl, fun rest => by rw [hcode hp]; rfl⟩
  · next hp => exact ⟨['f'], rfl, fun rest => by rw [hcode hp]; rfl⟩

/-- Whether a code point is not split when it is written. -/
def Whole (quoting : Quoting) (p : CodePoint) : Prop := quoting = .ascii → p.val < 0x10000

theorem whole_plain {text : CodeText} : ∀ p ∈ text, plain.Whole p := fun _ _ h => by cases h

theorem escapes_of_escape? {quoting : Quoting} {p : CodePoint} (hwhole : quoting.Whole p)
    {written : List Char} (h : quoting.escape? p = some written) : Escapes p written := by
  unfold escape? at h
  split at h
  · next hshort =>
    cases h
    exact escapes_of_shortEscape? hshort
  · split at h
    · next hneeds =>
      have hp : p.val < 0x10000 := by
        cases quoting with
        | ascii => exact hwhole rfl
        | plain =>
          have hcontrol : p.val < 32 := by simpa [needsEscape] using hneeds
          omega
      cases h
      simpa [numericEscape, CodePoint.units_of_lt hp] using escapes_unitEscape hp
    · cases h

/-- A code point that is written as itself is neither a quote nor a backslash. -/
theorem ne_of_escape?_eq_none {quoting : Quoting} {p : CodePoint} (h : quoting.escape? p = none) :
    p ≠ ofChar '"' ∧ p ≠ ofChar '\\' := by
  constructor
  · rintro rfl
    cases h
  · rintro rfl
    cases h

theorem escapePoint_of_none {quoting : Quoting} {p : CodePoint} (h : quoting.escape? p = none) :
    quoting.escapePoint p = [p] := by
  simp only [escapePoint, h]

theorem escapePoint_of_some {quoting : Quoting} {p : CodePoint} {written : List Char}
    (h : quoting.escape? p = some written) : quoting.escapePoint p = written.map ofChar := by
  simp only [escapePoint, h]

/-- Nothing inside a quoted text starts with the closing quote. -/
theorem escapePoint_append_ne {quoting : Quoting} {p : CodePoint} (hp : quoting.Whole p)
    (rest others : CodeText) : quoting.escapePoint p ++ rest ≠ ofChar '"' :: others := by
  intro h
  cases hescape : quoting.escape? p with
  | none =>
    rw [escapePoint_of_none hescape] at h
    exact (ne_of_escape?_eq_none hescape).1 (List.head_eq_of_cons_eq h)
  | some written =>
    obtain ⟨body, rfl, -⟩ := escapes_of_escape? hp hescape
    rw [escapePoint_of_some hescape] at h
    cases CodePoint.ofChar_inj.1 (List.head_eq_of_cons_eq h)

/-- It can be told where a code point ends and which one it is. -/
theorem escapePoint_append_inj {quoting : Quoting} {p q : CodePoint} (hp : quoting.Whole p)
    (hq : quoting.Whole q) {rest others : CodeText}
    (h : quoting.escapePoint p ++ rest = quoting.escapePoint q ++ others) :
    p = q ∧ rest = others := by
  have hpq : p = q := by
    cases hfirst : quoting.escape? p with
    | none =>
      cases hsecond : quoting.escape? q with
      | none =>
        rw [escapePoint_of_none hfirst, escapePoint_of_none hsecond] at h
        exact List.head_eq_of_cons_eq h
      | some written =>
        obtain ⟨body, rfl, -⟩ := escapes_of_escape? hq hsecond
        rw [escapePoint_of_none hfirst, escapePoint_of_some hsecond] at h
        exact absurd (List.head_eq_of_cons_eq h) (ne_of_escape?_eq_none hfirst).2
    | some written =>
      obtain ⟨body, rfl, hread⟩ := escapes_of_escape? hp hfirst
      cases hsecond : quoting.escape? q with
      | none =>
        rw [escapePoint_of_some hfirst, escapePoint_of_none hsecond] at h
        exact absurd (List.head_eq_of_cons_eq h).symm (ne_of_escape?_eq_none hsecond).2
      | some other =>
        obtain ⟨more, rfl, hread'⟩ := escapes_of_escape? hq hsecond
        rw [escapePoint_of_some hfirst, escapePoint_of_some hsecond] at h
        have hbodies : body.map ofChar ++ rest = more.map ofChar ++ others :=
          List.tail_eq_of_cons_eq h
        have hchars := congrArg (List.map CodePoint.toChar) hbodies
        simp only [List.map_append, List.map_map, Function.comp_def, CodePoint.toChar_ofChar,
          List.map_id'] at hchars
        have hsame := hread (rest.map CodePoint.toChar)
        rw [hchars, hread'] at hsame
        exact (Option.some.inj hsame).symm
  subst hpq
  exact ⟨rfl, List.append_cancel_left h⟩

/-! ### Texts -/

/-- A quoted text ends at its closing quote, and no two texts are quoted alike whose code points are
written in one piece. -/
theorem quotePoints_append_inj {quoting : Quoting} {first second : CodeText}
    (hfirst : ∀ p ∈ first, quoting.Whole p) (hsecond : ∀ p ∈ second, quoting.Whole p)
    {rest others : CodeText}
    (h : quoting.quotePoints first ++ rest = quoting.quotePoints second ++ others) :
    first = second ∧ rest = others := by
  simp only [quotePoints, List.cons_append, List.append_assoc, List.nil_append, List.cons.injEq,
    true_and] at h
  induction first generalizing second with
  | nil =>
    cases second with
    | nil => exact ⟨rfl, List.tail_eq_of_cons_eq h⟩
    | cons q second =>
      rw [List.flatMap_cons, List.append_assoc] at h
      exact absurd h.symm (escapePoint_append_ne (hsecond q List.mem_cons_self) _ _)
  | cons p first ih =>
    obtain ⟨hp, hfirst'⟩ := List.forall_mem_cons.1 hfirst
    rw [List.flatMap_cons, List.append_assoc] at h
    cases second with
    | nil => exact absurd h (escapePoint_append_ne hp _ _)
    | cons q second =>
      obtain ⟨hq, hsecond'⟩ := List.forall_mem_cons.1 hsecond
      rw [List.flatMap_cons, List.append_assoc] at h
      obtain ⟨rfl, htail⟩ := escapePoint_append_inj hp hq h
      obtain ⟨rfl, hafter⟩ := ih hfirst' hsecond' htail
      exact ⟨rfl, hafter⟩

theorem escapePoint_ascii {p : CodePoint} (h : 126 < p.val) :
    ascii.escapePoint p = (numericEscape p).map ofChar := by
  have hchar : ∀ {c : Char}, c.toNat ≤ 126 → (p == ofChar c) = false := by
    intro c hc
    rw [beq_eq_false_iff_ne]
    rintro rfl
    rw [CodePoint.val_ofChar] at h
    omega
  have hshort : shortEscape? p = none := by
    rw [shortEscape?, hchar (by decide), hchar (by decide), hchar (by decide), hchar (by decide),
      hchar (by decide), beq_false_of_ne (by omega), beq_false_of_ne (by omega)]
    rfl
  exact escapePoint_of_some (by simp [escape?, hshort, needsEscape, h])

/-- In ASCII a code point is written like its units. -/
theorem flatMap_escapePoint_units (p : CodePoint) :
    p.units.flatMap ascii.escapePoint = ascii.escapePoint p := by
  by_cases hp : p.val < 0x10000
  · rw [CodePoint.units_of_lt hp, List.flatMap_singleton]
  · obtain ⟨high, low, hunits, hhigh, hlow, -⟩ := CodePoint.exists_units (Nat.le_of_not_lt hp)
    have hhigh := CodePoint.val_of_isHigh hhigh
    have hlow := CodePoint.val_of_isLow hlow
    rw [escapePoint_ascii (by omega), numericEscape, hunits]
    simp [escapePoint_ascii (show 126 < high.val by omega),
      escapePoint_ascii (show 126 < low.val by omega), numericEscape,
      CodePoint.units_of_lt (show high.val < 0x10000 by omega),
      CodePoint.units_of_lt (show low.val < 0x10000 by omega)]

theorem quotePoints_split (text : CodeText) :
    ascii.quotePoints text.split = ascii.quotePoints text := by
  simp only [quotePoints, CodeText.split, List.flatMap_assoc, flatMap_escapePoint_units]

theorem quotePoints_ofString (quoting : Quoting) (text : String) :
    quoting.quotePoints (.ofString text) = .ofString (quoting.quote text) := by
  have hescape : ∀ c : Char, quoting.escapePoint (ofChar c) = (quoting.escape c).map ofChar := by
    intro c
    cases h : quoting.escape? (ofChar c) with
    | none => simp [escapePoint_of_none h, escape, h]
    | some written => simp [escapePoint_of_some h, escape, h]
  simp [quotePoints, CodeText.ofString, quote, List.flatMap_map, List.map_flatMap, hescape]

end Quoting

end OperationSamples
