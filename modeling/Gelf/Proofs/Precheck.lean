import Gelf.Proofs.Conversion
import Gelf.Proofs.Strict
import Mathlib.Data.Bool.AllAny

/-!
# Gelf.Proofs.Precheck

Where the quick look at a percent format agrees with the format itself.

* `suits_of_convert`: a value that could be converted suits its conversion.
* `scanDirective_eq`: the look sees a conversion as the format does, unless its point is bare or its
  key has brackets.
* `formatChecked_of_format`: so a format that succeeds passes the look, where no such conversion
  is in the way. `valid_formats_suppressed`: else it may not.
-/

namespace Gelf

open Gelf.Text

namespace Printf

open Script

/-! ## Values that can be converted -/

theorem index_offers {v : Value} {n : Int} (h : v.index = .ok n) : v.offers .index = true := by
  cases v with
  | bool b => rfl
  | int n => rfl
  | object o =>
    simp only [Value.index] at h
    split at h
    · rename_i m hm
      simp [Value.offers, Object.method?, hm]
    · cases h
  | _ => cases h

theorem asReal_offers {v : Value} {x : Float} (h : v.asReal = .ok x) :
    [NumberMethod.index, .int, .float].any v.offers = true := by
  cases v with
  | bool b => rfl
  | int n => rfl
  | float x => rfl
  | object o =>
    simp only [Value.asReal, Value.objectToFloat] at h
    split at h
    · rename_i m hm
      simp [Value.offers, Object.method?, hm]
    · rename_i m _ hm
      simp [Value.offers, Object.method?, hm]
    · cases h
  | _ => cases h

theorem decimalArgument_offers {c : Char} {v : Value} {n : Int}
    (h : decimalArgument c v = .ok n) :
    [NumberMethod.index, .int, .float].any v.offers = true := by
  unfold decimalArgument at h
  split at h
  · assumption
  · cases h

theorem wholeArgument_offers {c : Char} {v : Value} {n : Int} (h : wholeArgument c v = .ok n) :
    v.offers .index = true := by
  unfold wholeArgument at h
  split at h
  · rename_i hn
    exact index_offers hn
  · cases h

theorem suits_number {v : Value} {c : Char} (hc : c ∈ "diueEfFgG".toList)
    (h : [NumberMethod.index, .int, .float].any v.offers = true) : suits c v = true := by
  have hall : ∀ c ∈ "diueEfFgG".toList, ['r', 's', 'a'].contains c = false ∧ (c == 'c') = false ∧
      ['o', 'x', 'X'].contains c = false := List.all_iff_forall_prop.mp (by decide)
  obtain ⟨h₁, h₂, h₃⟩ := hall c hc
  unfold suits
  rw [h₁, h₂, if_neg Bool.false_ne_true, if_neg Bool.false_ne_true]
  split
  · cases h
  · cases h
  · rw [h₃, if_neg Bool.false_ne_true]
    exact h

theorem suits_whole {v : Value} {c : Char} (hc : c ∈ ['o', 'x', 'X'])
    (h : v.offers .index = true) : suits c v = true := by
  have hall : ∀ c ∈ ['o', 'x', 'X'], ['r', 's', 'a'].contains c = false ∧ (c == 'c') = false ∧
      ['o', 'x', 'X'].contains c = true := List.all_iff_forall_prop.mp (by decide)
  obtain ⟨h₁, h₂, h₃⟩ := hall c hc
  unfold suits
  rw [h₁, h₂, if_neg Bool.false_ne_true, if_neg Bool.false_ne_true]
  split
  · cases h
  · cases h
  · rw [h₃, if_pos rfl]
    exact h

theorem suits_char {v : Value} {c : Char} (h : charArgument v = .ok c) : suits 'c' v = true := by
  unfold suits
  rw [if_neg (by decide), if_pos (by decide)]
  unfold charArgument at h
  cases v with
  | str s =>
    dsimp only at h ⊢
    split at h
    · rename_i d hd
      rw [← String.length_toList, hd]
      rfl
    · cases h
  | _ =>
    dsimp only at h ⊢
    split at h
    · cases h
    · rename_i n hn
      exact index_offers hn

section

variable {σ : Type} {answer : (q : Request) → σ → Except Fault q.Answer × σ} {w w' : σ}

/-- One case for each group of letters; no other letter can be converted. -/
theorem suits_of_convert {spec : Spec} {index : Nat} {v : Value} {p : Piece}
    (h : (spec.convert index v).run answer w = (.ok p, w')) :
    conversionLetters.contains spec.conversion = true ∧ spec.conversion ≠ '%' ∧
      suits spec.conversion v = true := by
  unfold Spec.convert at h
  dsimp only at h
  generalize hc : spec.conversion = c at h ⊢
  split at h
  · exact ⟨by decide, by decide, rfl⟩
  · exact ⟨by decide, by decide, rfl⟩
  · exact ⟨by decide, by decide, rfl⟩
  · obtain ⟨d, _, hd, -⟩ := run_bind_ok h
    exact ⟨by decide, by decide, suits_char (run_ofExcept_ok hd).1⟩
  case h_17 => cases h
  all_goals obtain ⟨x, _, hx, -⟩ := run_bind_ok h
  all_goals have hx := (run_ofExcept_ok hx).1
  case h_5 | h_6 | h_7 =>
    exact ⟨by decide, by decide, suits_number (by decide) (decimalArgument_offers hx)⟩
  case h_8 | h_9 | h_10 =>
    exact ⟨by decide, by decide, suits_whole (by decide) (wholeArgument_offers hx)⟩
  all_goals exact ⟨by decide, by decide, suits_number (by decide) (asReal_offers hx)⟩

end

/-! ## What the look sees of a conversion -/

/-- No digit of any script stands first. -/
def Stops : List Char → Prop
  | [] => True
  | c :: _ => isDecimal c = false

theorem isDecimal_of_ascii {c : Char} (h : isAsciiDigit c = true) : isDecimal c = true := by
  rw [isAsciiDigit, Bool.and_eq_true, decide_eq_true_eq, decide_eq_true_eq] at h
  have h₁ : 48 ≤ c.toNat := h.1
  have h₂ : c.toNat ≤ 57 := h.2
  rw [isDecimal, decimalValue?, zeros, valueFrom, if_neg (by omega), if_pos (by omega)]
  rfl

theorem takeWhile_isDecimal {text : List Char} (h : Stops (text.dropWhile isAsciiDigit)) :
    text.takeWhile isDecimal = text.takeWhile isAsciiDigit := by
  induction text with
  | nil => rfl
  | cons c rest ih =>
    rw [List.takeWhile_cons, List.takeWhile_cons]
    rw [List.dropWhile_cons] at h
    by_cases hc : isAsciiDigit c = true
    · rw [if_pos hc] at h
      rw [if_pos hc, if_pos (isDecimal_of_ascii hc), ih h]
    · rw [if_neg hc] at h
      have hd : isDecimal c = false := h
      rw [if_neg hc, hd, if_neg Bool.false_ne_true]

theorem drop_takeWhile (p : Char → Bool) (text : List Char) :
    text.drop (text.takeWhile p).length = text.dropWhile p := by
  calc text.drop (text.takeWhile p).length
      = (text.takeWhile p ++ text.dropWhile p).drop (text.takeWhile p).length := by
        rw [List.takeWhile_append_dropWhile]
    _ = text.dropWhile p := List.drop_left

theorem scanNumber_other {text : List Char} (h : ∀ rest, text ≠ '*' :: rest) :
    scanNumber text = if (text.takeWhile isDecimal).isEmpty then none
      else some (false, text.drop (text.takeWhile isDecimal).length) := by
  unfold scanNumber
  split
  · exact absurd rfl (h _)
  · cases text.takeWhile isDecimal <;> rfl

theorem scanNumber_eq {text : List Char} (h : Stops (skipNumber text).2) :
    scanNumber text = (skipNumber text).1.map fun star => (star, (skipNumber text).2) := by
  unfold scanNumber
  split
  · rfl
  · rename_i hs
    rw [skipNumber_snd fun rest hr => hs rest hr] at h ⊢
    rw [takeWhile_isDecimal h]
    have hone : (skipNumber text).1 = if startsWithDigit text then some false else none := by
      unfold skipNumber
      split
      · exact absurd rfl (hs _)
      · split <;> rfl
    rw [hone, ← drop_takeWhile]
    cases text with
    | nil => rfl
    | cons c rest =>
      show _ = Option.map _ (if isAsciiDigit c then some false else none)
      rw [List.takeWhile_cons]
      cases isAsciiDigit c <;> rfl

theorem scanNumber_getD {text : List Char} (h : Stops (skipNumber text).2) :
    (scanNumber text).getD (false, text) =
      ((skipNumber text).1 == some true, (skipNumber text).2) := by
  have hnone : (skipNumber text).1 = none → (skipNumber text).2 = text := by
    unfold skipNumber
    split
    · nofun
    · split
      · nofun
      · exact fun _ => rfl
  rw [scanNumber_eq h]
  cases hn : (skipNumber text).1 with
  | none => exact Prod.ext rfl (hnone hn).symm
  | some star => cases star <;> rfl

theorem scanPrecision_point (rest : List Char) : scanPrecision ('.' :: rest) =
    match scanNumber rest with
    | some (star, after) => (star, after)
    | none => (false, '.' :: rest) := rfl

theorem scanPrecision_other {text : List Char} (h : ∀ rest, text ≠ '.' :: rest) :
    scanPrecision text = (false, text) := by
  unfold scanPrecision
  split
  · exact absurd rfl (h _)
  · rfl

theorem scanPrecision_eq {text : List Char} (h : Stops (skipPoint text).2.2) :
    scanPrecision text = if (skipPoint text).2.1 then (false, text)
      else ((skipPoint text).1, (skipPoint text).2.2) := by
  by_cases hp : ∃ rest, text = '.' :: rest
  · obtain ⟨rest, rfl⟩ := hp
    have hn : scanNumber rest = _ := scanNumber_eq h
    show _ = if (skipNumber rest).1.isNone then (false, '.' :: rest)
      else ((skipNumber rest).1 == some true, (skipNumber rest).2)
    rw [scanPrecision_point, hn]
    cases (skipNumber rest).1 with
    | none => rfl
    | some star => cases star <;> rfl
  · rw [not_exists] at hp
    rw [scanPrecision_other hp, skipPoint_other hp]
    rfl

/-- A bare point is still there where the look comes to it, and it is no letter. -/
theorem bare_point {text : List Char} (h : (skipPoint text).2.1 = true) :
    ∃ rest, text = '.' :: rest := by
  unfold skipPoint at h
  split at h
  · exact ⟨_, rfl⟩
  · cases h

/-- A bracket closes a key at once if none was opened inside. -/
theorem splitKey_plain {text key after : List Char} (h : splitKey 1 text = some (key, after))
    (hk : '(' ∉ key) : text = key ++ ')' :: after ∧ ')' ∉ key := by
  induction text generalizing key with
  | nil => cases h
  | cons c rest ih =>
    rw [splitKey] at h
    by_cases hc : c = ')'
    · subst hc
      cases h
      exact ⟨rfl, List.not_mem_nil⟩
    · have hclose : (c == ')') = false := beq_false_of_ne hc
      by_cases ho : c = '('
      · subst ho
        obtain ⟨⟨k, t⟩, -, he⟩ := Option.map_eq_some_iff.mp h
        cases he
        exact absurd List.mem_cons_self hk
      · have hopen : (c == '(') = false := beq_false_of_ne ho
        rw [hclose, hopen] at h
        obtain ⟨⟨k, t⟩, hs, he⟩ := Option.map_eq_some_iff.mp h
        cases he
        rw [List.mem_cons, not_or] at hk
        obtain ⟨rfl, hn⟩ := ih hs hk.2
        refine ⟨rfl, ?_⟩
        rw [List.mem_cons, not_or]
        exact ⟨Ne.symm hc, hn⟩

theorem scanKey_eq {text rest : List Char} {key : Option (List Char)}
    (h : skipKey text = some (key, rest)) (hk : ∀ k, key = some k → '(' ∉ k) :
    scanKey text = (key.map String.ofList, rest) := by
  unfold skipKey at h
  split at h
  · rename_i inner
    obtain ⟨⟨k, after⟩, hs, he⟩ := Option.map_eq_some_iff.mp h
    cases he
    obtain ⟨rfl, hclosed⟩ := splitKey_plain hs (hk k rfl)
    have htake : (k ++ ')' :: rest).takeWhile (· != ')') = k := by
      rw [List.takeWhile_append_of_pos]
      · simp
      · intro c hc
        simp only [bne_iff_ne, ne_eq]
        rintro rfl
        exact hclosed hc
    rw [scanKey, htake, List.drop_left]
    rfl
  · rename_i hp
    cases h
    unfold scanKey
    split
    · exact absurd rfl (hp _)
    · rfl

theorem letter_stops {c : Char} (h : conversionLetters.contains c = true) :
    isDecimal c = false ∧ c ≠ '.' := by
  have hall : ∀ c ∈ conversionLetters, isDecimal c = false ∧ c ≠ '.' :=
    List.all_iff_forall_prop.mp (by decide)
  exact hall c (List.contains_iff_mem.mp h)

theorem stops_skipLength {text rest : List Char} {c : Char} (h : skipLength text = c :: rest)
    (hc : conversionLetters.contains c = true) : Stops text ∧ ∀ more, text ≠ '.' :: more := by
  obtain ⟨hd, hp⟩ := letter_stops hc
  unfold skipLength at h
  split at h
  · exact ⟨show isDecimal 'h' = false by decide, nofun⟩
  · exact ⟨show isDecimal 'l' = false by decide, nofun⟩
  · exact ⟨show isDecimal 'L' = false by decide, nofun⟩
  · subst h
    refine ⟨hd, fun more he => ?_⟩
    cases he
    exact hp rfl

/-- The look sees a conversion as the format does, unless its point is bare: then it sees none. -/
theorem scanDirective_eq {text rest : List Char} {c : Conversion}
    (h : Conversion.read text = some (c, rest)) (hl : conversionLetters.contains c.letter = true)
    (hk : ∀ k, c.key = some k → '(' ∉ k) : scanDirective text =
      if c.bare then none else some (⟨c.key.map String.ofList, c.star, c.letter⟩, rest) := by
  obtain ⟨⟨key, t₁⟩, hkey, hbody⟩ := Option.bind_eq_some_iff.mp h
  unfold Conversion.readBody at hbody
  dsimp only at hbody
  generalize ht₂ : t₁.dropWhile flagLetters.contains = t₂ at hbody
  split at hbody
  · rename_i letter after hlen
    cases hbody
    obtain ⟨hstop, hnopoint⟩ := stops_skipLength hlen hl
    have hprecision := scanPrecision_eq hstop
    -- after the width comes a point or what is left after it
    have hmid : Stops (skipNumber t₂).2 := by
      generalize (skipNumber t₂).2 = t₃ at hstop
      unfold skipPoint at hstop
      split at hstop
      · show isDecimal '.' = false
        decide
      · exact hstop
    unfold scanDirective
    rw [scanKey_eq hkey hk]
    dsimp only
    rw [ht₂, scanNumber_getD hmid]
    dsimp only
    rw [hprecision]
    cases hb : (skipPoint (skipNumber t₂).2).2.1 with
    | true =>
      obtain ⟨more, hpoint⟩ := bare_point hb
      rw [if_pos rfl, if_pos rfl, hpoint]
      rfl
    | false =>
      rw [if_neg Bool.false_ne_true, if_neg Bool.false_ne_true, hlen]
      dsimp only
      rw [if_pos hl]
  · cases hbody

/-! ## Texts between conversions -/

theorem directives_other {c : Char} (hc : c ≠ '%') (rest : List Char) :
    directives (c :: rest) = directives rest := by
  rw [directives, if_neg]
  simpa using hc

theorem directives_none {text : List Char} (h : scanDirective text = none) :
    directives ('%' :: text) = directives text := by
  rw [directives, if_pos (beq_self_eq_true '%')]
  split
  · rename_i hs
    cases h.symm.trans hs
  · rfl

theorem directives_some {text after : List Char} {d : Directive}
    (h : scanDirective text = some (d, after)) :
    directives ('%' :: text) = d :: directives after := by
  rw [directives, if_pos (beq_self_eq_true '%')]
  split
  · rename_i hs
    cases h.symm.trans hs
    rfl
  · rename_i hs
    cases h.symm.trans hs

theorem directives_append {before : List Char} (h : '%' ∉ before) (rest : List Char) :
    directives (before ++ rest) = directives rest := by
  induction before with
  | nil => rfl
  | cons c before ih =>
    rw [List.mem_cons, not_or] at h
    rw [List.cons_append, directives_other (Ne.symm h.1), ih h.2]

theorem Passed.directives_eq {text rest : List Char} (h : Passed text rest) :
    directives text = directives rest := by
  obtain ⟨before, hb, rfl⟩ := h
  exact directives_append hb rest

/-! ## Keys between percent signs -/

theorem dropWhile_append_of_neg {p : Char → Bool} {b : Char} (hb : p b = false)
    (text tail : List Char) : (text ++ b :: tail).dropWhile p = text.dropWhile p ++ b :: tail := by
  induction text with
  | nil => rw [List.nil_append, List.dropWhile_cons, hb, if_neg Bool.false_ne_true]; rfl
  | cons c rest ih =>
    rw [List.cons_append, List.dropWhile_cons, List.dropWhile_cons]
    split
    · exact ih
    · rfl

theorem takeWhile_append_of_neg {p : Char → Bool} {b : Char} (hb : p b = false)
    (text tail : List Char) : (text ++ b :: tail).takeWhile p = text.takeWhile p := by
  induction text with
  | nil => rw [List.nil_append, List.takeWhile_cons, hb, if_neg Bool.false_ne_true]; rfl
  | cons c rest ih =>
    rw [List.cons_append, List.takeWhile_cons, List.takeWhile_cons, ih]

theorem scanKey_none {text : List Char} (h : ∀ rest, text ≠ '(' :: rest) :
    scanKey text = (none, text) := by
  unfold scanKey
  split
  · exact absurd rfl (h _)
  · rfl

theorem scanKey_plain {text : List Char} (h : '(' ∉ text) : scanKey text = (none, text) := by
  apply scanKey_none
  rintro rest rfl
  exact h List.mem_cons_self

section

variable (text tail : List Char)

theorem scanNumber_closed : scanNumber (text ++ ')' :: tail) =
    (scanNumber text).map fun (star, after) => (star, after ++ ')' :: tail) := by
  cases text with
  | nil => rfl
  | cons c rest =>
    by_cases hc : c = '*'
    · subst hc
      rfl
    · have hplain : ∀ text rest, c :: text ≠ '*' :: rest := fun _ _ h => hc (List.cons.inj h).1
      have htake := takeWhile_append_of_neg (p := isDecimal) (b := ')') (by decide) (c :: rest) tail
      rw [List.cons_append] at htake ⊢
      rw [scanNumber_other (hplain _), scanNumber_other (hplain _), htake]
      have hle := (List.takeWhile_sublist (p := isDecimal) (l := c :: rest)).length_le
      generalize (c :: rest).takeWhile isDecimal = digits at hle ⊢
      cases digits with
      | nil => rfl
      | cons d ds =>
        rw [← List.cons_append, List.drop_append_of_le_length hle]
        rfl

theorem scanPrecision_closed : scanPrecision (text ++ ')' :: tail) =
    ((scanPrecision text).1, (scanPrecision text).2 ++ ')' :: tail) := by
  cases text with
  | nil => rfl
  | cons c rest =>
    by_cases hc : c = '.'
    · subst hc
      rw [List.cons_append, scanPrecision_point, scanPrecision_point, scanNumber_closed]
      cases scanNumber rest <;> rfl
    · have hplain : ∀ text, scanPrecision (c :: text) = (false, c :: text) := fun _ =>
        scanPrecision_other fun _ h => hc (List.cons.inj h).1
      rw [List.cons_append, hplain, hplain]
      rfl

theorem skipLength_closed : skipLength (text ++ ')' :: tail) = skipLength text ++ ')' :: tail := by
  cases text with
  | nil => rfl
  | cons c rest =>
    by_cases hc : c = 'h' ∨ c = 'l' ∨ c = 'L'
    · rcases hc with rfl | rfl | rfl <;> rfl
    · have hplain : ∀ text, skipLength (c :: text) = c :: text := by
        intro text
        unfold skipLength
        split
        all_goals
          first
          | rfl
          | (rename_i h; cases h; exact absurd (by simp) hc)
      rw [List.cons_append, hplain, hplain]
      rfl

/-- Before the bracket that closes a key, the look stops. -/
theorem scanDirective_closed (hk : '(' ∉ text) : scanDirective (text ++ ')' :: tail) =
    (scanDirective text).map fun (d, after) => (d, after ++ ')' :: tail) := by
  have hopen : ∀ rest, text ++ ')' :: tail ≠ '(' :: rest := by
    intro rest h
    cases text with
    | nil => cases h
    | cons c more =>
      cases h
      exact hk List.mem_cons_self
  unfold scanDirective
  rw [scanKey_none hopen, scanKey_plain hk]
  dsimp only
  rw [dropWhile_append_of_neg (by decide)]
  generalize text.dropWhile flagLetters.contains = t₂
  have hnumber : (scanNumber (t₂ ++ ')' :: tail)).getD (false, t₂ ++ ')' :: tail) =
      (((scanNumber t₂).getD (false, t₂)).1, ((scanNumber t₂).getD (false, t₂)).2 ++ ')' :: tail) := by
    rw [scanNumber_closed]
    cases scanNumber t₂ <;> rfl
  rw [hnumber]
  generalize (scanNumber t₂).getD (false, t₂) = wide
  dsimp only
  rw [scanPrecision_closed]
  generalize scanPrecision wide.2 = precise
  dsimp only
  rw [skipLength_closed]
  cases skipLength precise.2 with
  | nil => rfl
  | cons c rest =>
    show (if conversionLetters.contains c then _ else _) = Option.map _ (if _ then _ else _)
    split <;> rfl

end

theorem scanNumber_suffix (text : List Char) :
    ((scanNumber text).getD (false, text)).2 <:+ text := by
  unfold scanNumber
  split
  · exact List.suffix_cons _ _
  · split
    · exact List.suffix_refl _
    · exact List.drop_suffix _ _

theorem scanPrecision_suffix (text : List Char) : (scanPrecision text).2 <:+ text := by
  unfold scanPrecision
  split
  · rename_i rest
    have hs := scanNumber_suffix rest
    cases hn : scanNumber rest with
    | none => exact List.suffix_refl _
    | some number =>
      rw [hn] at hs
      exact hs.trans (List.suffix_cons _ _)
  · exact List.suffix_refl _

theorem scanDirective_keyless {text after : List Char} {d : Directive} (hk : '(' ∉ text)
    (h : scanDirective text = some (d, after)) : d.key = none ∧ after <:+ text := by
  unfold scanDirective at h
  rw [scanKey_plain hk] at h
  dsimp only at h
  have h₂ := List.dropWhile_suffix flagLetters.contains (l := text)
  generalize text.dropWhile flagLetters.contains = t₂ at h h₂
  have h₃ := scanNumber_suffix t₂
  generalize (scanNumber t₂).getD (false, t₂) = wide at h h₃
  have h₄ := scanPrecision_suffix wide.2
  generalize scanPrecision wide.2 = precise at h h₄
  have h₅ := (Passed.skipLength precise.2).suffix
  split at h
  · rename_i hs
    split at h
    · cases h
      rw [hs] at h₅
      exact ⟨rfl, (List.suffix_cons _ _).trans (h₅.trans (h₄.trans (h₃.trans h₂)))⟩
    · cases h
  · cases h

/-! ## Arguments that the look lets pass -/

theorem accepts_keyless {es : Entries} {used : Nat} {d : Directive} {ds : List Directive}
    (hd : d.key = none) (h : acceptsFrom (.dict es) used ds = .ok true) :
    acceptsFrom (.dict es) used (d :: ds) = .ok true := by
  rw [acceptsFrom.eq_def]
  dsimp only
  rw [hd]
  split
  · exact h
  · split
    · rfl
    · exact h

/-- What the look sees inside a key it sees without a key, and a mapping is not asked for that. -/
theorem accepts_key {es : Entries} {used : Nat} {key tail : List Char} (hk : '(' ∉ key)
    (h : acceptsFrom (.dict es) used (directives (')' :: tail)) = .ok true) :
    acceptsFrom (.dict es) used (directives (key ++ ')' :: tail)) = .ok true := by
  induction hn : key.length using Nat.strongRecOn generalizing key with
  | _ n ih =>
    cases key with
    | nil => exact h
    | cons c rest =>
      rw [List.mem_cons, not_or] at hk
      have hrest := ih rest.length (by rw [← hn]; exact Nat.lt_succ_self _) hk.2 rfl
      rw [List.cons_append]
      by_cases hc : c = '%'
      · subst hc
        have hclosed := scanDirective_closed rest tail hk.2
        cases hs : scanDirective rest with
        | none =>
          rw [hs] at hclosed
          rw [directives_none hclosed]
          exact hrest
        | some found =>
          obtain ⟨d, after⟩ := found
          rw [hs] at hclosed
          obtain ⟨hd, hsuffix⟩ := scanDirective_keyless hk.2 hs
          rw [directives_some hclosed]
          refine accepts_keyless hd (ih after.length ?_ (fun hm => hk.2 (hsuffix.subset hm)) rfl)
          have := scanDirective_length hs
          rw [← hn, List.length_cons]
          omega
      · rw [directives_other hc]
        exact hrest

/-- Can the look be trusted with the conversion? Among the items of a tuple a bare point shifts all
that follows; in a mapping a bracket inside a key leads to another key. -/
def Legible (args : Value) (c : Conversion) : Prop :=
  match args with
  | .tuple _ => c.bare = false
  | .dict _ => ∀ key, c.key = some key → '(' ∉ key
  | _ => False

/-- The arguments that are left when so many were used. -/
inductive Backed : Value → Nat → Supply → Prop where
  | items (xs : List Value) (used : Nat) : Backed (.tuple xs) used ⟨xs.drop used, none⟩
  | entries (es : Entries) (used : Nat) (items : List Value) :
    Backed (.dict es) used ⟨items, some (.dict es)⟩

section

variable {σ : Type} {answer : (q : Request) → σ → Except Fault q.Answer × σ}

theorem accepts_star {args : Value} {used : Nat} {d : Directive} {ds : List Directive}
    (hp : d.conversion ≠ '%') (hs : d.star = true) :
    acceptsFrom args used (d :: ds) = .ok true := by
  rw [acceptsFrom.eq_def]
  dsimp only
  rw [if_neg (by simpa using hp), if_pos hs]

theorem accepts_percent {args : Value} {used : Nat} {d : Directive} {ds : List Directive}
    (hp : d.conversion = '%') : acceptsFrom args used (d :: ds) = acceptsFrom args used ds := by
  rw [acceptsFrom.eq_def]
  dsimp only
  rw [if_pos (by simpa using hp)]

theorem accepts_item {xs rest : List Value} {used : Nat} {c : Char} {ds : List Directive} {v : Value}
    (hp : c ≠ '%') (hv : xs.drop used = v :: rest) (hs : suits c v = true)
    (h : acceptsFrom (.tuple xs) (used + 1) ds = .ok true) :
    acceptsFrom (.tuple xs) used (⟨none, false, c⟩ :: ds) = .ok true := by
  have hget : (Value.tuple xs).items[used]? = some v := by
    show xs[used]? = some v
    rw [← List.head?_drop, hv]
    rfl
  rw [acceptsFrom.eq_def]
  dsimp only
  rw [if_neg (by simpa using hp), if_neg Bool.false_ne_true, hget]
  show (if suits c v then acceptsFrom (.tuple xs) (used + 1) ds else .ok false) = _
  rw [if_pos hs, h]

theorem accepts_entry {es : Entries} {used : Nat} {c : Char} {key : String} {ds : List Directive}
    {v : Value} (hp : c ≠ '%') (hv : Entries.get? es (.str key) = some v) (hs : suits c v = true)
    (h : acceptsFrom (.dict es) used ds = .ok true) :
    acceptsFrom (.dict es) used (⟨some key, false, c⟩ :: ds) = .ok true := by
  rw [acceptsFrom.eq_def]
  dsimp only
  rw [if_neg (by simpa using hp), if_neg Bool.false_ne_true, hv]
  show (if suits c v then acceptsFrom (.dict es) used ds else .ok false) = _
  rw [if_pos hs, h]

theorem lookUp_entry {es : Entries} {key : String} {v : Value}
    (h : lookUp (.dict es) key = .ok v) : Entries.get? es (.str key) = some v := by
  unfold lookUp at h
  dsimp only at h
  split at h
  · rename_i hv
    cases h
    exact hv
  · cases h

theorem next_ok {s s' : Supply} {v : Value} (h : s.next = .ok (v, s')) :
    s.items = v :: s'.items ∧ s'.mapping = s.mapping := by
  obtain ⟨items, m⟩ := s
  cases items with
  | nil => cases h
  | cons u rest =>
    cases h
    exact ⟨rfl, rfl⟩

theorem next_items {xs : List Value} {used : Nat} {v : Value} {s : Supply}
    (h : Supply.next ⟨xs.drop used, none⟩ = .ok (v, s)) :
    xs.drop used = v :: xs.drop (used + 1) ∧ Backed (.tuple xs) (used + 1) s := by
  obtain ⟨items, m⟩ := s
  obtain ⟨hitems, hm⟩ := next_ok h
  have htail : items = xs.drop (used + 1) := by
    rw [← List.tail_drop]
    exact (congrArg List.tail hitems).symm
  cases hm
  subst htail
  exact ⟨hitems, .items xs (used + 1)⟩

/-- In a mapping the look may miss a conversion, but it finds nothing in its place to complain about. -/
theorem accepts_bare {es : Entries} {used : Nat} {text rest : List Char} {c : Conversion}
    (hr : Conversion.read text = some (c, rest)) (hp : c.letter ≠ '%')
    (hk : ∀ key, c.key = some key → '(' ∉ key)
    (h : acceptsFrom (.dict es) used (directives rest) = .ok true) :
    acceptsFrom (.dict es) used (directives text) = .ok true := by
  obtain ⟨⟨key, t₁⟩, hkey, hbody⟩ := Option.bind_eq_some_iff.mp hr
  obtain ⟨hpassed, hsame⟩ := readBody_passed hbody
  rw [← (hpassed.trans (.cons hp rest)).directives_eq] at h
  unfold skipKey at hkey
  split at hkey
  · obtain ⟨⟨k, after⟩, hs, he⟩ := Option.map_eq_some_iff.mp hkey
    cases he
    have hplain := hk k hsame
    obtain ⟨rfl, -⟩ := splitKey_plain hs hplain
    rw [directives_other (by decide)]
    refine accepts_key hplain ?_
    rw [directives_other (by decide)]
    exact h
  · cases hkey
    exact h

/-- By induction along the format: a conversion that succeeded suited the argument that it took, and
the look took the same one. -/
theorem acceptsFrom_of_formatFrom {args : Value} {size used : Nat} {s : Supply} {text out : List Char}
    {w w' : σ} (hs : Backed args used s) (hc : ∀ c ∈ conversions text, Legible args c)
    (h : (formatFrom size s text).run answer w = (.ok out, w')) :
    acceptsFrom args used (directives text) = .ok true := by
  fun_induction formatFrom size s text generalizing used out w w' with
  | case1 s =>
    rw [directives]
    rfl
  | case2 s rest ih =>
    obtain ⟨_, _, hr, -⟩ := run_bind_ok h
    have hd : scanDirective ('%' :: rest) = some (⟨none, false, '%'⟩, rest) := rfl
    rw [directives_some hd, accepts_percent rfl]
    rw [conversions] at hc
    exact ih hs hc hr
  | case3 s text hn f hr => cases h
  | case4 s text hn spec s' rest hr ih =>
    obtain ⟨⟨v, s''⟩, w₁, hnext, h⟩ := run_bind_ok h
    obtain ⟨piece, w₂, hconvert, h⟩ := run_bind_ok h
    obtain ⟨field, w₃, hplace, h⟩ := run_bind_ok h
    obtain ⟨out, w₄, hrest, h⟩ := run_bind_ok h
    have hnext := (run_ofExcept_ok hnext).1
    obtain ⟨c, hread, hletter, hmapping, hsupply⟩ := read_conversion hr
    obtain ⟨hl, hp, hsuits⟩ := suits_of_convert hconvert
    rw [← hletter] at hl hp hsuits
    rw [conversions_some hn hread] at hc
    obtain ⟨hlegible, hc⟩ := List.forall_mem_cons.mp hc
    cases hs with
    | items xs used =>
      have hbare : c.bare = false := hlegible
      rcases hsupply with ⟨hkey, -, hsame⟩ | ⟨_, _, _, _, hm, _⟩
      · have hd := scanDirective_eq hread hl fun key hk => by cases hkey.symm.trans hk
        rw [hbare, if_neg Bool.false_ne_true, hkey] at hd
        rw [directives_some hd]
        cases hstar : c.star with
        | true => exact accepts_star hp rfl
        | false =>
          rw [hsame hstar] at hnext
          obtain ⟨hdrop, hs''⟩ := next_items hnext
          exact accepts_item hp hdrop hsuits (ih s'' hs'' hc hrest)
      · cases hm
    | entries es used items =>
      have hk : ∀ key, c.key = some key → '(' ∉ key := hlegible
      have hd := scanDirective_eq hread hl hk
      have hs'' : Backed (.dict es) used s'' := by
        obtain ⟨-, hm⟩ := next_ok hnext
        obtain ⟨left, m⟩ := s''
        cases hm.trans hmapping
        exact .entries es used left
      have hok := ih s'' hs'' hc hrest
      cases hb : c.bare with
      | true =>
        rw [hb, if_pos rfl] at hd
        rw [directives_none hd]
        exact accepts_bare hread hp hk hok
      | false =>
        rw [hb, if_neg Bool.false_ne_true] at hd
        rw [directives_some hd]
        rcases hsupply with ⟨hkey, -, -⟩ | ⟨key, m, u, hkey, hm, hu, -, hsame⟩
        · rw [hkey]
          exact accepts_keyless rfl hok
        · cases hstar : c.star with
          | true => exact accepts_star hp rfl
          | false =>
            cases hm
            rw [hsame hstar] at hnext
            cases hnext
            rw [hkey]
            exact accepts_entry hp (lookUp_entry hu) hsuits hok
  | case5 s c rest h₁ h₂ ih =>
    obtain ⟨_, _, hr, -⟩ := run_bind_ok h
    have hc' : c ≠ '%' := fun h => h₂ h
    rw [directives_other hc']
    rw [conversions_other hc'] at hc
    exact ih hs hc hr

/-- Among items and in mappings the look always comes to an answer. -/
theorem acceptsFrom_answers {args : Value} (ha : (∃ xs, args = .tuple xs) ∨ ∃ es, args = .dict es)
    (used : Nat) (ds : List Directive) : ∃ b, acceptsFrom args used ds = .ok b := by
  induction ds generalizing used with
  | nil => exact ⟨true, rfl⟩
  | cons d rest ih =>
    have hsuit : ∀ v used', ∃ b, (if suits d.conversion v = true
        then acceptsFrom args used' rest else .ok false) = .ok b := by
      intro v used'
      split
      · exact ih used'
      · exact ⟨false, rfl⟩
    rw [acceptsFrom.eq_def]
    dsimp only
    split
    · exact ih used
    · split
      · exact ⟨true, rfl⟩
      · rcases ha with ⟨xs, rfl⟩ | ⟨es, rfl⟩
        · cases d.key with
          | some key => exact ih used
          | none =>
            dsimp only
            cases (Value.tuple xs).items[used]? with
            | some v => exact hsuit v (used + 1)
            | none => exact ih used
        · cases d.key with
          | none => exact ih used
          | some key =>
            dsimp only
            cases Entries.get? es (.str key) with
            | some v => exact hsuit v used
            | none => exact ih used

/-- A format that succeeds passes the look, and comes to the same text, unless it has a conversion
that the look reads in another way. -/
theorem formatChecked_of_format {text : String} {args : Value} {t : String} {w w' : σ}
    (ha : (∃ xs, args = .tuple xs) ∨ ∃ es, args = .dict es)
    (h : (format text args).run answer w = (.ok t, w')) :
    (accepts text args = .ok true ∧
      (formatChecked text args).run answer w = (.ok (some t), w')) ∨
    (accepts text args = .ok false ∧ ∃ c ∈ conversions text.toList, ¬ Legible args c) := by
  have hchecked : accepts text args = .ok true →
      (formatChecked text args).run answer w = (.ok (some t), w') := by
    intro hok
    unfold formatChecked
    rw [hok]
    exact run_bind_of_ok h _
  obtain ⟨b, hb⟩ : ∃ b, accepts text args = .ok b := acceptsFrom_answers ha 0 _
  cases b with
  | true => exact .inl ⟨hb, hchecked hb⟩
  | false =>
    refine .inr ⟨hb, Classical.byContradiction fun hno => ?_⟩
    have hs : Backed args 0 (.ofArgs args) := by
      rcases ha with ⟨xs, rfl⟩ | ⟨es, rfl⟩
      · exact .items xs 0
      · exact .entries es 0 _
    have hc : ∀ c ∈ conversions text.toList, Legible args c := fun c hm =>
      Classical.byContradiction fun hl => hno ⟨c, hm, hl⟩
    obtain ⟨out, _, hout, -⟩ := run_bind_ok h
    cases hb.symm.trans (acceptsFrom_of_formatFrom hs hc hout)

end

/-- Answers every request as if nothing were in the way. -/
def undisturbed (q : Request) (w : Unit) : Except Fault q.Answer × Unit := (quietAnswer q, w)

theorem formatChecked_of_format_pair :
    (format "%5d%%|%.2s" (.tuple [.int 2, .str "abc"])).run undisturbed () = (.ok "    2%|ab", ()) ∧
    (formatChecked "%5d%%|%.2s" (.tuple [.int 2, .str "abc"])).run undisturbed () =
      (.ok (some "    2%|ab"), ()) := by
  have h : (format "%5d%%|%.2s" (.tuple [.int 2, .str "abc"])).run undisturbed () =
      (.ok "    2%|ab", ()) := by
    have ht : ((format "%5d%%|%.2s" (.tuple [.int 2, .str "abc"])).run undisturbed ()).1.toOption =
        some "    2%|ab" := by decide +kernel
    refine Prod.ext ?_ rfl
    revert ht
    cases ((format "%5d%%|%.2s" (.tuple [.int 2, .str "abc"])).run undisturbed ()).1 with
    | ok t => exact fun ht => congrArg Except.ok (Option.some.inj ht)
    | error f => nofun
  refine ⟨h, ?_⟩
  rcases formatChecked_of_format (.inl ⟨_, rfl⟩) h with ⟨-, hok⟩ | ⟨hno, -⟩
  · exact hok
  · have hyes : (accepts "%5d%%|%.2s" (.tuple [.int 2, .str "abc"])).toOption = some true := by
      decide +kernel
    rw [hno] at hyes
    cases hyes

/-- After a bare point the look takes the first item for the second conversion; and inside a key with
brackets it finds the key of another entry. -/
theorem valid_formats_suppressed :
    ((format "%.s %d" (.tuple [.str "abc", .int 2])).quiet.toOption = some " 2" ∧
      (formatChecked "%.s %d" (.tuple [.str "abc", .int 2])).quiet.toOption = some none) ∧
    ((format "%(a(b)c)d" (.dict [(.str "a(b)c", .int 1), (.str "a(b", .str "xy")])).quiet.toOption =
        some "1" ∧
      (formatChecked "%(a(b)c)d"
        (.dict [(.str "a(b)c", .int 1), (.str "a(b", .str "xy")])).quiet.toOption = some none) := by
  decide +kernel

end Printf

end Gelf
