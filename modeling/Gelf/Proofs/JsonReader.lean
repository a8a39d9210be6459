import Gelf.Json

/-!
# Gelf.Proofs.JsonReader

JSON texts, as the one who gets them reads them.

* `Datum`: what a JSON text says. A number without a fraction and an exponent counts by its value, any
  other one as it is written.
* `readNumber`, `readText`, `readToken`: one token at the front of a text.
* `tokens`: all tokens of a text. Blanks may stand between them.
* `value`, `settle`: tokens as a datum, with a stack of the arrays and objects that are still open.
* `read`: what a whole text says, if it is one of JSON.
* `Datum.tokens`: a datum as tokens. `value_tokens`: these are read as the datum.
-/

namespace Gelf.Json

inductive Scalar where
  | null
  | bool (b : Bool)
  | integer (n : Int)
  /-- A number with a fraction or an exponent. -/
  | decimal (text : String)
  | text (s : String)

inductive Datum where
  | scalar (s : Scalar)
  | array (items : List Datum)
  | object (members : List (String × Datum))

inductive Token where
  | openArray
  | closeArray
  | openObject
  | closeObject
  | comma
  | colon
  | scalar (s : Scalar)

/-! ## Numbers -/

/-- One of these signs, if the text has one at its front. -/
def readSign (signs : List Char) : List Char → List Char × List Char
  | [] => ([], [])
  | c :: rest => if signs.contains c then ([c], rest) else ([], c :: rest)

/-- As many digits as there are, one at least. -/
def readDigits (s : List Char) : Option (List Char × List Char) :=
  match s.takeWhile Char.isDigit with
  | [] => none
  | digits => some (digits, s.dropWhile Char.isDigit)

/-- The digits before the point. No other digit comes after a zero at the front. -/
def readWhole : List Char → Option (List Char × List Char)
  | '0' :: rest => some (['0'], rest)
  | s => readDigits s

def readFraction : List Char → Option (List Char × List Char)
  | '.' :: rest => (readDigits rest).map fun (digits, left) => ('.' :: digits, left)
  | s => some ([], s)

def readPower : List Char → Option (List Char × List Char)
  | [] => some ([], [])
  | c :: rest =>
    if c == 'e' || c == 'E' then
      let signed := readSign ['+', '-'] rest
      (readDigits signed.2).map fun (digits, left) => (c :: signed.1 ++ digits, left)
    else some ([], c :: rest)

def integerOf (sign digits : List Char) : Int :=
  let n : Nat := Nat.ofDigitChars 10 digits 0
  if sign.isEmpty then n else -n

def readNumber (s : List Char) : Option (Scalar × List Char) := do
  let signed := readSign ['-'] s
  let (whole, s) ← readWhole signed.2
  let (fraction, s) ← readFraction s
  let (power, s) ← readPower s
  let number := if fraction.isEmpty && power.isEmpty then .integer (integerOf signed.1 whole)
    else .decimal (String.ofList (signed.1 ++ whole ++ fraction ++ power))
  some (number, s)

/-! ## Texts in quotes -/

def hexValue? (c : Char) : Option Nat :=
  if 48 ≤ c.toNat && c.toNat ≤ 57 then some (c.toNat - 48)
  else if 65 ≤ c.toNat && c.toNat ≤ 70 then some (c.toNat - 55)
  else if 97 ≤ c.toNat && c.toNat ≤ 102 then some (c.toNat - 87)
  else none

/-- The number of a code unit, in four digits. -/
def readUnit : List Char → Option (Nat × List Char)
  | a :: b :: c :: d :: rest => do
    let a ← hexValue? a
    let b ← hexValue? b
    let c ← hexValue? c
    let d ← hexValue? d
    some (((a * 16 + b) * 16 + c) * 16 + d, rest)
  | _ => none

/-- The character of one code unit, or of two that belong together. -/
def readUnits (s : List Char) : Option (Char × List Char) := do
  let (n, rest) ← readUnit s
  if n < 0xd800 || 0xe000 ≤ n then some (Char.ofNat n, rest)
  else if n < 0xdc00 then
    match rest with
    | '\\' :: 'u' :: rest =>
      let (k, rest) ← readUnit rest
      if 0xdc00 ≤ k && k < 0xe000 then
        some (Char.ofNat (0x10000 + (n - 0xd800) * 0x400 + (k - 0xdc00)), rest)
      else none
    | _ => none
  else none

def shortEscape? : Char → Option Char
  | '"' => some '"'
  | '\\' => some '\\'
  | '/' => some '/'
  | 'b' => some (Char.ofNat 8)
  | 'f' => some (Char.ofNat 12)
  | 'n' => some '\n'
  | 'r' => some '\r'
  | 't' => some '\t'
  | _ => none

/-- What comes after a backslash. -/
def readEscape : List Char → Option (Char × List Char)
  | 'u' :: rest => readUnits rest
  | c :: rest => (shortEscape? c).map fun d => (d, rest)
  | [] => none

theorem readUnit_length {s left : List Char} {n : Nat} (h : readUnit s = some (n, left)) :
    left.length < s.length := by
  unfold readUnit at h
  split at h
  · simp only [Option.bind_eq_bind, Option.bind_eq_some_iff, Option.some.injEq,
      Prod.mk.injEq] at h
    obtain ⟨-, -, -, -, -, -, -, -, -, rfl⟩ := h
    simp only [List.length_cons]
    omega
  · cases h

theorem readUnits_length {s left : List Char} {c : Char} (h : readUnits s = some (c, left)) :
    left.length < s.length := by
  unfold readUnits at h
  obtain ⟨⟨n, rest⟩, hn, h⟩ := Option.bind_eq_some_iff.mp h
  have hl := readUnit_length hn
  dsimp only at h
  split at h
  · cases h
    exact hl
  · split at h
    · split at h
      · obtain ⟨⟨k, rest'⟩, hk, h⟩ := Option.bind_eq_some_iff.mp h
        have hl' := readUnit_length hk
        dsimp only at h
        split at h
        · obtain ⟨-, rfl⟩ := Prod.mk.inj (Option.some.inj h)
          simp only [List.length_cons] at hl
          omega
        · cases h
      · cases h
    · cases h

theorem readEscape_length {s left : List Char} {c : Char} (h : readEscape s = some (c, left)) :
    left.length < s.length := by
  unfold readEscape at h
  split at h
  · exact Nat.lt_succ_of_lt (readUnits_length h)
  · obtain ⟨d, -, h⟩ := Option.map_eq_some_iff.mp h
    cases h
    exact Nat.lt_succ_self _
  · cases h

/-- A text up to the quote that ends it. A control character must be escaped. -/
def readText : List Char → Option (List Char × List Char)
  | [] => none
  | c :: rest =>
    if c == '"' then some ([], rest)
    else if c == '\\' then
      match _h : readEscape rest with
      | some (d, rest) => (readText rest).map fun (s, left) => (d :: s, left)
      | none => none
    else if 0x20 ≤ c.toNat then (readText rest).map fun (s, left) => (c :: s, left)
    else none
termination_by s => s.length
decreasing_by
  · exact Nat.lt_succ_of_lt (readEscape_length _h)
  · exact Nat.lt_succ_self _

theorem readText_quote (rest : List Char) : readText ('"' :: rest) = some ([], rest) := by
  simp [readText]

theorem readText_escape {s rest : List Char} {c : Char} (h : readEscape s = some (c, rest)) :
    readText ('\\' :: s) = (readText rest).map fun (s, left) => (c :: s, left) := by
  rw [readText, if_neg (by decide), if_pos (by decide)]
  split
  · rename_i he
    cases h.symm.trans he
    rfl
  · rename_i he
    cases h.symm.trans he

theorem readText_plain {c : Char} (hq : c ≠ '"') (hb : c ≠ '\\') (hc : 0x20 ≤ c.toNat)
    (rest : List Char) :
    readText (c :: rest) = (readText rest).map fun (s, left) => (c :: s, left) := by
  simp [readText, hq, hb, hc]

/-! ## Tokens -/

def isGap (c : Char) : Bool := c == ' ' || c == '\t' || c == '\n' || c == '\r'

def readToken : List Char → Option (Token × List Char)
  | '[' :: rest => some (.openArray, rest)
  | ']' :: rest => some (.closeArray, rest)
  | '\x7b' :: rest => some (.openObject, rest)
  | '\x7d' :: rest => some (.closeObject, rest)
  | ',' :: rest => some (.comma, rest)
  | ':' :: rest => some (.colon, rest)
  | 'n' :: 'u' :: 'l' :: 'l' :: rest => some (.scalar .null, rest)
  | 't' :: 'r' :: 'u' :: 'e' :: rest => some (.scalar (.bool true), rest)
  | 'f' :: 'a' :: 'l' :: 's' :: 'e' :: rest => some (.scalar (.bool false), rest)
  | '"' :: rest => (readText rest).map fun (s, left) => (.scalar (.text (String.ofList s)), left)
  | s => (readNumber s).map fun (number, left) => (.scalar number, left)

theorem readSign_length (signs s : List Char) : (readSign signs s).2.length ≤ s.length := by
  unfold readSign
  split
  · exact Nat.le_refl _
  · split
    · exact Nat.le_succ _
    · exact Nat.le_refl _

theorem readDigits_length {s digits left : List Char} (h : readDigits s = some (digits, left)) :
    left.length < s.length := by
  have hs := congrArg List.length (List.takeWhile_append_dropWhile (p := Char.isDigit) (l := s))
  rw [List.length_append] at hs
  unfold readDigits at h
  split at h
  · cases h
  · rename_i hne
    cases h
    have hpos : 0 < (s.takeWhile Char.isDigit).length := List.length_pos_iff.mpr hne
    omega

theorem readWhole_length {s digits left : List Char} (h : readWhole s = some (digits, left)) :
    left.length < s.length := by
  unfold readWhole at h
  split at h
  · cases h
    exact Nat.lt_succ_self _
  · exact readDigits_length h

theorem readFraction_length {s digits left : List Char} (h : readFraction s = some (digits, left)) :
    left.length ≤ s.length := by
  unfold readFraction at h
  split at h
  · obtain ⟨⟨digits, left⟩, hd, h⟩ := Option.map_eq_some_iff.mp h
    cases h
    exact Nat.le_succ_of_le (Nat.le_of_lt (readDigits_length hd))
  · cases h
    exact Nat.le_refl _

theorem readPower_length {s digits left : List Char} (h : readPower s = some (digits, left)) :
    left.length ≤ s.length := by
  unfold readPower at h
  split at h
  · cases h
    exact Nat.le_refl _
  · split at h
    · rename_i c rest _
      obtain ⟨⟨digits, left⟩, hd, h⟩ := Option.map_eq_some_iff.mp h
      cases h
      have hs := readSign_length ['+', '-'] rest
      exact Nat.le_succ_of_le (Nat.le_trans (Nat.le_of_lt (readDigits_length hd)) hs)
    · cases h
      exact Nat.le_refl _

theorem readNumber_length {s left : List Char} {x : Scalar} (h : readNumber s = some (x, left)) :
    left.length < s.length := by
  unfold readNumber at h
  have hs := readSign_length ['-'] s
  obtain ⟨⟨whole, s₁⟩, hw, h⟩ := Option.bind_eq_some_iff.mp h
  obtain ⟨⟨fraction, s₂⟩, hf, h⟩ := Option.bind_eq_some_iff.mp h
  obtain ⟨⟨power, s₃⟩, hp, h⟩ := Option.bind_eq_some_iff.mp h
  cases h
  have hw := readWhole_length hw
  have hf := readFraction_length hf
  have hp := readPower_length hp
  omega

theorem readText_length {s text left : List Char} (h : readText s = some (text, left)) :
    left.length < s.length := by
  fun_induction readText s generalizing text with
  | case1 => cases h
  | case2 c rest =>
    cases h
    exact Nat.lt_succ_self _
  | case3 c rest _ _ d rest' he ih =>
    obtain ⟨⟨s, left'⟩, hs, h⟩ := Option.map_eq_some_iff.mp h
    cases h
    exact Nat.lt_succ_of_lt (Nat.lt_trans (ih hs) (readEscape_length he))
  | case4 => cases h
  | case5 c rest _ _ _ ih =>
    obtain ⟨⟨s, left'⟩, hs, h⟩ := Option.map_eq_some_iff.mp h
    cases h
    exact Nat.lt_succ_of_lt (ih hs)
  | case6 => cases h

theorem readToken_length {s left : List Char} {t : Token} (h : readToken s = some (t, left)) :
    left.length < s.length := by
  unfold readToken at h
  split at h
  case h_10 rest =>
    obtain ⟨⟨s, left'⟩, hs, h⟩ := Option.map_eq_some_iff.mp h
    cases h
    exact Nat.lt_succ_of_lt (readText_length hs)
  case h_11 =>
    obtain ⟨⟨x, left'⟩, hx, h⟩ := Option.map_eq_some_iff.mp h
    cases h
    exact readNumber_length hx
  all_goals
    cases h
    simp only [List.length_cons]
    omega

def tokens : List Char → Option (List Token)
  | [] => some []
  | c :: rest =>
    if isGap c then tokens rest
    else
      match _h : readToken (c :: rest) with
      | some (t, left) => (tokens left).map fun ts => t :: ts
      | none => none
termination_by s => s.length
decreasing_by
  · exact Nat.lt_succ_self _
  · exact readToken_length _h

theorem tokens_cons {c : Char} {rest left : List Char} {t : Token} (hg : isGap c = false)
    (h : readToken (c :: rest) = some (t, left)) :
    tokens (c :: rest) = (tokens left).map fun ts => t :: ts := by
  rw [tokens, hg, if_neg Bool.false_ne_true]
  split
  · rename_i ht
    cases h.symm.trans ht
    rfl
  · rename_i ht
    cases h.symm.trans ht

/-! ## Values -/

/-- An array with the items before the one that is being read, or an object with the members before
the one of this name. -/
inductive Open where
  | array (before : List Datum)
  | object (before : List (String × Datum)) (name : String)

mutual

/-- A value has to come now. -/
def value : List Token → List Open → Option Datum
  | .scalar s :: rest, stack => settle rest stack (.scalar s)
  | .openArray :: .closeArray :: rest, stack => settle rest stack (.array [])
  | .openArray :: rest, stack => value rest (.array [] :: stack)
  | .openObject :: .closeObject :: rest, stack => settle rest stack (.object [])
  | .openObject :: .scalar (.text name) :: .colon :: rest, stack =>
    value rest (.object [] name :: stack)
  | _, _ => none

/-- A value has just ended. -/
def settle : List Token → List Open → Datum → Option Datum
  | [], [], d => some d
  | .comma :: rest, .array before :: stack, d => value rest (.array (before ++ [d]) :: stack)
  | .closeArray :: rest, .array before :: stack, d => settle rest stack (.array (before ++ [d]))
  | .comma :: .scalar (.text next) :: .colon :: rest, .object before name :: stack, d =>
    value rest (.object (before ++ [(name, d)]) next :: stack)
  | .closeObject :: rest, .object before name :: stack, d =>
    settle rest stack (.object (before ++ [(name, d)]))
  | _, _, _ => none

end

/-- What a text says, if it is a JSON text. -/
def read (s : String) : Option Datum := (tokens s.toList).bind fun ts => value ts []

/-! ## Data as tokens -/

/-- What follows the first item of a list. -/
def followed : List (List Token) → List Token
  | [] => []
  | ts :: rest => .comma :: ts ++ followed rest

def separated : List (List Token) → List Token
  | [] => []
  | ts :: rest => ts ++ followed rest

mutual

def Datum.tokens : Datum → List Token
  | .scalar s => [.scalar s]
  | .array items => .openArray :: separated (itemTokens items) ++ [.closeArray]
  | .object members => .openObject :: separated (membersTokens members) ++ [.closeObject]

def itemTokens : List Datum → List (List Token)
  | [] => []
  | d :: rest => d.tokens :: itemTokens rest

def membersTokens : List (String × Datum) → List (List Token)
  | [] => []
  | m :: rest => memberTokens m :: membersTokens rest

def memberTokens : String × Datum → List Token
  | (name, d) => .scalar (.text name) :: .colon :: d.tokens

end

theorem value_openArray (d : Datum) (rest : List Token) (stack : List Open) :
    value (.openArray :: (d.tokens ++ rest)) stack = value (d.tokens ++ rest) (.array [] :: stack) := by
  cases d <;> simp [Datum.tokens, value]

mutual

/-- The tokens of a datum are read as the datum, whatever is open and whatever comes after them. -/
theorem value_tokens (d : Datum) (rest : List Token) (stack : List Open) :
    value (d.tokens ++ rest) stack = settle rest stack d := by
  cases d with
  | scalar s => simp [Datum.tokens, value]
  | array items =>
    cases items with
    | nil => simp [Datum.tokens, itemTokens, separated, value]
    | cons e more =>
      have hi := value_items e more [] rest stack
      rw [← value_openArray] at hi
      simpa [Datum.tokens, itemTokens, separated] using hi
  | object members =>
    cases members with
    | nil => simp [Datum.tokens, membersTokens, separated, value]
    | cons m more =>
      obtain ⟨name, e⟩ := m
      have hm := value_members name e more [] rest stack
      simpa [Datum.tokens, membersTokens, memberTokens, separated, value] using hm
termination_by sizeOf d

/-- The items that are left of an array. -/
theorem value_items (d : Datum) (more before : List Datum) (rest : List Token)
    (stack : List Open) :
    value (d.tokens ++ (followed (itemTokens more) ++ .closeArray :: rest)) (.array before :: stack) =
      settle rest stack (.array (before ++ d :: more)) := by
  cases more with
  | nil =>
    rw [value_tokens]
    simp [itemTokens, followed, settle]
  | cons e more =>
    have hi := value_items e more (before ++ [d]) rest stack
    rw [value_tokens]
    simpa [itemTokens, followed, settle] using hi
termination_by sizeOf d + sizeOf more

/-- The members that are left of an object, once the name of the first is read. -/
theorem value_members (name : String) (d : Datum) (more before : List (String × Datum))
    (rest : List Token) (stack : List Open) :
    value (d.tokens ++ (followed (membersTokens more) ++ .closeObject :: rest))
      (.object before name :: stack) = settle rest stack (.object (before ++ (name, d) :: more)) := by
  cases more with
  | nil =>
    rw [value_tokens]
    simp [membersTokens, followed, settle]
  | cons m more =>
    obtain ⟨next, e⟩ := m
    have hm := value_members next e more (before ++ [(name, d)]) rest stack
    rw [value_tokens]
    simpa [membersTokens, memberTokens, followed, settle] using hm
termination_by sizeOf d + sizeOf more

end

/-! Texts that are written in another way are read as well, if they are JSON. -/

example : read "[1, -0.5e3]" = some (.array [.scalar (.integer 1), .scalar (.decimal "-0.5e3")]) := by
  cbv

example : read "[01]" = none := by cbv

end Gelf.Json
