import Gelf.Value.Entries

/-!
# Gelf.Printf.Spec

What stands between a percent sign and its conversion letter: a key in brackets, flags, a width, a
precision and a length letter that means nothing.

* `Spec`: all of that, read. `Supply`: the arguments that are left, and the mapping that keys are
  looked up in.
* `Spec.read`: reads one conversion; a star takes its number from the arguments.
* `Spec.read_length`: less text is left than there was.
-/

namespace Gelf.Printf

open Gelf.Text Gelf.Number

structure Flags where
  left : Bool := false
  plus : Bool := false
  blank : Bool := false
  full : Bool := false
  zero : Bool := false

structure Spec where
  flags : Flags
  width : Option Nat
  precision : Option Nat
  conversion : Char

/-- The arguments not yet used. Where keys are used, the value under the last one is the only
argument. -/
structure Supply where
  items : List Value
  mapping : Option Value

/-- A tuple gives its items; anything else is one argument. Lists and byte strings pass for
mappings, so that a key fails only when it is looked up. -/
def Supply.ofArgs : Value → Supply
  | .tuple xs => ⟨xs, none⟩
  | .dict es => ⟨[.dict es], some (.dict es)⟩
  | .list xs => ⟨[.list xs], some (.list xs)⟩
  | .bytes b => ⟨[.bytes b], some (.bytes b)⟩
  | v => ⟨[v], none⟩

def Supply.next (s : Supply) : Except Fault (Value × Supply) :=
  match s.items with
  | [] => raise .tooFewArguments
  | v :: rest => .ok (v, { s with items := rest })

def lookUp (mapping : Value) (key : String) : Except Fault Value :=
  match mapping with
  | .dict es =>
    match Entries.get? es (.str key) with
    | some v => .ok v
    | none => raise (.missingKey (.str key))
  | .list _ => raise (.indexNotInt "list" "str")
  | _ => raise (.indexNotInt "byte" "str")

/-- Splits after the bracket that closes `depth` open ones. -/
def splitKey : Nat → List Char → Option (List Char × List Char)
  | _, [] => none
  | depth, c :: rest =>
    let depth := if c == ')' then depth - 1 else if c == '(' then depth + 1 else depth
    if depth == 0 then some ([], rest)
    else (splitKey depth rest).map fun (key, after) => (c :: key, after)

/-- Reads a key, if there is one, and makes its value the only argument. -/
def readKey (s : Supply) : List Char → Except Fault (Supply × List Char)
  | '(' :: rest =>
    match s.mapping with
    | none => raise .needsMapping
    | some mapping =>
      match splitKey 1 rest with
      | none => raise .incompleteKey
      | some (key, after) =>
        match lookUp mapping (String.ofList key) with
        | .ok v => .ok ({ s with items := [v] }, after)
        | .error f => .error f
  | text => .ok (s, text)

def addFlag (f : Flags) : Char → Option Flags
  | '-' => some { f with left := true }
  | '+' => some { f with plus := true }
  | ' ' => some { f with blank := true }
  | '#' => some { f with full := true }
  | '0' => some { f with zero := true }
  | _ => none

def readFlags (f : Flags) : List Char → Flags × List Char
  | [] => (f, [])
  | c :: rest =>
    match addFlag f c with
    | some f => readFlags f rest
    | none => (f, c :: rest)

/-- Reads digits as a number that must not pass `limit` while it grows. -/
def readBounded (limit : Nat) (n : Nat) : List Char → Option (Nat × List Char)
  | [] => some (n, [])
  | c :: rest =>
    if isAsciiDigit c then
      if (limit - asciiDigitValue c) / 10 < n then none
      else readBounded limit (10 * n + asciiDigitValue c) rest
    else some (n, c :: rest)

def startsWithDigit : List Char → Bool
  | c :: _ => isAsciiDigit c
  | [] => false

/-- The greatest width, and the greatest precision, that can be written. -/
def maxWidth : Nat := twoTo 63 - 1

def maxPrecision : Nat := twoTo 31 - 1

/-- The integer that a star takes from the arguments. -/
def starred (s : Supply) : Except Fault (Int × Supply) :=
  match s.next with
  | .error f => .error f
  | .ok (v, s) =>
    match v.asInt? with
    | some n => .ok (n, s)
    | none => raise .starNeedsInt

/-- A width: its number, whether it turns the field to the left, and what follows. -/
def readWidth (s : Supply) : List Char → Except Fault (Option Nat × Bool × Supply × List Char)
  | '*' :: rest =>
    match starred s with
    | .error f => .error f
    | .ok (n, s) =>
      if n < -(maxWidth : Int) - 1 || (maxWidth : Int) < n then raise .intTooLargeForWidth
      else .ok (some n.natAbs, n < 0, s, rest)
  | text =>
    if startsWithDigit text then
      match readBounded maxWidth 0 text with
      | some (n, rest) => .ok (some n, false, s, rest)
      | none => raise .widthTooBig
    else .ok (none, false, s, text)

def readPrecision (s : Supply) : List Char → Except Fault (Option Nat × Supply × List Char)
  | '.' :: '*' :: rest =>
    match starred s with
    | .error f => .error f
    | .ok (n, s) =>
      if n < -(maxPrecision : Int) - 1 || (maxPrecision : Int) < n then raise .intTooLargeForPrecision
      else .ok (some n.toNat, s, rest)
  | '.' :: text =>
    match readBounded maxPrecision 0 text with
    | some (n, rest) => .ok (some n, s, rest)
    | none => raise .precisionTooBig
  | text => .ok (none, s, text)

def skipLength : List Char → List Char
  | 'h' :: rest | 'l' :: rest | 'L' :: rest => rest
  | text => text

/-- Reads what follows a percent sign, up to the conversion letter. -/
def Spec.read (s : Supply) (text : List Char) : Except Fault (Spec × Supply × List Char) :=
  match readKey s text with
  | .error f => .error f
  | .ok (s, text) =>
    let (flags, text) := readFlags {} text
    match readWidth s text with
    | .error f => .error f
    | .ok (width, left, s, text) =>
      match readPrecision s text with
      | .error f => .error f
      | .ok (precision, s, text) =>
        match skipLength text with
        | [] => raise .incompleteFormat
        | c :: rest => .ok (⟨{ flags with left := flags.left || left }, width, precision, c⟩, s, rest)

/-- Arguments that nothing used are a mistake, unless they were a mapping. -/
def Supply.finish (s : Supply) : Except Fault Unit :=
  if s.mapping.isNone && !s.items.isEmpty then raise .tooManyArguments else .ok ()

/-! ## Reading a conversion leaves less text -/

theorem splitKey_suffix {depth : Nat} {text key rest : List Char}
    (h : splitKey depth text = some (key, rest)) : rest <:+ text := by
  induction text generalizing depth key with
  | nil => simp [splitKey] at h
  | cons c r ih =>
    simp only [splitKey] at h
    generalize (if c == ')' then depth - 1 else if c == '(' then depth + 1 else depth) = d at h
    by_cases hd : d = 0
    · simp [hd] at h
      simp [← h.2]
    · simp [hd] at h
      obtain ⟨k, hk, _⟩ := h
      exact (ih hk).trans (List.suffix_cons c r)

theorem readKey_length {s s' : Supply} {text rest : List Char}
    (h : readKey s text = .ok (s', rest)) : rest.length ≤ text.length := by
  unfold readKey at h
  split at h
  · rename_i r
    split at h
    · simp [raise] at h
    · split at h
      · simp [raise] at h
      · rename_i key after hk
        split at h
        · have := (splitKey_suffix hk).length_le
          simp at h
          simp [← h.2]
          omega
        · simp at h
  · simp at h
    simp [h.2]

theorem readFlags_length (f : Flags) (text : List Char) :
    (readFlags f text).2.length ≤ text.length := by
  induction text generalizing f with
  | nil => simp [readFlags]
  | cons c r ih =>
    simp only [readFlags]
    split
    · rename_i g _
      have := ih g
      simp
      omega
    · simp

theorem readBounded_length {limit n : Nat} {text rest : List Char} {v : Nat}
    (h : readBounded limit n text = some (v, rest)) : rest.length ≤ text.length := by
  induction text generalizing n with
  | nil => simp [readBounded] at h; simp [h]
  | cons c r ih =>
    simp only [readBounded] at h
    split at h
    · split at h
      · simp at h
      · have := ih h
        simp
        omega
    · simp at h
      simp [← h.2]

theorem readWidth_length {s s' : Supply} {text rest : List Char} {w : Option Nat} {l : Bool}
    (h : readWidth s text = .ok (w, l, s', rest)) : rest.length ≤ text.length := by
  unfold readWidth at h
  split at h
  · split at h
    · simp at h
    · split at h
      · simp [raise] at h
      · simp at h
        simp [← h.2.2.2]
  · split at h
    · split at h
      · rename_i hb
        simp at h
        have := readBounded_length hb
        simp [← h.2.2.2]
        omega
      · simp [raise] at h
    · simp at h
      simp [h.2.2.2]

theorem readPrecision_length {s s' : Supply} {text rest : List Char} {p : Option Nat}
    (h : readPrecision s text = .ok (p, s', rest)) : rest.length ≤ text.length := by
  unfold readPrecision at h
  split at h
  · split at h
    · simp at h
    · split at h
      · simp [raise] at h
      · simp at h
        simp [← h.2.2]
        omega
  · split at h
    · rename_i hb
      simp at h
      have := readBounded_length hb
      simp [← h.2.2]
      omega
    · simp [raise] at h
  · simp at h
    simp [h.2.2]

theorem skipLength_length (text : List Char) : (skipLength text).length ≤ text.length := by
  unfold skipLength
  split <;> simp

theorem Spec.read_length {s s' : Supply} {text rest : List Char} {spec : Spec}
    (h : Spec.read s text = .ok (spec, s', rest)) : rest.length < text.length := by
  unfold Spec.read at h
  split at h
  · simp at h
  · rename_i s1 t1 hk
    have h1 := readKey_length hk
    have h2 := readFlags_length {} t1
    generalize readFlags {} t1 = r at h h2
    obtain ⟨flags, t2⟩ := r
    simp only at h h2
    split at h
    · simp at h
    · rename_i hw
      have h3 := readWidth_length hw
      split at h
      · simp at h
      · rename_i p s3 t4 hp
        have h4 := readPrecision_length hp
        have h5 := skipLength_length t4
        split at h
        · simp [raise] at h
        · rename_i hs
          simp at h
          rw [hs] at h5
          simp [← h.2.2]
          simp at h5
          omega

end Gelf.Printf
