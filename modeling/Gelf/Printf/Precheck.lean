import Gelf.Printf.Format

/-!
# Gelf.Printf.Precheck

A quick look at a percent format: can the arguments meet the conversions at all?

It has a grammar of its own, coarser than that of `format`: a key has no brackets inside, digits
are of any script, and a point needs digits after it.

* `Directive`: a conversion as the look sees it. `directives`: all of them, in order.
* `suits`: can a value of this class meet the conversion?
* `accepts`: does every argument suit? `formatChecked`: the formatted text, if so.
-/

namespace Gelf.Printf

open Gelf.Text

structure Directive where
  key : Option String
  star : Bool
  conversion : Char

def conversionLetters : List Char := "diouxXeEfFgGcrsa%".toList

def flagLetters : List Char := "#0- +".toList

/-- A key in brackets, without any closing bracket inside, if one stands here. -/
def scanKey : List Char → Option String × List Char
  | '(' :: rest =>
    let key := rest.takeWhile (· != ')')
    match rest.drop key.length with
    | _ :: after => (some (String.ofList key), after)
    | [] => (none, '(' :: rest)
  | text => (none, text)

/-- A star or digits, if they stand here: whether it was a star, and what follows. -/
def scanNumber : List Char → Option (Bool × List Char)
  | '*' :: rest => some (true, rest)
  | text =>
    match text.takeWhile isDecimal with
    | [] => none
    | digits => some (false, text.drop digits.length)

def scanPrecision : List Char → Bool × List Char
  | '.' :: rest =>
    match scanNumber rest with
    | some (star, after) => (star, after)
    | none => (false, '.' :: rest)
  | text => (false, text)

/-- The conversion that follows a percent sign, and the text after it. -/
def scanDirective (text : List Char) : Option (Directive × List Char) :=
  let (key, text) := scanKey text
  let text := text.dropWhile flagLetters.contains
  let (wide, text) := (scanNumber text).getD (false, text)
  let (precise, text) := scanPrecision text
  match skipLength text with
  | c :: rest =>
    if conversionLetters.contains c then some (⟨key, wide || precise, c⟩, rest) else none
  | [] => none

theorem scanKey_length (text : List Char) : (scanKey text).2.length ≤ text.length := by
  unfold scanKey
  split
  · rename_i rest
    simp only
    split
    · rename_i c after h
      have : (rest.drop (rest.takeWhile (· != ')')).length).length ≤ rest.length := by simp
      rw [h] at this
      simp at this ⊢
      omega
    · simp
  · simp

theorem scanNumber_length {text rest : List Char} {star : Bool}
    (h : scanNumber text = some (star, rest)) : rest.length ≤ text.length := by
  unfold scanNumber at h
  split at h
  · simp at h
    simp [h.2]
  · split at h
    · simp at h
    · simp at h
      simp [← h.2]

theorem scanPrecision_length (text : List Char) : (scanPrecision text).2.length ≤ text.length := by
  unfold scanPrecision
  split
  · split
    · rename_i h
      have := scanNumber_length h
      simp
      omega
    · simp
  · simp

theorem scanDirective_length {text rest : List Char} {d : Directive}
    (h : scanDirective text = some (d, rest)) : rest.length < text.length := by
  unfold scanDirective at h
  have h1 := scanKey_length text
  generalize scanKey text = k at h h1
  obtain ⟨key, t1⟩ := k
  simp only at h h1
  have h2 : (t1.dropWhile flagLetters.contains).length ≤ t1.length :=
    (List.dropWhile_sublist _).length_le
  generalize t1.dropWhile flagLetters.contains = t2 at h h2
  have h3 : ((scanNumber t2).getD (false, t2)).2.length ≤ t2.length := by
    cases hn : scanNumber t2 with
    | none => simp
    | some p => exact scanNumber_length hn
  generalize (scanNumber t2).getD (false, t2) = n at h h3
  obtain ⟨wide, t3⟩ := n
  simp only at h h3
  have h4 := scanPrecision_length t3
  generalize scanPrecision t3 = p at h h4
  obtain ⟨precise, t4⟩ := p
  simp only at h h4
  have h5 := skipLength_length t4
  split at h
  · rename_i hs
    rw [hs] at h5
    split at h
    · simp at h
      simp [← h.2]
      simp at h5
      omega
    · simp at h
  · simp at h

/-- All directives of a text, from left to right. A percent sign that begins none is passed over. -/
def directives : List Char → List Directive
  | [] => []
  | c :: rest =>
    if c == '%' then
      match _h : scanDirective rest with
      | some (d, after) => d :: directives after
      | none => directives rest
    else directives rest
termination_by text => text.length
decreasing_by
  · have := scanDirective_length _h
    simp
    omega
  · simp
  · simp

/-- The text of a message, which is all that a pattern can be looked for in. -/
def patternText : Value → Except Fault String
  | .str s => .ok s
  | .bytes _ => raise .textPatternOnBytes
  | v => raise (.patternNeedsText v.className)

/-- Can a value of this class meet the conversion? -/
def suits (conversion : Char) (v : Value) : Bool :=
  if ['r', 's', 'a'].contains conversion then true
  else if conversion == 'c' then
    match v with
    | .str s => s.length == 1
    | _ => v.offers .index
  else match v with
    | .str _ | .bytes _ => false
    | _ =>
      if ['o', 'x', 'X'].contains conversion then v.offers .index
      else [NumberMethod.index, .int, .float].any v.offers

def lengthOf : Value → Except Fault Nat
  | .str s => .ok s.length
  | .bytes b => .ok b.length
  | .list xs => .ok xs.length
  | .tuple xs => .ok xs.length
  | .dict es => .ok es.length
  | v => raise (.noLength v.className)

/-- Does every directive that has an argument suit it? `used` arguments are taken already. -/
def acceptsFrom (args : Value) (used : Nat) : List Directive → Except Fault Bool
  | [] => .ok true
  | d :: rest =>
    if d.conversion == '%' then acceptsFrom args used rest
    else if d.star then .ok true
    else match d.key, args with
      | some key, .dict es =>
        match Entries.get? es (.str key) with
        | some v => if suits d.conversion v then acceptsFrom args used rest else .ok false
        | none => acceptsFrom args used rest
      | some _, _ => acceptsFrom args used rest
      | none, .dict _ => acceptsFrom args used rest
      | none, _ =>
        match lengthOf args with
        | .error f => .error f
        | .ok _ =>
          match args.items[used]? with
          | some v => if suits d.conversion v then acceptsFrom args (used + 1) rest else .ok false
          | none => acceptsFrom args used rest

def accepts (text : String) (args : Value) : Except Fault Bool :=
  acceptsFrom args 0 (directives text.toList)

/-- The formatted text, or nothing where an argument does not suit its conversion. -/
def formatChecked (text : String) (args : Value) : Script (Option String) :=
  match accepts text args with
  | .error f => .fail f
  | .ok false => .done none
  | .ok true => (format text args).bind fun out => .done (some out)

end Gelf.Printf
