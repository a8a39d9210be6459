import Gelf.Printf.Precheck

/-!
# Gelf.Template

Texts with numbered placeholders: `\x7b0\x7d` stands for the first argument.

* `scanPlaceholder`: the digits of a placeholder, if one stands here.
* `Template.fill`: every placeholder whose argument exists is replaced, in one pass; what an
  argument says is not looked at again.
-/

namespace Gelf.Template

open Gelf.Text Gelf.Number

/-- After an opening brace: digits of any script and the closing brace. -/
def scanPlaceholder (text : List Char) : Option (List Char × List Char) :=
  let digits := text.takeWhile isDecimal
  if digits.isEmpty then none
  else match text.dropWhile isDecimal with
    | '\x7d' :: rest => some (digits, rest)
    | _ => none

theorem scanPlaceholder_length {text digits rest : List Char}
    (h : scanPlaceholder text = some (digits, rest)) : rest.length < text.length := by
  unfold scanPlaceholder at h
  simp only at h
  split at h
  · simp at h
  · split at h
    · rename_i r hd
      simp at h
      have h1 : (text.dropWhile isDecimal).length ≤ text.length :=
        (List.dropWhile_sublist _).length_le
      rw [hd] at h1
      simp at h1
      rw [← h.2]
      omega
    · simp at h

/-- The number that a placeholder's digits stand for. -/
def placeholderIndex (digits : List Char) : Except Fault Nat :=
  if maxDigits < digits.length then raise (.intTextTooLong digits.length)
  else .ok (digits.foldl (fun n c => 10 * n + (decimalValue? c).getD 0) 0)

/-- The text that replaces a placeholder: its argument's, or itself if there is none. -/
def replacement (digits : List Char) (args : List Value) : Script (List Char) :=
  match placeholderIndex digits with
  | .error f => .fail f
  | .ok k =>
    match args[k]? with
    | some v => v.text.bind fun s => .done s.toList
    | none => .done ('\x7b' :: digits ++ ['\x7d'])

def fillFrom (args : List Value) : List Char → Script (List Char)
  | [] => .done []
  | c :: text =>
    if c == '\x7b' then
      match _h : scanPlaceholder text with
      | some (digits, rest) =>
        (replacement digits args).bind fun part =>
          (fillFrom args rest).bind fun out => .done (part ++ out)
      | none => (fillFrom args text).bind fun out => .done (c :: out)
    else (fillFrom args text).bind fun out => .done (c :: out)
termination_by text => text.length
decreasing_by
  · have := scanPlaceholder_length _h
    simp
    omega
  · simp
  · simp

def fill (text : String) (args : List Value) : Script String :=
  (fillFrom args text.toList).bind fun out => .done (String.ofList out)

end Gelf.Template
