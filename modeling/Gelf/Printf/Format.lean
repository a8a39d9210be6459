import Gelf.Printf.Piece

/-!
# Gelf.Printf.Format

Percent formats: `format` fills arguments into a whole text. Every complaint comes in the order in
which the text is read.
-/

namespace Gelf.Printf

/-- Formats the rest of a text of `size` characters. Two percent signs in a row stand for one. -/
def formatFrom (size : Nat) (s : Supply) : List Char → Script (List Char)
  | [] => (Script.ofExcept s.finish).bind fun _ => .done []
  | '%' :: '%' :: rest => (formatFrom size s rest).bind fun out => .done ('%' :: out)
  | '%' :: text =>
    match _h : Spec.read s text with
    | .error f => .fail f
    | .ok (spec, s', rest) =>
      (Script.ofExcept s'.next).bind fun (v, s'') =>
        (spec.convert (size - rest.length - 1) v).bind fun piece =>
          (Script.ofExcept (spec.place piece)).bind fun field =>
            (formatFrom size s'' rest).bind fun out => .done (field ++ out)
  | c :: rest => (formatFrom size s rest).bind fun out => .done (c :: out)
termination_by text => text.length
decreasing_by
  · simp only [List.length_cons]
    omega
  · have := Spec.read_length _h
    simp only [List.length_cons]
    omega
  · simp only [List.length_cons]
    omega

def format (text : String) (args : Value) : Script String :=
  (formatFrom text.length (.ofArgs args) text.toList).bind fun out => .done (String.ofList out)

end Gelf.Printf
