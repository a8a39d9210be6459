import Gelf.Proofs.Passage

/-!
# Gelf.Proofs.Percent

Percent formats that hold nothing but `%s` and `%d`, as log lines do.

* `Printf.formatFrom_append`: text without percent signs stands for itself.
* `Printf.formatFrom_bare`: the next argument takes the place of a letter with nothing before it.
* `perform_logLine_pair`, `perform_logLine_number`: a log line about a host and a port, or a number.
-/

namespace Gelf

namespace Printf

variable {size : Nat} {s : Supply}

theorem formatFrom_cons {c : Char} (hc : c ≠ '%') (rest : List Char) :
    formatFrom size s (c :: rest) = (formatFrom size s rest).bind fun out => .done (c :: out) := by
  rw [formatFrom]
  · intro r h _
    exact hc h
  · intro h
    exact hc h

theorem formatFrom_append {p : List Char} (hp : '%' ∉ p) (rest : List Char) :
    formatFrom size s (p ++ rest) =
      (formatFrom size s rest).bind fun out => .done (p ++ out) := by
  induction p with
  | nil => exact (Script.bind_done _).symm
  | cons c p ih =>
    rw [List.mem_cons, not_or] at hp
    rw [List.cons_append, formatFrom_cons (Ne.symm hp.1), ih hp.2, Script.bind_assoc]
    rfl

/-- A conversion that is read takes the next argument. -/
theorem formatFrom_read {text rest : List Char} {spec : Spec} {v : Value} {vs : List Value}
    {m : Option Value} (hn : ∀ more, text ≠ '%' :: more)
    (hr : Spec.read s text = .ok (spec, ⟨v :: vs, m⟩, rest)) :
    formatFrom size s ('%' :: text) = (spec.convert (size - rest.length - 1) v).bind fun piece =>
      (Script.ofExcept (spec.place piece)).bind fun out =>
        (formatFrom size ⟨vs, m⟩ rest).bind fun more => .done (out ++ more) := by
  rw [formatFrom]
  · split
    · rename_i h
      cases hr.symm.trans h
    · rename_i h
      cases hr.symm.trans h
      rfl
  · exact hn

/-- A conversion letter with nothing before it. -/
def Spec.bare (c : Char) : Spec := ⟨{}, none, none, c⟩

theorem read_bare {c : Char} (hc : c = 's' ∨ c = 'd') (rest : List Char) :
    Spec.read s (c :: rest) = .ok (.bare c, s, rest) := by
  obtain rfl | rfl := hc <;> rfl

theorem place_bare (c : Char) (p : Piece) :
    (Spec.bare c).place p = .ok (p.sign ++ p.lead ++ p.body) := by
  simp [Spec.bare, Spec.place, Spec.layOut]

theorem formatFrom_bare {c : Char} (hc : c = 's' ∨ c = 'd') (v : Value) (vs : List Value)
    (m : Option Value) (rest : List Char) : formatFrom size ⟨v :: vs, m⟩ ('%' :: c :: rest) =
      ((Spec.bare c).convert (size - rest.length - 1) v).bind fun p =>
        (formatFrom size ⟨vs, m⟩ rest).bind fun out =>
          .done (p.sign ++ p.lead ++ p.body ++ out) := by
  have hn : ∀ more, c :: rest ≠ '%' :: more := by
    obtain rfl | rfl := hc <;> nofun
  rw [formatFrom_read hn (read_bare hc rest)]
  simp only [place_bare, Script.ofExcept, Script.bind]

theorem formatFrom_text (v : Value) (vs : List Value) (m : Option Value) (rest : List Char) :
    formatFrom size ⟨v :: vs, m⟩ ('%' :: 's' :: rest) = v.text.bind fun t =>
      (formatFrom size ⟨vs, m⟩ rest).bind fun out => .done (t.toList ++ out) := by
  rw [formatFrom_bare (.inl rfl)]
  simp only [Spec.convert, Spec.bare, Script.bind_assoc]
  rfl

theorem formatFrom_done {p : List Char} (hp : '%' ∉ p) (size : Nat) :
    formatFrom size ⟨[], none⟩ p = .done p := by
  have h : formatFrom size ⟨[], none⟩ (p ++ []) = _ := formatFrom_append hp []
  rw [List.append_nil] at h
  rw [h, formatFrom]
  simp [Supply.finish, Script.ofExcept, Script.bind]

theorem format_pair {text : String} {p q : List Char}
    (ht : text.toList = p ++ '%' :: 's' :: ':' :: '%' :: 's' :: q) (hp : '%' ∉ p) (hq : '%' ∉ q)
    (a b : Value) : format text (.tuple [a, b]) = a.text.bind fun s => b.text.bind fun t =>
      .done (String.ofList (p ++ (s.toList ++ ':' :: (t.toList ++ q)))) := by
  unfold format
  rw [ht, Supply.ofArgs, formatFrom_append hp, formatFrom_text, formatFrom_cons (by decide),
    formatFrom_text, formatFrom_done hq]
  simp only [Script.bind_assoc, Script.bind]

theorem baseDigits_decimal (n : Nat) :
    baseDigits 'd' n = (intText n).map fun t => ([], t.toList) := rfl

theorem integerPiece_bare (n : Nat) :
    integerPiece (.bare 'd') n = (intText n).map fun t => ⟨[], [], t.toList, true⟩ := by
  have hnatural : ¬ (n : Int) < 0 := Int.not_lt.mpr (Int.natCast_nonneg n)
  simp only [integerPiece, Spec.bare, Int.natAbs_natCast, baseDigits_decimal]
  generalize intText n = x
  cases x with
  | error f => rfl
  | ok t => simp [Except.map, signFor, withPrecision, hnatural]

theorem format_number {text : String} {p q : List Char}
    (ht : text.toList = p ++ '%' :: 'd' :: q) (hp : '%' ∉ p) (hq : '%' ∉ q) (n : Nat) :
    format text (.tuple [.int n]) =
      .ofExcept ((intText n).map fun t => String.ofList (p ++ (t.toList ++ q))) := by
  have hargument : decimalArgument 'd' (.int n) = .ok ↑n := rfl
  have hconvert : ∀ k, (Spec.bare 'd').convert k (.int n) =
      .ofExcept (integerPiece (.bare 'd') n) := by
    intro k
    simp only [Spec.convert, Spec.bare, hargument, Script.ofExcept, Script.bind]
  unfold format
  rw [ht, Supply.ofArgs, formatFrom_append hp, formatFrom_bare (.inr rfl), formatFrom_done hq,
    hconvert, integerPiece_bare]
  generalize intText n = x
  cases x with
  | error f => rfl
  | ok t => simp only [Except.map, Script.ofExcept, Script.bind, List.nil_append]

end Printf

open Act

variable {h : Hooks} {text : String} {p q : List Char}

/-- Only the log lines have changed. -/
def World.logged (w : World) (line : LogLine) : World :=
  { w with outside := { w.outside with logs := w.outside.logs ++ [line] } }

theorem words_ofExcept {α : Type} (x : Except Fault α) (w : World) :
    (words h (.ofExcept x)).perform w = (x, w) := by
  cases x <;> rfl

/-- A log line about a host and a port runs no errands. It fails where the port is too long. -/
theorem perform_logLine_pair (ht : text.toList = p ++ '%' :: 's' :: ':' :: '%' :: 's' :: q)
    (hp : '%' ∉ p) (hq : '%' ∉ q) (source : LogSource) (host : String) (port : Int) (w : World) :
    (logLine h source text [.str host, .int port]).perform w = match intText port with
      | .ok t => (.ok (), w.logged
          ⟨source, String.ofList (p ++ (host.toList ++ ':' :: (t.toList ++ q)))⟩)
      | .error f => (.error f, w) := by
  unfold logLine
  rw [Printf.format_pair ht hp hq, perform_bind]
  simp only [Value.text, Value.quoted]
  cases intText port <;> rfl

theorem perform_logLine_number (ht : text.toList = p ++ '%' :: 'd' :: q) (hp : '%' ∉ p)
    (hq : '%' ∉ q) (source : LogSource) (n : Nat) (w : World) :
    (logLine h source text [.int n]).perform w = match intText n with
      | .ok t => (.ok (), w.logged ⟨source, String.ofList (p ++ (t.toList ++ q))⟩)
      | .error f => (.error f, w) := by
  unfold logLine
  rw [Printf.format_number ht hp hq n, perform_bind, words_ofExcept]
  cases intText n <;> rfl

end Gelf
