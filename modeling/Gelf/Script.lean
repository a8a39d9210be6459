import Gelf.Value

/-!
# Gelf.Script

Work on values that may turn to the world outside: asking an object for its text can run an
errand, rendering can report a failure, and building a message can ask for the local host's name.

* `Request`: what is asked of the world; `Request.Answer`: the type of the answer.
* `Script`: work that ends with a result or a fault, after any number of requests.
* `Script.run`: a script where every request is answered at once from a state.
* `Script.quiet`: a script whose requests all succeed and change nothing.
-/

namespace Gelf

inductive Request where
  | errand (e : Errand)
  /-- To tell that a message could not be formatted. -/
  | unformatted (raw : String) (f : Fault)
  | localHost

abbrev Request.Answer : Request → Type
  | .errand _ => Unit
  | .unformatted _ _ => Unit
  | .localHost => Option String

inductive Script (α : Type) : Type where
  | done (a : α)
  | fail (f : Fault)
  | ask (q : Request) (next : Except Fault q.Answer → Script α)

namespace Script

def bind {α β : Type} : Script α → (α → Script β) → Script β
  | .done a, k => k a
  | .fail f, _ => .fail f
  | .ask q next, k => .ask q fun r => (next r).bind k

instance : Monad Script where
  pure := .done
  bind := bind

def ofExcept {α : Type} : Except Fault α → Script α
  | .ok a => .done a
  | .error f => .fail f

/-- Goes on with `k` where the script fails, whenever that happens. -/
def recover {α : Type} : Script α → (Fault → Script α) → Script α
  | .done a, _ => .done a
  | .fail f, k => k f
  | .ask q next, k => .ask q fun r => (next r).recover k

/-- Makes one request; a fault that answers it becomes the script's own. -/
def request (q : Request) : Script q.Answer :=
  .ask q fun r => ofExcept r

/-- Answers every request from a state, in order. -/
def run {σ α : Type} (answer : (q : Request) → σ → Except Fault q.Answer × σ) :
    Script α → σ → Except Fault α × σ
  | .done a, s => (.ok a, s)
  | .fail f, s => (.error f, s)
  | .ask q next, s =>
    match answer q s with
    | (r, s') => (next r).run answer s'

def quietAnswer : (q : Request) → Except Fault q.Answer
  | .errand _ => .ok ()
  | .unformatted _ _ => .ok ()
  | .localHost => .ok none

def quiet {α : Type} : Script α → Except Fault α
  | .done a => .ok a
  | .fail f => .error f
  | .ask q next => (next (quietAnswer q)).quiet

theorem bind_done {α : Type} (s : Script α) : s.bind .done = s := by
  induction s with
  | done a => rfl
  | fail f => rfl
  | ask q next ih => simp [bind, ih]

theorem bind_assoc {α β γ : Type} (s : Script α) (f : α → Script β) (g : β → Script γ) :
    (s.bind f).bind g = s.bind fun a => (f a).bind g := by
  induction s with
  | done a => rfl
  | fail f => rfl
  | ask q next ih => simp [bind, ih]

instance : LawfulMonad Script :=
  LawfulMonad.mk' Script (fun s => bind_done s) (fun _ _ => rfl) bind_assoc

end Script

end Gelf
