import Gelf.Value.Number

/-!
# Gelf.Value.Entries

Dictionaries: members in the order in which their keys first came.

* `Value.sameKey`: do two values name the same member? Numbers are compared by their value.
* `Value.checkKey`: can a value name a member at all?
* `Entries.get?`, `Entries.put`: a put on a key that is there keeps its place.
-/

namespace Gelf

open Gelf.Number

/-- A number as an exact integer, if it is one; a truth value counts as 0 or 1. -/
def Value.wholeNumber? : Value → Option Int
  | .bool b => some (if b then 1 else 0)
  | .int n => some n
  | .float x => exactInt? x
  | _ => none

mutual

/-- Objects are the same member only when they are one object, and no two values here share one. -/
def Value.sameKey : Value → Value → Bool
  | .null, .null => true
  | .str s, .str t => s == t
  | .bytes s, .bytes t => s == t
  | .tuple xs, .tuple ys => sameKeys xs ys
  | .float x, .float y => x == y
  | a, b =>
    match a.wholeNumber?, b.wholeNumber? with
    | some m, some n => m == n
    | _, _ => false

def sameKeys : List Value → List Value → Bool
  | [], [] => true
  | a :: as, b :: bs => Value.sameKey a b && sameKeys as bs
  | _, _ => false

end

mutual

/-- Only what cannot change may be looked up. -/
def Value.checkKey : Value → Except Fault Unit
  | .list _ => raise (.unhashable "list")
  | .dict _ => raise (.unhashable "dict")
  | .tuple xs => checkKeys xs
  | _ => .ok ()

def checkKeys : List Value → Except Fault Unit
  | [] => .ok ()
  | v :: rest =>
    match Value.checkKey v with
    | .ok () => checkKeys rest
    | .error f => .error f

end

namespace Entries

def get? : Entries → Value → Option Value
  | [], _ => none
  | (k', v) :: rest, k => if k'.sameKey k then some v else get? rest k

def has (es : Entries) (k : Value) : Bool := List.any es fun e => e.1.sameKey k

/-- The first key stays, with its place; the last value wins. -/
def put : Entries → Value → Value → Entries
  | [], k, v => [(k, v)]
  | (k', v') :: rest, k, v =>
    if k'.sameKey k then (k', v) :: rest else (k', v') :: put rest k v

def ofList (pairs : List (Value × Value)) : Entries :=
  pairs.foldl (fun es e => es.put e.1 e.2) []

theorem mem_of_get? {es : Entries} {k v : Value} (h : es.get? k = some v) : ∃ l, (l, v) ∈ es := by
  induction es with
  | nil => cases h
  | cons e rest ih =>
    obtain ⟨l, u⟩ := e
    rw [get?] at h
    split at h
    · cases h
      exact ⟨l, List.mem_cons_self⟩
    · obtain ⟨l', hl'⟩ := ih h
      exact ⟨l', List.mem_cons_of_mem _ hl'⟩

end Entries

/-- The item at a place, counted from zero; a dictionary is asked for the member that the number names. -/
def Value.itemAt (v : Value) (n : Nat) : Except Fault Value :=
  let among (items : List Value) (missing : Defect) : Except Fault Value :=
    match items[n]? with
    | some v => .ok v
    | none => raise missing
  match v with
  | .str _ => among v.items (.indexRange "string ")
  | .bytes _ => among v.items (.indexRange "")
  | .list xs => among xs (.indexRange "list ")
  | .tuple xs => among xs (.indexRange "tuple ")
  | .dict es =>
    match Entries.get? es (.int n) with
    | some v => .ok v
    | none => raise (.missingKey (.int n))
  | .faultClass k => raise (.noClassSubscript k.name)
  | v => raise (.noSubscript v.className)

/-- Members whose keys are texts, in the order in which the keys first came. -/
abbrev Named (α : Type) := List (String × α)

namespace Named

variable {α : Type}

def get? : Named α → String → Option α
  | [], _ => none
  | (k', v) :: rest, k => if k' == k then some v else get? rest k

def has (ns : Named α) (k : String) : Bool := List.any ns fun n => n.1 == k

def put : Named α → String → α → Named α
  | [], k, v => [(k, v)]
  | (k', v') :: rest, k, v => if k' == k then (k', v) :: rest else (k', v') :: put rest k v

def ofList (pairs : List (String × α)) : Named α :=
  pairs.foldl (fun ns n => ns.put n.1 n.2) []

def update (ns : Named α) (more : List (String × α)) : Named α :=
  more.foldl (fun ns n => ns.put n.1 n.2) ns

def erase (ns : Named α) (k : String) : Named α := List.filter (fun n => n.1 != k) ns

def toValue (ns : Named Value) : Value := .dict (ns.map fun n => (.str n.1, n.2))

theorem get?_put_self (ns : Named α) (k : String) (v : α) : (ns.put k v).get? k = some v := by
  induction ns with
  | nil => simp [put, get?]
  | cons n rest ih =>
    obtain ⟨k', v'⟩ := n
    by_cases h : k' = k <;> simp [put, get?, h, ih]

theorem get?_put_of_ne (ns : Named α) {k k' : String} (v : α) (h : k' ≠ k) :
    (ns.put k v).get? k' = ns.get? k' := by
  induction ns with
  | nil => simp [put, get?, Ne.symm h]
  | cons n rest ih =>
    obtain ⟨l, w⟩ := n
    by_cases hl : l = k
    · subst hl
      simp [put, get?, Ne.symm h]
    · by_cases hk : l = k' <;> simp [put, get?, hl, hk, ih]
      simp [hk ▸ hl, get?]

theorem put_put (ns : Named α) (k : String) (v u : α) : (ns.put k v).put k u = ns.put k u := by
  induction ns with
  | nil => simp [put]
  | cons n rest ih =>
    by_cases h : n.1 = k <;> simp [put, h, ih]

/-- A member that is there keeps its place, whatever was put after it. -/
theorem put_put_of_ne (ns : Named α) {k l : String} (h : k ≠ l) (v u x : α) :
    ((ns.put k v).put l x).put k u = (ns.put k u).put l x := by
  induction ns with
  | nil => simp [put, h]
  | cons n rest ih =>
    by_cases hk : n.1 = k
    · have hl : n.1 ≠ l := fun hl => h (hk.symm.trans hl)
      simp [put, hk, h]
    · by_cases hl : n.1 = l
      · simp [put, put_put, hl, Ne.symm h]
      · simp [put, hk, hl, ih]

theorem mem_of_get? {ns : Named α} {k : String} {v : α}
    (h : ns.get? k = some v) : (k, v) ∈ ns := by
  induction ns with
  | nil => cases h
  | cons n rest ih =>
    unfold get? at h
    split at h
    · rename_i hk
      cases h
      rw [← beq_iff_eq.mp hk]
      exact List.mem_cons_self
    · exact List.mem_cons_of_mem _ (ih h)

theorem mem_put {ns : Named α} {k : String} {v : α} {n : String × α} (h : n ∈ ns.put k v) :
    n = (k, v) ∨ n ∈ ns := by
  induction ns with
  | nil => exact .inl (List.mem_singleton.mp h)
  | cons m rest ih =>
    unfold put at h
    split at h
    · rename_i hk
      rw [beq_iff_eq.mp hk] at h
      exact (List.mem_cons.mp h).imp_right (List.mem_cons_of_mem _)
    · cases List.mem_cons.mp h with
      | inl h => exact .inr (h ▸ List.mem_cons_self)
      | inr h => exact (ih h).imp_right (List.mem_cons_of_mem _)

theorem mem_update {ns : Named α} {more : List (String × α)} {n : String × α}
    (h : n ∈ ns.update more) : n ∈ more ∨ n ∈ ns := by
  induction more generalizing ns with
  | nil => exact .inr h
  | cons m rest ih =>
    have hrest : n ∈ (ns.put m.1 m.2).update rest := h
    obtain h | h := ih hrest
    · exact .inl (List.mem_cons_of_mem _ h)
    · exact (mem_put h).imp_left fun (hn : n = m) => hn ▸ List.mem_cons_self

end Named

end Gelf
