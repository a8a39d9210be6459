import Gelf.Proofs.Building
import Gelf.Proofs.FieldNames
import Mathlib.Data.List.Perm.Subperm

/-!
# Gelf.Proofs.Rows

Rows of variables, told apart by a number at the end of their names.

* `Environment.held?`: what a variable holds, if it is set.
* `Environment.Enumerates`: a loop that goes along a row until a variable is unset, and has no other
  end.
* `exists_unset`: different numbers make different names, so a row has an unset variable before there
  are more of them than variables. `Enumerates.exists_of_unset`: the loop ends there at the latest.
* `indexedFrom_of_enumerates`: counting the variables first changes nothing.
* `row_enumerated`: what is read from a row, and where it ends.
-/

namespace Gelf

open Script

namespace Environment

variable {env : Environment} {name : String} {k n count : Nat} {vs ws : List Value}

/-- What a variable holds, if it is set. -/
def held? (env : Environment) (name : String) : Option Value :=
  (env.settings.get? (env.mark ++ name)).filter fun v => !v.isNull

/-- The variable of a row that has this number. -/
def inRow (name : String) (k : Nat) : String := name ++ "_" ++ toString k

/-- A loop along a row, from a number on: it ends at the first variable that is unset, and has gone
past these values then. -/
inductive Enumerates (env : Environment) (name : String) : Nat → List Value → Prop where
  | unset {k : Nat} (h : env.held? (inRow name k) = none) : Enumerates env name k []
  | set {k : Nat} {v : Value} {vs : List Value} (h : env.held? (inRow name k) = some v)
      (hrest : Enumerates env name (k + 1) vs) : Enumerates env name k (v :: vs)

/-! ## Names in a row -/

theorem inRow_injective (name : String) : Function.Injective (inRow name) := by
  intro i j h
  have hdigits : (Nat.repr i).toList = (Nat.repr j).toList :=
    congrArg String.toList ((String.append_right_inj _).mp h)
  rw [Nat.toList_repr, Nat.toList_repr] at hdigits
  have hvalue := congrArg (Nat.ofDigitChars 10 · 0) hdigits
  simpa using hvalue

/-- Names that all stand in a list are no more than the list has places. -/
theorem le_of_inRow_mem {before : String} {l : List String}
    (h : ∀ i < n, before ++ inRow name i ∈ l) : n ≤ l.length := by
  have hnodup : ((List.range n).map fun i => before ++ inRow name i).Nodup :=
    List.nodup_range.map fun i j he => inRow_injective name ((String.append_right_inj _).mp he)
  have hsubset : ((List.range n).map fun i => before ++ inRow name i) ⊆ l := by
    intro s hs
    obtain ⟨i, hi, rfl⟩ := List.mem_map.mp hs
    exact h i (List.mem_range.mp hi)
  have hle := (List.subperm_of_subset hnodup hsubset).length_le
  rwa [List.length_map, List.length_range] at hle

theorem mem_names_of_held {v : Value} (h : env.held? name = some v) :
    env.mark ++ name ∈ env.settings.names := by
  have hget : env.settings.get? (env.mark ++ name) = some v := (Option.filter_eq_some_iff.mp h).1
  exact List.mem_map_of_mem (Named.mem_of_get? hget)

/-- Were all of them set, there would be more of them than there are variables. -/
theorem exists_unset (env : Environment) (name : String) : ∃ n, env.held? (inRow name n) = none := by
  by_contra hall
  rw [not_exists] at hall
  have hle : env.settings.names.length + 1 ≤ env.settings.names.length := by
    refine @le_of_inRow_mem name _ env.mark _ fun i _ => ?_
    obtain ⟨v, hv⟩ := Option.ne_none_iff_exists'.mp (hall i)
    exact mem_names_of_held hv
  omega

/-! ## The loop -/

namespace Enumerates

/-- By induction on how far the unset variable is away. -/
theorem exists_of_unset (h : env.held? (inRow name (k + n)) = none) :
    ∃ vs, Enumerates env name k vs := by
  induction n generalizing k with
  | zero => exact ⟨[], .unset h⟩
  | succ n ih =>
    cases hk : env.held? (inRow name k) with
    | none => exact ⟨[], .unset hk⟩
    | some v =>
      obtain ⟨vs, hvs⟩ := @ih (k + 1) (by rwa [Nat.add_right_comm])
      exact ⟨v :: vs, .set hk hvs⟩

theorem unique (h : Enumerates env name k vs) (h' : Enumerates env name k ws) : ws = vs := by
  induction h generalizing ws with
  | unset hn =>
    cases h' with
    | unset _ => rfl
    | set hv _ =>
      rw [hn] at hv
      cases hv
  | set hv _ ih =>
    cases h' with
    | unset hn =>
      rw [hn] at hv
      cases hv
    | set hv' hrest =>
      rw [hv] at hv'
      cases hv'
      rw [ih hrest]

/-- By induction on the loop: it has gone past what the variables hold, in order. -/
theorem values_eq (h : Enumerates env name k vs) :
    ((List.range' k vs.length).map fun i => env.held? (inRow name i)) = vs.map some ∧
      env.held? (inRow name (k + vs.length)) = none := by
  induction h with
  | unset hn => exact ⟨rfl, hn⟩
  | @set k v vs hv _ ih =>
    obtain ⟨hvalues, hend⟩ := ih
    refine ⟨?_, ?_⟩
    · rw [List.length_cons, List.range'_succ, List.map_cons, hv, hvalues, List.map_cons]
    · rwa [List.length_cons, ← Nat.succ_add_eq_add_succ]

end Enumerates

theorem Enumerates.length_le (h : Enumerates env name 0 vs) {l : List String}
    (hl : env.settings.names ⊆ l) : vs.length ≤ l.length := by
  refine @le_of_inRow_mem name _ env.mark _ fun i hi => hl ?_
  have hvalue : env.held? (inRow name i) = some vs[i] := by
    simpa [hi] using congrArg (·[i]?) h.values_eq.1
  exact mem_names_of_held hvalue

theorem lookUp_unset (h : env.held? name = none) : env.lookUp name = .done none := by
  unfold lookUp
  unfold held? at h
  cases hv : env.settings.get? (env.mark ++ name) with
  | none => rfl
  | some v =>
    rw [hv] at h
    cases v with
    | null => rfl
    | _ => cases h

theorem lookUp_set {v : Value} (h : env.held? name = some v) :
    env.lookUp name = v.text.bind fun s => .done (some s) := by
  obtain ⟨hget, hnull⟩ := Option.filter_eq_some_iff.mp h
  unfold lookUp
  rw [hget]
  cases v with
  | null => cases hnull
  | _ => rfl

/-- By induction on the loop: if the count does not end it, it asks all values for their texts. -/
theorem indexedFrom_of_enumerates (h : Enumerates env name k vs) (hc : vs.length ≤ count) :
    env.indexedFrom name count k = vs.mapM Value.text := by
  induction h generalizing count with
  | @unset k hn =>
    cases count with
    | zero => rfl
    | succ count =>
      have hend : env.lookUp (name ++ "_" ++ toString k) = .done none := lookUp_unset hn
      rw [indexedFrom, hend]
      rfl
  | @set k v vs hv _ ih =>
    cases count with
    | zero => cases hc
    | succ count =>
      have hvalue : env.lookUp (name ++ "_" ++ toString k) =
          v.text.bind fun s => .done (some s) := lookUp_set hv
      rw [indexedFrom, hvalue, Script.bind_assoc, List.mapM_cons,
        ← ih (Nat.le_of_succ_le_succ hc)]
      rfl

theorem held_textual (he : env.Textual) {v : Value} (h : env.held? name = some v) :
    ∃ s, v = .str s := by
  have hget : env.settings.get? (env.mark ++ name) = some v := (Option.filter_eq_some_iff.mp h).1
  exact he _ (Named.mem_of_get? hget)

theorem Enumerates.textual (he : env.Textual) (h : Enumerates env name k vs) :
    ∃ ss : List String, vs = ss.map .str := by
  induction h with
  | unset _ => exact ⟨[], rfl⟩
  | set hv _ ih =>
    obtain ⟨s, rfl⟩ := held_textual he hv
    obtain ⟨ss, rfl⟩ := ih
    exact ⟨s :: ss, rfl⟩

theorem mapM_text (ss : List String) : (ss.map Value.str).mapM Value.text = Script.done ss := by
  induction ss with
  | nil => rfl
  | cons s rest ih =>
    rw [List.map_cons, List.mapM_cons, ih, Value.text]
    rfl

/-- A row ends at its first unset variable, which comes before there are more of them than variables:
a loop that goes along the row stops there, and nowhere else. What is read are the values of all
variables up to it, in order and none left out, each as its text. Whatever a variable holds, be it
blank, it is read if it and all before it are set. Where all variables are texts, they are read as
they are. -/
theorem row_enumerated (env : Environment) (name : String) :
    ∃ vs : List Value,
      (∀ ws, Enumerates env name 0 ws ↔ ws = vs) ∧
      env.indexed name = vs.mapM Value.text ∧
      ((List.range vs.length).map fun i => env.held? (inRow name i)) = vs.map some ∧
      env.held? (inRow name vs.length) = none ∧
      vs.length ≤ env.settings.names.eraseDups.length ∧
      (∀ i, (∀ j ≤ i, (env.held? (inRow name j)).isSome) → i < vs.length) ∧
      (env.Textual → ∃ ss : List String, vs = ss.map .str ∧ env.indexed name = .done ss) := by
  obtain ⟨n, hn⟩ := exists_unset env name
  obtain ⟨vs, hvs⟩ := @Enumerates.exists_of_unset env name 0 n (by rwa [Nat.zero_add])
  obtain ⟨hvalues, hend⟩ := hvs.values_eq
  rw [← List.range_eq_range'] at hvalues
  rw [Nat.zero_add] at hend
  -- the count that is read with is not what ends the reading
  have hcount : vs.length ≤ env.settings.length := by
    simpa [Named.names] using hvs.length_le (List.Subset.refl _)
  have hread : env.indexed name = vs.mapM Value.text := indexedFrom_of_enumerates hvs hcount
  refine ⟨vs, fun ws => ⟨hvs.unique, fun h => h ▸ hvs⟩, hread, hvalues, hend, ?_, ?_, ?_⟩
  · exact hvs.length_le fun s hs => List.mem_eraseDups.mpr hs
  · intro i hset
    by_contra hi
    have hsome := hset vs.length (Nat.le_of_not_lt hi)
    rw [hend] at hsome
    cases hsome
  · intro he
    obtain ⟨ss, rfl⟩ := hvs.textual he
    exact ⟨ss, rfl, hread.trans (mapM_text ss)⟩

/-- A blank variable between two others, and one after a gap. -/
def gapped : Environment :=
  ⟨[("GELF_F_3", .str "d=4"), ("GELF_F_1", .str " "), ("GELF_F_0", .str "a=1"),
    ("GELF_F_10", .str "k=2")], standardMark⟩

theorem row_enumerated_gapped : gapped.Textual ∧ Enumerates gapped "F" 0 [.str "a=1", .str " "] ∧
    gapped.indexed "F" = .done ["a=1", " "] := by
  have htextual : gapped.Textual := by
    intro n hn
    simp only [gapped, List.mem_cons, List.not_mem_nil, or_false] at hn
    rcases hn with rfl | rfl | rfl | rfl <;> exact ⟨_, rfl⟩
  have hrow : Enumerates gapped "F" 0 [.str "a=1", .str " "] :=
    .set rfl (.set rfl (.unset rfl))
  obtain ⟨vs, hloop, -, -, -, -, -, htexts⟩ := row_enumerated gapped "F"
  obtain ⟨ss, hss, hread⟩ := htexts htextual
  have hvalues : ss.map Value.str = ["a=1", " "].map Value.str :=
    hss.symm.trans ((hloop _).mp hrow).symm
  have hinj : Function.Injective Value.str := fun _ _ h => Value.str.inj h
  refine ⟨htextual, hrow, ?_⟩
  rw [hread, hinj.list_map hvalues]

end Environment

end Gelf
