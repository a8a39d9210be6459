import Gelf.Proofs.Fresh

/-!
# Gelf.Proofs.Building

Handlers that are built from environment variables.

* `Environment.chosen`: what the variables say about each setting. `ofEnvironment_eq`: that is what
  the handler is set up with.
* `Environment.Unread`: a setting whose variable is unset, blank or not readable.
  `chosen_of_unread`: it has its default.
* `Act.Candid`: work that fails just if a report fails for good.
* `Buildable`: what the variables must not do. `built_iff`: a handler is built if they do none of
  it, and no report fails for good.
-/

namespace Gelf

open Act

/-! ## What the variables say -/

/-- The variable of a setting; the static fields have a row of them, told apart by a number. -/
def Setting.variable : Setting → String
  | .host => "HOST"
  | .port => "PORT"
  | .originHost => "ORIGIN_HOST"
  | .facility => "FACILITY"
  | .extractStacktrace => "EXTRACT_STACKTRACE"
  | .level => "LEVEL"
  | .contextKey => "MDC_TAG"
  | .staticFields => "ADDITIONAL_FIELD"
  | .instanceName => "INSTANCE_NAME"
  | .filterClass => "FILTER_CLASS"
  | .senderClass => "SENDER_CLASS"
  | .timeout => "TIMEOUT"

/-- What a setting makes of a text, if it can be read. -/
def Setting.readText : Setting → String → Option Value
  | .port, s => (Value.str s).toInt.toOption.map .int
  | .timeout, s => (Value.str s).toFloat.toOption.map .float
  | .extractStacktrace, s => (Environment.readFlag s).map .bool
  | .level, s => some (.str (LevelNames.strippedUpper s))
  | _, s => some (.str s)

namespace Environment

/-- All variables are texts. -/
def Textual (env : Environment) : Prop := ∀ n ∈ env.settings, ∃ s, n.2 = .str s

/-- What a variable is set to. -/
def value? (env : Environment) (name : String) : Option String :=
  match env.settings.get? (env.mark ++ name) with
  | some (.str s) => some s
  | _ => none

/-- What a variable says, where it is not blank. -/
def says? (env : Environment) (name : String) : Option String :=
  (env.value? name).filter fun s => !Text.isBlankText s.toList

/-- The values of a row of variables from index `k` on, up to the first unset one. -/
def rowFrom (env : Environment) (name : String) : Nat → Nat → List String
  | 0, _ => []
  | count + 1, k =>
    match env.value? (name ++ "_" ++ toString k) with
    | some s => s :: env.rowFrom name count (k + 1)
    | none => []

/-- What a handler is set up with under these variables. -/
def chosen (env : Environment) : Setting → Value
  | .staticFields => fieldsValue
      ((env.rowFrom Setting.staticFields.variable env.settings.length 0).foldl addFieldText [])
  | s => ((env.says? s.variable).bind s.readText).getD (defaultValue s)

variable {env : Environment}

theorem lookUp_eq (he : env.Textual) (name : String) :
    env.lookUp name = .done (env.value? name) := by
  unfold lookUp value?
  cases h : env.settings.get? (env.mark ++ name) with
  | none => rfl
  | some v =>
    obtain ⟨s, hs⟩ := he _ (Named.mem_of_get? h)
    dsimp only at hs
    rw [hs]
    rfl

theorem text_eq (he : env.Textual) (name : String) : env.text name = .done (env.says? name) := by
  unfold text says?
  rw [lookUp_eq he]
  cases env.value? name with
  | none => rfl
  | some s =>
    cases h : Text.isBlankText s.toList with
    | true => simp [Script.bind, Option.filter, h]
    | false => simp [Script.bind, Option.filter, h]

theorem int_eq (he : env.Textual) (name : String) (d : Value) : env.int name d =
    .done (((env.says? name).bind fun s => (Value.str s).toInt.toOption.map .int).getD d) := by
  unfold int
  rw [text_eq he]
  cases env.says? name with
  | none => rfl
  | some s =>
    dsimp only [Script.bind, Option.bind_some]
    cases (Value.str s).toInt <;> rfl

theorem float_eq (he : env.Textual) (name : String) (d : Value) : env.float name d =
    .done (((env.says? name).bind fun s => (Value.str s).toFloat.toOption.map .float).getD d) := by
  unfold float
  rw [text_eq he]
  cases env.says? name with
  | none => rfl
  | some s =>
    dsimp only [Script.bind, Option.bind_some]
    cases (Value.str s).toFloat <;> rfl

theorem flag_eq (he : env.Textual) (name : String) (d : Value) : env.flag name d =
    .done (((env.says? name).bind fun s => (readFlag s).map .bool).getD d) := by
  unfold flag
  rw [text_eq he]
  cases env.says? name with
  | none => rfl
  | some s =>
    dsimp only [Script.bind, Option.bind_some]
    cases readFlag s <;> rfl

theorem indexedFrom_eq (he : env.Textual) (name : String) (count k : Nat) :
    env.indexedFrom name count k = .done (env.rowFrom name count k) := by
  induction count generalizing k with
  | zero => rfl
  | succ count ih =>
    rw [indexedFrom, rowFrom, lookUp_eq he, Script.bind]
    cases env.value? (name ++ "_" ++ toString k) with
    | none => rfl
    | some s =>
      dsimp only
      rw [ih]
      rfl

theorem textOrNull_eq (o : Option String) :
    textOrNull o = (o.bind fun s => some (.str s)).getD .null := by
  cases o <;> rfl

theorem ofEnvironment_eq (he : env.Textual) : Config.ofEnvironment env = .done ⟨env.chosen⟩ := by
  unfold Config.ofEnvironment indexed
  simp only [text_eq he, int_eq he, float_eq he, flag_eq he, indexedFrom_eq he]
  refine congrArg (Script.done ∘ Config.mk) (funext fun s => ?_)
  cases s with
  | level =>
    dsimp only [chosen, Setting.variable]
    cases env.says? "LEVEL" <;> rfl
  | contextKey =>
    dsimp only [chosen, Setting.variable]
    cases env.says? "MDC_TAG" <;> rfl
  | port | timeout | extractStacktrace | staticFields => rfl
  | _ => exact textOrNull_eq _

/-! ## Defaults -/

/-- Can the setting be read from the text? The name of a level has to be registered. -/
def reads (levels : LevelNames) : Setting → String → Bool
  | .level, s => (Entries.get? levels.numbers (.str (LevelNames.strippedUpper s))).isSome
  | .staticFields, s => s.toList.contains '='
  | setting, s => (setting.readText s).isSome

/-- The setting's variable is unset, or blank, or cannot be read. -/
def Unread (env : Environment) (levels : LevelNames) : Setting → Prop
  | .staticFields => ∀ (k : Nat) (s : String),
      (∀ j ≤ k, (env.value? ("ADDITIONAL_FIELD_" ++ toString j)).isSome) →
      env.value? ("ADDITIONAL_FIELD_" ++ toString k) = some s → reads levels .staticFields s = false
  | setting => ∀ s, env.says? setting.variable = some s → reads levels setting s = false

theorem mem_rowFrom {name s : String} {count k : Nat} (h : s ∈ env.rowFrom name count k) :
    ∃ i, k ≤ i ∧ (∀ j, k ≤ j → j ≤ i → (env.value? (name ++ "_" ++ toString j)).isSome) ∧
      env.value? (name ++ "_" ++ toString i) = some s := by
  induction count generalizing k with
  | zero => cases h
  | succ count ih =>
    rw [rowFrom] at h
    split at h
    · rename_i t ht
      have hk : (env.value? (name ++ "_" ++ toString k)).isSome := by rw [ht]; rfl
      cases h with
      | head =>
        refine ⟨k, Nat.le_refl k, fun j hj hi => ?_, ht⟩
        rwa [Nat.le_antisymm hi hj]
      | tail _ h =>
        obtain ⟨i, hi, hset, hs⟩ := ih h
        refine ⟨i, by omega, fun j hj hji => ?_, hs⟩
        by_cases he : j = k
        · rwa [he]
        · exact hset j (by omega) hji
    · cases h

/-- Texts without an equals sign say nothing about static fields. -/
theorem foldl_addFieldText {entries : List String} (h : ∀ s ∈ entries, '=' ∉ s.toList)
    (fields : Named String) : entries.foldl addFieldText fields = fields := by
  induction entries with
  | nil => rfl
  | cons s rest ih =>
    have hs : addFieldText fields s = fields := by
      unfold addFieldText
      split
      · rename_i hcut
        have hmem := (Text.splitFirst_eq_some_iff.mp hcut).1
        exact absurd (hmem ▸ by simp) (h s List.mem_cons_self)
      · rfl
    rw [List.foldl_cons, hs]
    exact ih fun t ht => h t (List.mem_cons_of_mem _ ht)

/-- A setting whose variable says nothing has its default, if the level that was chosen is known. -/
theorem chosen_of_unread {levels : LevelNames}
    (hlevel : (Entries.get? levels.numbers (env.chosen .level)).isSome) {setting : Setting}
    (hu : env.Unread levels setting) : env.chosen setting = defaultValue setting := by
  have hnone : ∀ {read : String → Option Value} {o : Option String} {d : Value},
      (∀ s, o = some s → (read s).isSome = false) → (o.bind read).getD d = d := by
    intro read o d h
    cases o with
    | none => rfl
    | some s =>
      rw [Option.bind_some, Option.isNone_iff_eq_none.mp (Option.isSome_eq_false_iff.mp (h s rfl))]
      rfl
  cases setting with
  | level =>
    cases hs : env.says? "LEVEL" with
    | none =>
      dsimp only [chosen, Setting.variable]
      rw [hs]
      rfl
    | some s =>
      dsimp only [chosen, Setting.variable] at hlevel
      rw [hs] at hlevel
      exact absurd hlevel (Bool.eq_false_iff.mp (hu s hs))
  | staticFields =>
    refine congrArg fieldsValue (foldl_addFieldText (fun s hs => ?_) [])
    obtain ⟨i, -, hset, hi⟩ := mem_rowFrom hs
    have hno := hu i s (fun j hj => hset j (Nat.zero_le j) hj) hi
    rwa [reads, List.contains_eq_mem, decide_eq_false_iff_not] at hno
  | _ => exact hnone hu

end Environment

/-! ## Work that fails with its reports only -/

/-- The history grows, and the work fails just if a report fails for good. -/
def Act.Candid {α : Type} (a : Act α) (w : World) : Prop :=
  ∃ ds, (a.perform w).2.history = w.history ++ ds ∧
    ((∃ x, (a.perform w).1 = .ok x) ↔ ∀ r, Deed.escaped r ∉ ds)

namespace Act

variable {α β : Type} {w : World}

theorem candid_ok {a : Act α} {x : α} (h : (a.perform w).1 = .ok x)
    (hh : (a.perform w).2.history = w.history) : a.Candid w :=
  ⟨[], by rw [hh, List.append_nil], fun _ => nofun, fun _ => ⟨x, h⟩⟩

theorem candid_bind {a : Act α} {k : α → Act β} (ha : a.Candid w)
    (hk : ∀ x w', a.perform w = (.ok x, w') → (k x).Candid w') : (a >>= k).Candid w := by
  obtain ⟨ds, hds, hiff⟩ := ha
  unfold Candid
  rw [perform_bind]
  cases h : a.perform w with
  | mk x w' =>
    rw [h] at hds hiff
    cases x with
    | error f =>
      refine ⟨ds, hds, nofun, fun hn => ?_⟩
      obtain ⟨_, hx⟩ := hiff.mpr hn
      cases hx
    | ok x =>
      obtain ⟨ds', hds', hiff'⟩ := hk x w' h
      refine ⟨ds ++ ds', by rw [hds', hds, List.append_assoc], ?_⟩
      have hn := hiff.mp ⟨x, rfl⟩
      rw [hiff']
      simp only [List.mem_append, not_or]
      exact ⟨fun hn' r => ⟨hn r, hn' r⟩, fun hn' r => (hn' r).2⟩

end Act

namespace Handler

/-! ## Loading what a path names -/

/-- A path that begins with a dot and has another one, as a relative module name would. -/
def Relative (path : String) : Prop := ∃ rest, path.toList = '.' :: rest ∧ '.' ∈ rest

/-- A failure to load that is reported. -/
def Foreseen (f : Fault) : Prop :=
  (f.isA "ImportError" || f.isA "AttributeError" || f.isA "ValueError") = true

theorem not_foreseen_relativePath (q : String) : ¬ Foreseen (Defect.relativePath q).toFault :=
  Bool.false_ne_true

/-- Loading modules one after another comes to this one and runs it. -/
inductive Runs (c : Catalog) : Option ModuleEntry → List String → ModuleEntry → Prop
  | now {parent : Option ModuleEntry} {name : String} {rest : List String} {m : ModuleEntry} :
      parent.filter (!·.isPackage) = none → c.find? name = some m → Runs c parent (name :: rest) m
  | later {parent : Option ModuleEntry} {name : String} {rest : List String} {m m' : ModuleEntry} :
      c.loadOne parent name = .ok m → Runs c (some m) rest m' → Runs c parent (name :: rest) m'

/-- A path that can be loaded, or fails to be as is foreseen: it is not a relative one, no module on the
way to what it names fails otherwise when it is run, and neither does the last one of them when it is
asked for the name. -/
structure Foreseeable (c : Catalog) (path : String) : Prop where
  absolute : ¬ Relative path
  runs : ∀ home name, Catalog.halves? path = some (home, name) →
    ∀ m, Runs c none (Catalog.parents home) m → ∀ f, m.fault? = some f → Foreseen f
  lookUp : ∀ home name, Catalog.halves? path = some (home, name) →
    ∀ m, c.loadModule home = .ok m → ∀ f, c.member? m name = .error f → Foreseen f

section

variable {c : Catalog} {path : String} {f : Fault} {parent : Option ModuleEntry} {names : List String}

/-- A module cannot be loaded because there is none, or because it does not run through. -/
theorem loadOne_error {name : String} (h : c.loadOne parent name = .error f) : Foreseen f ∨
    ∃ m, parent.filter (!·.isPackage) = none ∧ c.find? name = some m ∧ m.fault? = some f := by
  unfold Catalog.loadOne at h
  split at h
  · cases h
    exact .inl rfl
  · cases h
    exact .inl rfl
  · rename_i m hp hm
    split at h
    · rename_i hfault
      cases h
      exact .inr ⟨m, hp, hm, hfault⟩
    · cases h

/-- By induction along the modules: the first that fails is the last one to be run. -/
theorem loadAll_error (h : c.loadAll parent names = .error f) :
    Foreseen f ∨ ∃ m, Runs c parent names m ∧ m.fault? = some f := by
  induction names generalizing parent with
  | nil => cases h
  | cons name rest ih =>
    unfold Catalog.loadAll at h
    split at h
    · rename_i m hm
      exact (ih h).imp_right fun ⟨m', hr, hf⟩ => ⟨m', .later hm hr, hf⟩
    · rename_i g hg
      cases h
      exact (loadOne_error hg).imp_right fun ⟨m, hp, hm, hf⟩ => ⟨m, .now hp hm, hf⟩

theorem Runs.loadAll {m : ModuleEntry} (h : Runs c parent names m) (hf : m.fault? = some f) :
    c.loadAll parent names = .error f := by
  induction h with
  | @now parent name rest m hp hm =>
    have hone : c.loadOne parent name = .error f := by
      unfold Catalog.loadOne
      rw [hp, hm]
      dsimp only
      rw [hf]
    rw [Catalog.loadAll, hone]
  | later hm _ ih =>
    rw [Catalog.loadAll, hm]
    exact ih hf

theorem absolute_home {home name : String} (hp : ¬ Relative path)
    (hh : Catalog.halves? path = some (home, name)) : home.toList.head? ≠ some '.' := by
  unfold Catalog.halves? at hh
  split at hh
  · cases hh
  · cases hh
  · rename_i hcut
    cases hh
    rw [String.toList_ofList]
    intro hd
    obtain ⟨more, rfl⟩ := List.head?_eq_some_iff.mp hd
    exact hp ⟨_, Text.splitLast_eq_some hcut, by simp⟩

theorem loadModule_eq {home : String} (hd : home.toList.head? ≠ some '.') :
    c.loadModule home = match c.loadAll none (Catalog.parents home) with
      | .error f => .error f
      | .ok (some m) => .ok m
      | .ok none => raise (.noModule (quotedText home)) := if_neg hd

/-- What goes wrong with a path that is in order is foreseen. -/
theorem resolve_error (hp : Foreseeable c path) (h : c.resolve (.str path) = .error f) :
    Foreseen f := by
  unfold Catalog.resolve at h
  dsimp only at h
  split at h
  · cases h
    rfl
  · rename_i home name hh
    split at h
    · rename_i hl
      cases h
      rw [loadModule_eq (absolute_home hp.absolute hh)] at hl
      split at hl
      · rename_i hall
        cases hl
        exact (loadAll_error hall).elim id fun ⟨m, hr, hf⟩ => hp.runs _ _ hh m hr _ hf
      · cases hl
      · cases hl
        rfl
    · rename_i m hm
      split at h
      · cases h
      · cases h
        rfl
      · rename_i hget
        cases h
        exact hp.lookUp _ _ hh m hm _ hget

theorem resolve_relative (hp : Relative path) :
    ∃ f, c.resolve (.str path) = .error f ∧ ¬ Foreseen f := by
  obtain ⟨rest, hpath, hrest⟩ := hp
  obtain ⟨⟨before, name⟩, hcut⟩ := Option.isSome_iff_exists.mp (Text.splitLast_isSome hrest)
  have hh : Catalog.halves? path =
      some (String.ofList ('.' :: before), String.ofList name) := by
    unfold Catalog.halves?
    rw [hpath, Text.splitLast, hcut]
  refine ⟨(Defect.relativePath (quotedText (String.ofList ('.' :: before)))).toFault, ?_,
    not_foreseen_relativePath _⟩
  unfold Catalog.resolve Catalog.loadModule
  dsimp only
  rw [hh]
  dsimp only
  rw [String.toList_ofList, List.head?_cons, if_pos rfl]
  rfl

/-- A path is in order just if what goes wrong with it is foreseen. -/
theorem foreseeable_iff :
    Foreseeable c path ↔ ∀ f, c.resolve (.str path) = .error f → Foreseen f := by
  refine ⟨fun hp f => resolve_error hp, fun h => ?_⟩
  have habs : ¬ Relative path := by
    intro hr
    obtain ⟨f, hf, hn⟩ := resolve_relative (c := c) hr
    exact hn (h f hf)
  refine ⟨habs, fun home name hh m hr f hf => h f ?_, fun home name hh m hm f hget => h f ?_⟩
  · unfold Catalog.resolve
    dsimp only
    rw [hh]
    dsimp only
    rw [loadModule_eq (absolute_home habs hh), hr.loadAll hf]
  · unfold Catalog.resolve
    dsimp only
    rw [hh]
    dsimp only
    rw [hm]
    dsimp only
    rw [hget]

theorem mem_of_find {name : String} {m : ModuleEntry} (h : c.find? name = some m) : m ∈ c.modules :=
  List.mem_of_find?_eq_some h

theorem Runs.mem {m : ModuleEntry} (h : Runs c parent names m) : m ∈ c.modules := by
  induction h with
  | now _ hm => exact mem_of_find hm
  | later _ _ ih => exact ih

theorem loadOne_mem {name : String} {m : ModuleEntry} (h : c.loadOne parent name = .ok m) :
    m ∈ c.modules := by
  unfold Catalog.loadOne at h
  split at h
  · cases h
  · cases h
  · rename_i hm
    split at h
    · cases h
    · cases h
      exact mem_of_find hm

theorem loadAll_mem {m : ModuleEntry} (h : c.loadAll parent names = .ok (some m)) :
    parent = some m ∨ m ∈ c.modules := by
  induction names generalizing parent with
  | nil =>
    cases h
    exact .inl rfl
  | cons name rest ih =>
    unfold Catalog.loadAll at h
    split at h
    · rename_i hm
      obtain ⟨⟨⟩⟩ | hmem := ih h
      · exact .inr (loadOne_mem hm)
      · exact .inr hmem
    · cases h

theorem loadModule_mem {home : String} {m : ModuleEntry} (h : c.loadModule home = .ok m) :
    m ∈ c.modules := by
  unfold Catalog.loadModule at h
  split at h
  · cases h
  · split at h
    · cases h
    · rename_i hall
      cases h
      exact (loadAll_mem hall).resolve_left nofun
    · cases h

/-- Where every module runs through and has no faults of its own, only a relative path is not in
order. -/
theorem foreseeable_iff_absolute
    (hc : ∀ m ∈ c.modules, m.fault? = none ∧ ∀ name f, m.lookUp name ≠ .error f) :
    Foreseeable c path ↔ ¬ Relative path := by
  refine ⟨Foreseeable.absolute, fun hp => ⟨hp, fun home name hh m hr f hf => ?_,
    fun home name hh m hm f hget => ?_⟩⟩
  · rw [(hc m hr.mem).1] at hf
    cases hf
  · unfold Catalog.member? at hget
    split at hget
    · cases hget
    · split at hget
      · cases hget
      · exact absurd hget ((hc m (loadModule_mem hm)).2 _ _)

end

/-! ## Making a handler -/

section Parts

variable {P : Passage}

theorem along_load (hr : ∀ r, Along P (report idle r)) (c : Catalog) (kind : String)
    (path : Value) : Along P (load c kind path) := by
  unfold load
  split
  · exact along_pure _
  · exact along_pure _
  · split
    · exact along_bind (along_words along_idle _) fun _ => along_bind (hr _) fun _ => along_pure _
    · exact along_fault _

theorem along_chooseFactory (hr : ∀ r, Along P (report idle r))
    (hf : ∀ w o, P.rel w { w with handler := { w.handler with factory := o } }) (c : Catalog)
    (path : Value) : Along P (chooseFactory c path) := by
  unfold chooseFactory
  split
  · exact along_bind (along_load hr c _ path) fun o => along_modify fun w => hf w o
  · exact along_pure _

theorem along_chooseFilter (hr : ∀ r, Along P (report idle r)) (hm : ∀ o, Along P (makeFilter o))
    (hf : ∀ w l, P.rel w { w with handler := { w.handler with filters := l } }) (c : Catalog)
    (path : Value) : Along P (chooseFilter c path) := by
  unfold chooseFilter
  split
  · refine along_bind (along_load hr c _ path) fun found => ?_
    cases found with
    | none => exact along_pure _
    | some o =>
      refine along_bind (along_attempt (hm o)) fun made => ?_
      split
      · exact along_modify fun w => hf w _
      · split
        · exact along_bind (along_words along_idle _) fun _ => hr _
        · exact along_fault _
  · exact along_pure _

end Parts

/-- The handler is set up as it was, and the history has grown. -/
def configured : Passage where
  rel w w' := w'.handler.config = w.handler.config ∧ w.history <+: w'.history
  refl _ := ⟨rfl, List.prefix_refl _⟩
  trans h₁ h₂ := ⟨h₂.1.trans h₁.1, h₁.2.trans h₂.2⟩

theorem configured_same {w w' : World} (hc : w'.handler.config = w.handler.config)
    (hh : w'.history = w.history) : configured.rel w w' := ⟨hc, hh ▸ List.prefix_refl _⟩

/-- The world outside is as it was. -/
def secluded : Passage where
  rel w w' := w'.outside = w.outside
  refl _ := rfl
  trans h₁ h₂ := h₂.trans h₁

theorem along_report_configured (r : Report) : Along configured (report idle r) :=
  along_report (fun _ => configured_same rfl rfl) (fun _ => ⟨rfl, List.prefix_append _ _⟩)
    (fun _ _ => configured_same rfl rfl) along_idle

theorem along_report_secluded (r : Report) : Along secluded (report idle r) :=
  along_report (fun _ => rfl) (fun _ => rfl) (fun _ _ => rfl) along_idle

theorem along_makeFilter_configured (o : Importable) : Along configured (makeFilter o) :=
  along_makeFilter (fun _ _ => configured_same rfl rfl) (fun _ _ => configured_same rfl rfl) o

theorem makeFilter_congr (o : Importable) {w w' : World} (h : w'.outside = w.outside) :
    ((makeFilter o).perform w').1 = ((makeFilter o).perform w).1 := by
  unfold makeFilter
  rw [perform_bind, perform_bind, perform_words_idle, perform_words_idle]
  cases (Catalog.call o).quiet with
  | error f => rfl
  | ok i =>
    cases i with
    | sender =>
      dsimp only
      rw [perform_outward_bind, perform_outward_bind, h]
      cases (Outside.makeSender w.outside).1 <;> rfl
    | cleared => rfl
    | nothing => rfl
    | other c rule closable => rfl

/-! ### Parts that are candid -/

variable {c : Catalog} {w : World}

theorem candid_report (r : Report) (w : World) : (report idle r).Candid w := by
  unfold Candid
  by_cases hp : w.reporter = .absent
  · rw [perform_report_absent hp]
    exact ⟨[], (List.append_nil _).symm, fun _ => nofun, fun _ => ⟨_, rfl⟩⟩
  · obtain ⟨w', ⟨ht, -⟩, hx | ⟨f, hx⟩⟩ := report_cases (P := untouched)
      (fun _ _ => ⟨rfl, rfl, rfl, rfl, rfl⟩) along_idle r hp
    · rw [hx]
      exact ⟨[], ht.trans (List.append_nil _).symm, fun _ => nofun, fun _ => ⟨_, rfl⟩⟩
    · rw [hx]
      refine ⟨[.escaped r], congrArg (· ++ [Deed.escaped r]) ht, nofun, fun hn => ?_⟩
      exact absurd List.mem_cons_self (hn r)

theorem candid_load {path : String} (hp : Foreseeable c path) (kind : String) (w : World) :
    (load c kind (.str path)).Candid w := by
  unfold load
  cases h : c.resolve (.str path) with
  | ok o =>
    split
    · exact candid_ok rfl rfl
    · exact candid_ok rfl rfl
    · contradiction
  | error f =>
    have hf := resolve_error hp h
    rw [Foreseen] at hf
    dsimp only
    rw [if_pos hf]
    refine candid_bind (candid_ok (x := path) rfl rfl) fun text w' _ => ?_
    exact candid_bind (candid_report _ w') fun _ w' _ => candid_ok rfl rfl

theorem candid_chooseFactory {o : Option String} (hp : ∀ p, o = some p → Foreseeable c p)
    (w : World) : (chooseFactory c (textOrNull o)).Candid w := by
  unfold chooseFactory
  split
  · cases o with
    | none => contradiction
    | some p =>
      refine candid_bind (candid_load (hp p rfl) _ w) fun loaded w' _ => ?_
      exact candid_ok (x := ⟨⟩) rfl rfl
  · exact candid_ok rfl rfl

theorem candid_addFilter {path : String} {o : Importable}
    (ho : ∀ f, ((makeFilter o).perform w).1 = .error f → f.isA "Exception" = true) :
    (addFilter (.str path) o).Candid w := by
  have hm : (attempt (makeFilter o)).Candid w := candid_ok rfl (along_makeFilter_untouched o w).1
  unfold addFilter
  refine candid_bind hm fun made w' hw => ?_
  rw [perform_attempt] at hw
  cases hw
  split
  · exact candid_ok (x := ⟨⟩) rfl rfl
  · rename_i f hf
    rw [if_pos (ho f hf)]
    exact candid_bind (candid_ok (x := path) rfl rfl) fun _ w' _ => candid_report _ w'

/-- What is loaded for a filter fails to make one with nothing but an ordinary exception. -/
def Filterable (c : Catalog) (w : World) (path : String) : Prop :=
  ∀ o f, c.resolve (.str path) = .ok o → ((makeFilter o).perform w).1 = .error f →
    f.isA "Exception" = true

theorem load_found {path : String} {kind : String} {w w' : World} {o : Importable}
    (h : (load c kind (.str path)).perform w = (.ok (some o), w')) :
    c.resolve (.str path) = .ok o ∧ w' = w := by
  unfold load at h
  split at h
  · cases h
  · rename_i hr
    cases h
    exact ⟨hr, rfl⟩
  · split at h
    · obtain ⟨_, w₁, _, h⟩ := bind_ok h
      obtain ⟨_, w₂, _, h⟩ := bind_ok h
      cases h
    · cases h

theorem candid_chooseFilter {o : Option String}
    (hp : ∀ p, o = some p → Foreseeable c p ∧ Filterable c w p) :
    (chooseFilter c (textOrNull o)).Candid w := by
  unfold chooseFilter
  split
  · cases o with
    | none => contradiction
    | some p =>
      obtain ⟨hr, hf⟩ := hp p rfl
      refine candid_bind (candid_load hr _ w) fun loaded w' hl => ?_
      cases loaded with
      | none => exact candid_ok rfl rfl
      | some o =>
        obtain ⟨ho, rfl⟩ := load_found hl
        exact candid_addFilter fun f => hf o f ho
  · exact candid_ok rfl rfl

/-! ### Parts that must fail -/

theorem load_foreseeable {path kind : String} {w w' : World} {x : Option Importable}
    (h : (load c kind (.str path)).perform w = (.ok x, w')) : Foreseeable c path := by
  refine foreseeable_iff.mpr fun f hf => ?_
  unfold load at h
  rw [hf] at h
  dsimp only at h
  split at h
  · assumption
  · cases h

theorem truthy_of_says {env : Environment} {name p : String} (h : env.says? name = some p) :
    (Value.str p).truthy = true := by
  have hp := (Option.filter_eq_some_iff.mp h).2
  rw [Value.truthy, bne_iff_ne]
  rintro rfl
  exact absurd hp (by decide)

theorem chooseFactory_ok {o : Option String} (ht : ∀ p, o = some p → (Value.str p).truthy = true)
    {w' : World} {u : Unit} (h : (chooseFactory c (textOrNull o)).perform w = (.ok u, w')) :
    ∀ p, o = some p → Foreseeable c p := by
  rintro p rfl
  unfold chooseFactory at h
  rw [textOrNull, Option.elim_some, if_pos (ht p rfl)] at h
  obtain ⟨_, _, hl, -⟩ := bind_ok h
  exact load_foreseeable hl

theorem chooseFilter_ok {o : Option String} (ht : ∀ p, o = some p → (Value.str p).truthy = true)
    {w' : World} {u : Unit} (h : (chooseFilter c (textOrNull o)).perform w = (.ok u, w')) :
    ∀ p, o = some p → Foreseeable c p ∧ Filterable c w p := by
  rintro p rfl
  unfold chooseFilter at h
  rw [textOrNull, Option.elim_some, if_pos (ht p rfl)] at h
  obtain ⟨loaded, w₁, hl, h⟩ := bind_ok h
  refine ⟨load_foreseeable hl, fun o f ho hf => ?_⟩
  unfold load at hl
  rw [ho] at hl
  split at hl
  · rename_i hnull
    cases hnull
    cases hf
    rfl
  · rename_i hfound
    cases hfound
    cases hl
    dsimp only at h
    unfold addFilter at h
    rw [perform_attempt_bind, hf] at h
    dsimp only at h
    split at h
    · assumption
    · cases h
  · contradiction

/-! ### Both classes -/

/-- Loading the classes of a sender and of a filter, where they are named. -/
def loadNamed (c : Catalog) (sender filter : Option String) : Act Unit := do
  chooseFactory c (textOrNull sender)
  chooseFilter c (textOrNull filter)

theorem filterable_congr {c : Catalog} {w w' : World} (h : w'.outside = w.outside) (path : String) :
    Filterable c w' path ↔ Filterable c w path := by
  unfold Filterable
  simp only [makeFilter_congr _ h]

theorem chooseFactory_secluded (c : Catalog) (path : Value) (w : World) :
    ((chooseFactory c path).perform w).2.outside = w.outside :=
  along_chooseFactory along_report_secluded (fun _ _ => rfl) c path w

section

variable {sender filter : Option String}

theorem loadNamed_configured (c : Catalog) (sender filter : Option String) :
    Along configured (loadNamed c sender filter) :=
  along_bind (along_chooseFactory along_report_configured (fun _ _ => configured_same rfl rfl) c _)
    fun _ => along_chooseFilter along_report_configured along_makeFilter_configured
      (fun _ _ => configured_same rfl rfl) c _

/-- Loading classes fails for one of two reasons: how they are named, or a report. -/
theorem loadNamed_candid (hs : ∀ p, sender = some p → Foreseeable c p)
    (hf : ∀ p, filter = some p → Foreseeable c p ∧ Filterable c w p) :
    (loadNamed c sender filter).Candid w := by
  refine candid_bind (candid_chooseFactory hs w) fun _ w' hw => candid_chooseFilter fun p hp => ?_
  have ho := chooseFactory_secluded c (textOrNull sender) w
  rw [hw] at ho
  exact ⟨(hf p hp).1, (filterable_congr ho p).mpr (hf p hp).2⟩

theorem loadNamed_ok (hs : ∀ p, sender = some p → (Value.str p).truthy = true)
    (hf : ∀ p, filter = some p → (Value.str p).truthy = true) {w' : World} {u : Unit}
    (h : (loadNamed c sender filter).perform w = (.ok u, w')) :
    (∀ p, sender = some p → Foreseeable c p) ∧
      ∀ p, filter = some p → Foreseeable c p ∧ Filterable c w p := by
  obtain ⟨_, w₁, h₁, h₂⟩ := bind_ok h
  have ho := chooseFactory_secluded c (textOrNull sender) w
  rw [h₁] at ho
  refine ⟨chooseFactory_ok hs h₁, fun p hp => ?_⟩
  obtain ⟨hr, hf⟩ := chooseFilter_ok hf h₂ p hp
  exact ⟨hr, (filterable_congr ho p).mp hf⟩

end

/-! ## A handler from the environment -/

theorem perform_words_done_bind {α β : Type} {h : Hooks} (x : α) (k : α → Act β) (w : World) :
    (Act.words h (.done x) >>= k).perform w = (k x).perform w := by
  rw [perform_bind]
  rfl

/-- A handler with any reporter, set up by the variables only. -/
def environed (c : Catalog) (env : Environment) (reporter : Reporter) : Act Unit := do
  let config ← Act.words idle (Config.ofEnvironment env)
  modify fun w => { w with reporter := reporter }
  construct c (some config) [] none

/-- What the variables must not do: name a level that is not registered, or a class by a path that is
not in order, or a filter that cannot be made for a reason that no one expects. -/
structure Buildable (c : Catalog) (env : Environment) (w : World) : Prop where
  level : (Entries.get? w.levels.numbers (env.chosen .level)).isSome
  sender : ∀ p, env.says? "SENDER_CLASS" = some p → Foreseeable c p
  filter : ∀ p, env.says? "FILTER_CLASS" = some p → Foreseeable c p ∧ Filterable c w p

theorem fromEnvironment_given (c : Catalog) (env : Environment) (kind : ReporterKind)
    (installed : Bool) : fromEnvironment c env [] (.given kind) installed = (do
      environed c env (reporterOf installed kind)
      return kind) := by
  have hlayers : ((Config.ofEnvironment env).bind fun config => config.withUpdates []) =
      Config.ofEnvironment env := Script.bind_done _
  unfold fromEnvironment environed
  rw [hlayers]
  simp only [bind_assoc]
  rfl

/-- The world in which the handler is set up, before any class is loaded. -/
def prepared (env : Environment) (reporter : Reporter) (threshold : Value) (w : World) : World :=
  { w with reporter := reporter, handler := unopened ⟨env.chosen⟩ threshold none }

theorem perform_environed {env : Environment} (he : env.Textual) (c : Catalog) (reporter : Reporter)
    (w : World) : (environed c env reporter).perform w =
      match Entries.get? w.levels.numbers (env.chosen .level) with
      | some n => (chooseFactory c (textOrNull (env.says? "SENDER_CLASS")) >>= fun _ =>
          chooseFilter c (textOrNull (env.says? "FILTER_CLASS"))).perform
            (prepared env reporter n w)
      | none => (.error (Defect.unknownLevel (quotedText
          (LevelNames.strippedUpper ((env.says? "LEVEL").getD defaultLevel)))).toFault,
          { w with reporter := reporter }) := by
  have hsender : env.chosen .senderClass = textOrNull (env.says? "SENDER_CLASS") :=
    (Environment.textOrNull_eq _).symm
  have hfilter : env.chosen .filterClass = textOrNull (env.says? "FILTER_CLASS") :=
    (Environment.textOrNull_eq _).symm
  have hlevel : env.chosen .level =
      .str (LevelNames.strippedUpper ((env.says? "LEVEL").getD defaultLevel)) := by
    dsimp only [Environment.chosen, Setting.variable]
    cases env.says? "LEVEL" <;> rfl
  have hnames : checkNames [] = .ok () := rfl
  have hlayers : layered (some ⟨env.chosen⟩) [] = .done ⟨env.chosen⟩ := rfl
  unfold environed construct
  rw [Environment.ofEnvironment_eq he, perform_words_done_bind, perform_modify_bind,
    perform_ofExcept_bind, hnames]
  dsimp only
  rw [hlayers, perform_words_done_bind, perform_get_bind]
  dsimp only
  rw [← hsender, ← hfilter, hlevel, LevelNames.check]
  cases Entries.get? w.levels.numbers
      (.str (LevelNames.strippedUpper ((env.says? "LEVEL").getD defaultLevel))) with
  | none => rfl
  | some n => rw [perform_words_done_bind]; rfl

/-- Loading the classes that the variables name. -/
def loadClasses (c : Catalog) (env : Environment) : Act Unit := do
  chooseFactory c (textOrNull (env.says? "SENDER_CLASS"))
  chooseFilter c (textOrNull (env.says? "FILTER_CLASS"))

theorem loadClasses_configured (c : Catalog) (env : Environment) :
    Along configured (loadClasses c env) := loadNamed_configured c _ _

theorem loadClasses_candid {c : Catalog} {env : Environment} {w : World}
    (hs : ∀ p, env.says? "SENDER_CLASS" = some p → Foreseeable c p)
    (hf : ∀ p, env.says? "FILTER_CLASS" = some p → Foreseeable c p ∧ Filterable c w p) :
    (loadClasses c env).Candid w := loadNamed_candid hs hf

theorem loadClasses_ok {c : Catalog} {env : Environment} {w w' : World} {u : Unit}
    (h : (loadClasses c env).perform w = (.ok u, w')) :
    (∀ p, env.says? "SENDER_CLASS" = some p → Foreseeable c p) ∧
      ∀ p, env.says? "FILTER_CLASS" = some p → Foreseeable c p ∧ Filterable c w p :=
  loadNamed_ok (fun _ => truthy_of_says) (fun _ => truthy_of_says) h

/-- Whatever reporter it is given, a handler is built from variables that are texts just if the
level that they name is registered, the paths that name classes are in order, the filter can be made
or fails to be with an ordinary exception, and no report fails for good. When it is built, each
setting whose variable is unset, blank or not readable has its default. -/
theorem built_iff {env : Environment} (he : env.Textual) (c : Catalog) (w : World) :
    (∀ kind installed, fromEnvironment c env [] (.given kind) installed = (do
      environed c env (reporterOf installed kind)
      return kind)) ∧
    ∀ reporter x w', (environed c env reporter).perform w = (x, w') →
      ∃ ds, w'.history = w.history ++ ds ∧
        (x = .ok () ↔ Buildable c env w ∧ ∀ r, Deed.escaped r ∉ ds) ∧
        (x = .ok () → ∀ setting, env.Unread w.levels setting →
          w'.handler.config.value setting = defaultValue setting) := by
  refine ⟨fun kind installed => fromEnvironment_given c env kind installed, ?_⟩
  intro reporter x w' h
  rw [perform_environed he] at h
  cases hlevel : Entries.get? w.levels.numbers (env.chosen .level) with
  | none =>
    rw [hlevel] at h
    cases h
    refine ⟨[], (List.append_nil _).symm, ⟨nofun, fun hb => ?_⟩, nofun⟩
    have := hb.1.level
    rw [hlevel] at this
    cases this
  | some n =>
    rw [hlevel] at h
    replace h : (loadClasses c env).perform (prepared env reporter n w) = (x, w') := h
    have hoff : ∀ p, Filterable c (prepared env reporter n w) p ↔ Filterable c w p :=
      filterable_congr rfl
    have hknown : (Entries.get? w.levels.numbers (env.chosen .level)).isSome := by
      rw [hlevel]
      rfl
    have hbuilt : x = .ok () → Buildable c env w := by
      rintro rfl
      obtain ⟨hs, hf⟩ := loadClasses_ok h
      exact ⟨hknown, hs, fun p hp => ⟨(hf p hp).1, (hoff p).mp (hf p hp).2⟩⟩
    obtain ⟨hconfig, ds, hds⟩ := loadClasses_configured c env (prepared env reporter n w)
    rw [h] at hconfig hds
    have hdefault : ∀ setting, env.Unread w.levels setting →
        w'.handler.config.value setting = defaultValue setting := fun setting hu =>
      (congrArg (Config.value · setting) hconfig).trans (Environment.chosen_of_unread hknown hu)
    by_cases hb : Buildable c env w
    · obtain ⟨ds, hds, hiff⟩ := loadClasses_candid (w := prepared env reporter n w) hb.sender
        fun p hp => ⟨(hb.filter p hp).1, (hoff p).mpr (hb.filter p hp).2⟩
      rw [h] at hds hiff
      refine ⟨ds, hds, ?_, fun _ => hdefault⟩
      exact ⟨fun hx => ⟨hb, hiff.mp ⟨(), hx⟩⟩, fun hn => (hiff.mpr hn.2).elim fun _ hx => hx⟩
    · exact ⟨ds, hds.symm, ⟨fun hx => absurd (hbuilt hx) hb, fun hn => absurd hn.1 hb⟩,
        fun _ => hdefault⟩

/-- Variables with mistakes of several kinds. -/
def misspelt : Environment :=
  ⟨[("GELF_PORT", .str "x"), ("GELF_TIMEOUT", .str " "), ("GELF_EXTRACT_STACKTRACE", .str "maybe"),
    ("GELF_LEVEL", .str " debug"), ("GELF_ADDITIONAL_FIELD_0", .str "region"),
    ("GELF_SENDER_CLASS", .str "nowhere"), ("GELF_FILTER_CLASS", .str ".nothing")], "GELF_"⟩

theorem misspelt_textual : misspelt.Textual := by
  intro n hn
  simp only [misspelt, List.mem_cons, List.not_mem_nil, or_false] at hn
  obtain rfl | rfl | rfl | rfl | rfl | rfl | rfl := hn <;> exact ⟨_, rfl⟩

theorem built_iff_misspelt : misspelt.Textual ∧
    ∃ w', (environed ⟨[]⟩ misspelt .silent).perform .calm = (.ok (), w') ∧
      w'.handler.config.value .port = .int 12201 ∧
      w'.handler.config.value .staticFields = .dict [] := by
  have hok : ((environed ⟨[]⟩ misspelt .silent).perform .calm).1 = .ok () := rfl
  obtain ⟨_, -, -, hdefault⟩ := (built_iff misspelt_textual ⟨[]⟩ .calm).2 .silent _ _ rfl
  refine ⟨misspelt_textual, _, Prod.ext hok rfl, hdefault hok .port ?_,
    hdefault hok .staticFields ?_⟩
  · rintro s ⟨⟩
    decide +kernel
  · intro k s hset hs
    cases k with
    | zero =>
      cases hs
      decide +kernel
    | succ k => exact absurd (hset 1 (by omega)) (by decide +kernel)

/-- A level that is misspelt keeps the handler from being built, whatever the reporter is. -/
theorem unknown_level_not_built :
    (⟨[("GELF_LEVEL", .str "verbose")], "GELF_"⟩ : Environment).Textual ∧
      ∀ kind installed, ∃ f w',
        (fromEnvironment ⟨[]⟩ ⟨[("GELF_LEVEL", .str "verbose")], "GELF_"⟩ [] (.given kind)
          installed).perform .calm = (.error f, w') ∧ f.kind = .builtin "ValueError" := by
  refine ⟨?_, fun kind installed => ?_⟩
  · intro n hn
    rw [List.mem_singleton] at hn
    exact ⟨"verbose", congrArg Prod.snd hn⟩
  · exact ⟨_, _, rfl, rfl⟩

end Handler

end Gelf
