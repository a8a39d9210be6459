import Gelf.Proofs.Building

/-!
# Gelf.Proofs.ClassPaths

Handlers whose classes are named by paths.

* `Accepted`: a configuration that is in order but for its classes. `perform_construct`: then making
  a handler comes down to loading them.
* `loaded`, `unloaded`: what a path leads to, and what is reported if it leads nowhere.
  `filterOf`, `unmade`: the same for the filter that is made of it.
* `Since`: which reports were kept, and what became of the handler. `load_since`,
  `chooseFactory_since`, `chooseFilter_since`: that for each step.
* `class_paths_reported`: a handler is made if both paths are in order, and then each path that leads
  nowhere has its report. `relative_path_raises`: a relative one has none.
-/

namespace Gelf

open Act

namespace Handler

/-! ## Configurations -/

/-- The settings can be laid over the base, and the level that they come to is known. -/
structure Accepted (base : Option Config) (settings : Named Value) (levels : LevelNames)
    (config : Config) (threshold : Value) : Prop where
  names : checkNames settings = .ok ()
  layers : (layered base settings).quiet = .ok config
  level : (levels.check (config.value .level)).quiet = .ok threshold

/-- The path to what makes senders is of no use where there is something that makes them. -/
def sought (factory : Option Importable) (sender : Option String) : Option String :=
  match factory with
  | none => sender
  | some _ => none

variable {c : Catalog} {w w' : World} {path kind : String} {u : Unit}

theorem perform_construct {base : Option Config} {settings : Named Value} {config : Config}
    {threshold : Value} {sender filter : Option String}
    (ha : Accepted base settings w.levels config threshold)
    (hs : config.value .senderClass = textOrNull sender)
    (hf : config.value .filterClass = textOrNull filter) (c : Catalog)
    (factory : Option Importable) : (construct c base settings factory).perform w =
      (loadNamed c (sought factory sender) filter).perform
        { w with handler := unopened config threshold factory } := by
  unfold construct
  rw [perform_ofExcept_bind, ha.names]
  dsimp only
  rw [perform_bind, perform_words_idle, ha.layers]
  dsimp only
  rw [perform_get_bind, perform_bind, perform_words_idle, ha.level]
  dsimp only
  rw [hs, hf]
  cases factory <;> rfl

/-! ## What paths lead to -/

/-- What was loaded, unless it is nothing. -/
def present? : Importable → Option Importable
  | .plain .null => none
  | o => some o

/-- What a path leads to, if it leads anywhere. -/
def loaded (c : Catalog) (path : String) : Option Importable :=
  match c.resolve (.str path) with
  | .ok o => present? o
  | .error _ => none

/-- What is reported of a path that leads nowhere. -/
def unloaded (c : Catalog) (kind path : String) : List Report :=
  match c.resolve (.str path) with
  | .ok _ => []
  | .error f => [⟨"Could not load GELF " ++ kind ++ " class " ++ path, some f, .general⟩]

/-- What comes of calling what a path leads to. -/
def called? (c : Catalog) (w : World) (path : String) : Option (Except Fault Instance) :=
  (loaded c path).map fun o => ((makeFilter o).perform w).1

def filterOf (c : Catalog) (w : World) (path : String) : List Instance :=
  match called? c w path with
  | some (.ok i) => [i]
  | _ => []

/-- What is reported of a filter that cannot be made. -/
def unmade (c : Catalog) (w : World) (path : String) : List Report :=
  match called? c w path with
  | some (.error f) => [⟨"Could not create GELF filter " ++ path, some f, .general⟩]
  | _ => []

/-! ## What is reported -/

/-- These reports were kept since, and the handler is this one now. -/
structure Since (w w' : World) (reports : List Report) (handler : Handler) : Prop where
  reports : w'.reports = w.reports ++ reports
  handler : w'.handler = handler
  reporter : w'.reporter = w.reporter

theorem Since.refl (w : World) : Since w w [] w.handler := ⟨(List.append_nil _).symm, rfl, rfl⟩

theorem Since.trans {w₁ w₂ w₃ : World} {rs rs' : List Report} {k k' : Handler}
    (h₁ : Since w₁ w₂ rs k) (h₂ : Since w₂ w₃ rs' k') : Since w₁ w₃ (rs ++ rs') k' where
  reports := by rw [h₂.reports, h₁.reports, List.append_assoc]
  handler := h₂.handler
  reporter := h₂.reporter.trans h₁.reporter

/-- Reports, handler and reporter are as they were. -/
def unmoved : Passage where
  rel w w' := Since w w' [] w.handler
  refl := .refl
  trans := by
    rintro w₁ w₂ w₃ h₁ h₂
    exact h₁.handler ▸ h₁.trans h₂

theorem report_since {r : Report} (hr : w.reporter ≠ .absent)
    (h : (report idle r).perform w = (.ok u, w')) : Since w w' [r] w.handler := by
  obtain ⟨w₁, hw, hx | ⟨f, hx⟩⟩ := report_cases (P := unmoved)
    (fun w s => ⟨(List.append_nil _).symm, rfl, rfl⟩) along_idle r hr
  · rw [hx] at h
    cases h
    refine ⟨?_, hw.handler, hw.reporter⟩
    simpa using hw.reports
  · rw [hx] at h
    cases h

/-- A path that is looked up and leads nowhere is reported once. -/
theorem load_since {o : Option Importable} (hr : w.reporter ≠ .absent)
    (h : (load c kind (.str path)).perform w = (.ok o, w')) :
    o = loaded c path ∧ Since w w' (unloaded c kind path) w.handler := by
  unfold load at h
  unfold loaded unloaded
  split at h
  · rename_i hnull
    rw [hnull]
    cases h
    exact ⟨rfl, .refl w⟩
  · rename_i o' hne hfound
    rw [hfound]
    cases h
    refine ⟨?_, .refl w⟩
    dsimp only
    unfold present?
    split
    · exact absurd rfl hne
    · rfl
  · rename_i f hfault
    rw [hfault]
    split at h
    · obtain ⟨text, w₁, htext, h⟩ := bind_ok h
      obtain ⟨_, w₂, hreport, h⟩ := bind_ok h
      cases h
      cases htext
      exact ⟨rfl, report_since hr hreport⟩
    · cases h

theorem chooseFactory_since {o : Option String}
    (ht : ∀ p, o = some p → (Value.str p).truthy = true) (hr : w.reporter ≠ .absent)
    (h : (chooseFactory c (textOrNull o)).perform w = (.ok u, w')) :
    Since w w' (o.elim [] (unloaded c "sender"))
      { w.handler with factory := o.elim w.handler.factory (loaded c) } := by
  unfold chooseFactory at h
  cases o with
  | none =>
    cases h
    exact .refl w
  | some p =>
    rw [textOrNull, Option.elim_some, if_pos (ht p rfl)] at h
    obtain ⟨found, w₁, hload, h⟩ := bind_ok h
    obtain ⟨rfl, hsince⟩ := load_since hr hload
    cases h
    exact ⟨hsince.reports,
      congrArg (fun k : Handler => { k with factory := loaded c p }) hsince.handler, hsince.reporter⟩

theorem addFilter_since {o : Importable} (ho : loaded c path = some o) (hr : w.reporter ≠ .absent)
    (h : (addFilter (.str path) o).perform w = (.ok u, w')) :
    Since w w' (unmade c w path)
      { w.handler with filters := w.handler.filters ++ filterOf c w path } := by
  have hm : unmoved.rel w ((makeFilter o).perform w).2 := along_makeFilter (P := unmoved)
    (fun w _ => ⟨(List.append_nil _).symm, rfl, rfl⟩)
    (fun w _ => ⟨(List.append_nil _).symm, rfl, rfl⟩) o w
  unfold addFilter at h
  rw [perform_attempt_bind] at h
  unfold unmade filterOf called?
  rw [ho, Option.map_some]
  split at h
  · rename_i i hi
    rw [hi]
    cases h
    exact ⟨hm.reports, congrArg (fun k : Handler => { k with filters := k.filters ++ [i] }) hm.handler,
      hm.reporter⟩
  · rename_i f hf
    rw [hf]
    split at h
    · obtain ⟨text, w₁, htext, hreport⟩ := bind_ok h
      cases htext
      have hr' : ((makeFilter o).perform w).2.reporter ≠ .absent := hm.reporter ▸ hr
      have hsince := hm.trans (report_since hr' hreport)
      refine ⟨hsince.reports, ?_, hsince.reporter⟩
      rw [hsince.handler, hm.handler]
      dsimp only
      rw [List.append_nil]
    · cases h

theorem chooseFilter_since {o : Option String}
    (ht : ∀ p, o = some p → (Value.str p).truthy = true) (hr : w.reporter ≠ .absent)
    (h : (chooseFilter c (textOrNull o)).perform w = (.ok u, w')) :
    Since w w' (o.elim [] fun p => unloaded c "filter" p ++ unmade c w p)
      { w.handler with filters := w.handler.filters ++ o.elim [] (filterOf c w) } := by
  unfold chooseFilter at h
  cases o with
  | none =>
    cases h
    refine ⟨(List.append_nil _).symm, ?_, rfl⟩
    rw [Option.elim_none, List.append_nil]
  | some p =>
    rw [textOrNull, Option.elim_some, if_pos (ht p rfl)] at h
    obtain ⟨found, w₁, hload, h⟩ := bind_ok h
    obtain ⟨hfound, hsince⟩ := load_since hr hload
    dsimp only [Option.elim_some]
    cases found with
    | none =>
      cases h
      have hnone : called? c w p = none := by
        rw [called?, ← hfound]
        rfl
      unfold unmade filterOf
      rw [hnone]
      refine ⟨?_, ?_, hsince.reporter⟩
      · rw [List.append_nil, hsince.reports]
      · rw [List.append_nil, hsince.handler]
    | some o =>
      obtain ⟨hresolved, hsame⟩ := load_found hload
      rw [hsame] at h
      have hadd := addFilter_since hfound.symm hr h
      have hun : unloaded c "filter" p = [] := by
        rw [unloaded, hresolved]
      rw [hun, List.nil_append]
      exact hadd

theorem called?_congr (h : w'.outside = w.outside) (c : Catalog) (path : String) :
    called? c w' path = called? c w path := by
  unfold called?
  simp only [makeFilter_congr _ h]

theorem filterOf_congr (h : w'.outside = w.outside) (c : Catalog) :
    filterOf c w' = filterOf c w := by
  unfold filterOf
  simp only [called?_congr h]

theorem unmade_congr (h : w'.outside = w.outside) (c : Catalog) : unmade c w' = unmade c w := by
  unfold unmade
  simp only [called?_congr h]

/-- By both steps: the sender's class is looked up first. -/
theorem loadNamed_since {sender filter : Option String}
    (hs : ∀ p, sender = some p → (Value.str p).truthy = true)
    (hf : ∀ p, filter = some p → (Value.str p).truthy = true) (hr : w.reporter ≠ .absent)
    (h : (loadNamed c sender filter).perform w = (.ok u, w')) :
    Since w w' (sender.elim [] (unloaded c "sender") ++
        filter.elim [] fun p => unloaded c "filter" p ++ unmade c w p)
      { w.handler with
        factory := sender.elim w.handler.factory (loaded c)
        filters := w.handler.filters ++ filter.elim [] (filterOf c w) } := by
  obtain ⟨_, w₁, hsender, hfilter⟩ := bind_ok h
  have hoff := chooseFactory_secluded c (textOrNull sender) w
  rw [hsender] at hoff
  have h₁ := chooseFactory_since hs hr hsender
  have hr₁ : w₁.reporter ≠ .absent := by
    intro ha
    exact hr (h₁.reporter.symm.trans ha)
  have h₂ := chooseFilter_since hf hr₁ hfilter
  rw [filterOf_congr hoff, unmade_congr hoff, h₁.handler] at h₂
  exact h₁.trans h₂

/-- Classes are loaded just if both paths are in order, the filter can be made or fails to be with an
ordinary exception, and no report fails for good. -/
theorem loadNamed_iff {sender filter : Option String}
    (hs : ∀ p, sender = some p → (Value.str p).truthy = true)
    (hf : ∀ p, filter = some p → (Value.str p).truthy = true) {x : Except Fault Unit}
    (h : (loadNamed c sender filter).perform w = (x, w')) :
    ∃ ds, w'.history = w.history ++ ds ∧
      (x = .ok () ↔ (∀ p, sender = some p → Foreseeable c p) ∧
        (∀ p, filter = some p → Foreseeable c p ∧ Filterable c w p) ∧ ∀ r, Deed.escaped r ∉ ds) := by
  -- with the paths in order only a report can fail; if they are not, no report is to blame
  by_cases hgood : (∀ p, sender = some p → Foreseeable c p) ∧
      ∀ p, filter = some p → Foreseeable c p ∧ Filterable c w p
  · obtain ⟨ds, hds, hiff⟩ := loadNamed_candid (w := w) hgood.1 hgood.2
    rw [h] at hds hiff
    refine ⟨ds, hds, fun hx => ⟨hgood.1, hgood.2, hiff.mp ⟨(), hx⟩⟩, fun hn => ?_⟩
    obtain ⟨_, hx⟩ := hiff.mpr hn.2.2
    exact hx
  · obtain ⟨-, ds, hds⟩ := loadNamed_configured c sender filter w
    rw [h] at hds
    refine ⟨ds, hds.symm, fun hx => ?_, fun hn => absurd ⟨hn.1, hn.2.1⟩ hgood⟩
    rw [hx] at h
    exact absurd (loadNamed_ok hs hf h) hgood

/-- A path that leads nowhere leads to nothing, and has one report, which names it. -/
theorem leads_nowhere {f : Fault} (h : c.resolve (.str path) = .error f) (w : World) :
    loaded c path = none ∧ filterOf c w path = [] ∧ unmade c w path = [] ∧
      ∀ kind, unloaded c kind path =
        [⟨"Could not load GELF " ++ kind ++ " class " ++ path, some f, .general⟩] := by
  have hl : loaded c path = none := by
    rw [loaded, h]
  have hc : called? c w path = none := by
    rw [called?, hl]
    rfl
  refine ⟨hl, ?_, ?_, fun kind => ?_⟩
  · rw [filterOf, hc]
  · rw [unmade, hc]
  · rw [unloaded, h]

/-- Where all else is in order, a handler is made just if the paths that name classes are in order,
too, the filter can be made or fails to be with an ordinary exception, and no report fails for good.
If the modules have no faults of their own, all paths but the relative ones are in order. Each path that
leads nowhere then has one report, which names it, the sender's before the filter's; and such a path
leaves the handler, which is new otherwise, with nothing that makes senders, or without a filter. -/
theorem class_paths_reported {base : Option Config} {settings : Named Value} {config : Config}
    {threshold : Value} {sender filter : Option String}
    (ha : Accepted base settings w.levels config threshold) (hr : w.reporter ≠ .absent)
    (hs : config.value .senderClass = textOrNull sender)
    (hf : config.value .filterClass = textOrNull filter)
    (hne : ∀ p, sender = some p ∨ filter = some p → p ≠ "")
    (c : Catalog) (factory : Option Importable) {x : Except Fault Unit}
    (h : (construct c base settings factory).perform w = (x, w')) :
    (∃ ds, w'.history = w.history ++ ds ∧
      (x = .ok () ↔ (∀ p, sought factory sender = some p → Foreseeable c p) ∧
        (∀ p, filter = some p → Foreseeable c p ∧ Filterable c w p) ∧ ∀ r, Deed.escaped r ∉ ds)) ∧
    ((∀ m ∈ c.modules, m.fault? = none ∧ ∀ name f, m.lookUp name ≠ .error f) →
      ∀ p, Foreseeable c p ↔ ¬ Relative p) ∧
    (x = .ok () →
      w'.reports = w.reports ++ ((sought factory sender).elim [] (unloaded c "sender") ++
        filter.elim [] fun p => unloaded c "filter" p ++ unmade c w p) ∧
      w'.handler = { unopened config threshold ((sought factory sender).elim factory (loaded c)) with
        filters := filter.elim [] (filterOf c w) }) ∧
    ∀ p f, c.resolve (.str p) = .error f →
      loaded c p = none ∧ filterOf c w p = [] ∧ unmade c w p = [] ∧
        ∀ kind, unloaded c kind p =
          [⟨"Could not load GELF " ++ kind ++ " class " ++ p, some f, .general⟩] := by
  have htruthy : ∀ p, p ≠ "" → (Value.str p).truthy = true := by
    intro p hp
    simp [Value.truthy, hp]
  have hsender : ∀ p, sought factory sender = some p → (Value.str p).truthy = true := by
    intro p hp
    cases factory with
    | none => exact htruthy p (hne p (.inl hp))
    | some o => cases hp
  have hfilter : ∀ p, filter = some p → (Value.str p).truthy = true := by
    intro p hp
    exact htruthy p (hne p (.inr hp))
  rw [perform_construct ha hs hf] at h
  generalize hmade : { w with handler := unopened config threshold factory } = w₁ at h
  -- making a filter hangs on the world outside only, and that is still as it was
  have hoff : w₁.outside = w.outside := by rw [← hmade]
  refine ⟨?_, fun hc p => foreseeable_iff_absolute hc, ?_, fun p f hp => leads_nowhere hp w⟩
  · have hgrown := loadNamed_iff hsender hfilter h
    simp only [filterable_congr hoff] at hgrown
    rwa [← hmade] at hgrown
  · rintro rfl
    have hr₁ : w₁.reporter ≠ .absent := by rwa [← hmade]
    have hsince := loadNamed_since hsender hfilter hr₁ h
    rw [filterOf_congr hoff, unmade_congr hoff, ← hmade] at hsince
    exact ⟨hsince.reports, hsince.handler⟩

/-- A path without a dot, and one into a package that there is not. -/
def misnamed : Named Value :=
  [("sender_class", .str "nowhere"), ("filter_class", .str "app.filters.Missing")]

def misnamedConfig : Config :=
  (Config.standard.set .filterClass (.str "app.filters.Missing")).set .senderClass (.str "nowhere")

theorem class_paths_reported_misnamed :
    Accepted none misnamed World.calm.levels misnamedConfig (.int 20) ∧
    ∃ w', (construct ⟨[]⟩ none misnamed none).perform .calm = (.ok (), w') ∧
      w'.handler = unopened misnamedConfig (.int 20) none ∧
      w'.reports = [
        ⟨"Could not load GELF sender class nowhere",
          some (Defect.notDotted (quotedText "nowhere")).toFault, .general⟩,
        ⟨"Could not load GELF filter class app.filters.Missing",
          some (Defect.noModule (quotedText "app")).toFault, .general⟩] := by
  have ha : Accepted none misnamed World.calm.levels misnamedConfig (.int 20) := ⟨rfl, rfl, rfl⟩
  have hok : ((construct ⟨[]⟩ none misnamed none).perform .calm).1 = .ok () := rfl
  have hr : World.calm.reporter ≠ .absent := nofun
  have hs : misnamedConfig.value .senderClass = textOrNull (some "nowhere") := rfl
  have hf : misnamedConfig.value .filterClass = textOrNull (some "app.filters.Missing") := rfl
  have hne : ∀ p, some "nowhere" = some p ∨ some "app.filters.Missing" = some p → p ≠ "" := by
    rintro p (⟨⟨⟩⟩ | ⟨⟨⟩⟩) <;> decide
  obtain ⟨-, -, hmade, -⟩ := class_paths_reported ha hr hs hf hne ⟨[]⟩ none rfl
  obtain ⟨hreports, hhandler⟩ := hmade hok
  exact ⟨ha, _, Prod.ext hok rfl, hhandler, hreports⟩

/-- A relative path is not reported: the fault of looking it up goes on. -/
theorem relative_path_raises : ∃ f w',
    (construct ⟨[]⟩ none [("sender_class", .str ".senders.Quiet")] none).perform .calm =
      (.error f, w') ∧ f.kind = .builtin "TypeError" ∧ w'.reports = [] :=
  ⟨_, _, rfl, rfl, rfl⟩

end Handler

end Gelf
