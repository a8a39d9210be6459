import Gelf.Proofs.Strict
import Gelf.Proofs.WellFormed

/-!
# Gelf.Proofs.HostLookup

The local host's name, over all messages that one builder makes.

* `Inquiry`: all that a lookup of the name has to do with. `Inquiry.settled`: after the lookup, if
  there was none before.
* `aside`: errands leave the inquiry alone. `localHost_settles`: asking for the name settles it.
* `inquiring`: making a message leaves the inquiry alone or settles it, even where it fails.
* `buildAll`: messages that one builder makes one after another. `hostname_looked_up_once`: whatever
  becomes of them, there is at most one lookup, and they agree on the host.
-/

namespace Gelf

open Act Handler

/-! ## Inquiries -/

/-- What is reported where the local host's name cannot be found out. -/
def unknownHost : String := "Unknown local hostname"

def Report.isUnknownHost (r : Report) : Bool := r.message == unknownHost

def Event.isHostName : Event → Bool
  | .hostName => true
  | _ => false

/-- What is known of the local host's name, what lookups will come to, how many there were, what was
reported of them and who is told. -/
structure Inquiry where
  host : LocalHost
  usual : String
  outcomes : List (Except Fault String)
  lookups : Nat
  reports : List Report
  reporter : Reporter

def World.inquiry (w : World) : Inquiry where
  host := w.host
  usual := w.outside.localName
  outcomes := w.outside.hostNames
  lookups := w.outside.events.countP Event.isHostName
  reports := w.reports.filter Report.isUnknownHost
  reporter := w.reporter

/-- What is kept of a report: nothing, if there is no one to tell. -/
def Reporter.kept (r : Report) : Reporter → List Report
  | .absent => []
  | _ => [r]

namespace Inquiry

/-- What the next lookup comes to. -/
def outcome (i : Inquiry) : Except Fault String := (Outside.next i.outcomes i.usual).1

/-- The report that a lookup leads to, if any, and if there is someone to tell. -/
def news (i : Inquiry) : List Report :=
  match (settleLookup i.outcome).2 with
  | some (.ok r) => i.reporter.kept r
  | _ => []

/-- The inquiry when the name was asked for. -/
def settled (i : Inquiry) : Inquiry :=
  match i.host with
  | .resolved _ => i
  | .unknown => { i with
      host := .resolved (settleLookup i.outcome).1
      outcomes := (Outside.next i.outcomes i.usual).2
      lookups := i.lookups + 1
      reports := i.reports ++ i.news }

/-- The name that is or will be known. -/
def name (i : Inquiry) : Option String :=
  match i.host with
  | .resolved n => n
  | .unknown => (settleLookup i.outcome).1

theorem settled_of_resolved {i : Inquiry} {n : Option String} (h : i.host = .resolved n) :
    i.settled = i := by
  unfold settled
  rw [h]

theorem settled_settled (i : Inquiry) : i.settled.settled = i.settled := by
  cases h : i.host with
  | resolved n => rw [settled_of_resolved h, settled_of_resolved h]
  | unknown =>
    refine settled_of_resolved (n := (settleLookup i.outcome).1) ?_
    unfold settled
    rw [h]

theorem name_settled (i : Inquiry) : i.settled.name = i.name := by
  cases h : i.host with
  | resolved n => rw [settled_of_resolved h]
  | unknown =>
    unfold settled name
    rw [h]

end Inquiry

/-! ## What leaves an inquiry alone -/

/-- In a busy or closed handler: the inquiry is left alone. -/
def aside : Passage := Passage.within Deaf
  ⟨fun w w' => w'.inquiry = w.inquiry, fun _ => rfl, fun h₁ h₂ => h₂.trans h₁⟩

variable {h : Hooks} {w w' : World}

theorem aside_same (hk : w'.handler = w.handler) (hi : w'.inquiry = w.inquiry) :
    aside.rel w w' := by
  intro hd
  refine ⟨?_, hi⟩
  unfold Deaf Closed at hd ⊢
  rw [hk]
  exact hd

/-- Any event will do but a lookup. -/
theorem inquiry_noted {o : Outside} {e : Event} (he : e.isHostName = false)
    (hn : o.localName = w.outside.localName) (hs : o.hostNames = w.outside.hostNames)
    (ho : o.events = w.outside.events ++ [e]) :
    ({ w with outside := o } : World).inquiry = w.inquiry := by
  unfold World.inquiry
  simp only [hn, hs, ho, List.countP_append, List.countP_singleton, he, Bool.false_eq_true,
    if_false, Nat.add_zero]

theorem shutting_aside : aside.Shutting where
  closed _ := aside_same rfl (inquiry_noted (e := .close) rfl rfl rfl rfl)
  senderClosed _ := aside_same rfl (inquiry_noted (e := .senderClosed) rfl rfl rfl rfl)
  sender _ _ _ := aside_same rfl rfl

theorem along_report_aside (hh : ∀ e, Along aside (h e)) {r : Report}
    (hr : r.isUnknownHost = false) : Along aside (report h r) := by
  refine along_report (fun w => aside_same rfl ?_) (fun _ => aside_same rfl rfl)
    (fun _ _ => aside_same rfl rfl) hh
  unfold World.inquiry
  simp only [List.filter_append, List.filter_cons, hr, Bool.false_eq_true, if_false,
    List.filter_nil, List.append_nil]

theorem retire_aside (w : World) : aside.rel w (retire.perform w).2 := by
  intro hd
  have hr : (retired w).inquiry = w.inquiry := by
    unfold retired
    split <;> rfl
  have hc : Deaf (retired w) := by
    unfold retired
    split <;> exact .inr rfl
  obtain ⟨hd', hi⟩ := rel_retire shutting_aside w hc
  exact ⟨hd', hi.trans hr⟩

theorem along_close_aside (hh : ∀ e, Along aside (h e)) : Along aside (close h) := by
  intro w
  by_cases hc : Closed w
  · rw [perform_close_closed hc]
    exact aside_same rfl rfl
  · obtain ⟨x, hx⟩ := perform_close_open hc
    have hu : Along aside (reportUnclosed h x) := by
      cases x with
      | ok _ => exact along_pure _
      | error f =>
        simp only [reportUnclosed]
        split
        · exact along_report_aside hh rfl
        · exact along_fault _
    rw [hx]
    exact aside.trans (retire_aside w)
      (along_bind hu (fun _ _ => aside_same rfl rfl) _)

theorem along_hooks_aside (n : Nat) (e : Errand) : Along aside (hooks n e) :=
  along_hooks_of (fun _ hh => along_close_aside hh)
    (fun _ _ r => along_handle_deaf (fun _ hd => hd) r) n e

theorem notFormatted_isUnknownHost (raw : String) (f : Fault) :
    (notFormatted raw f).isUnknownHost = false :=
  beq_false_of_ne (append_ne 0 (by decide) (by decide))

/-! ## The lookup -/

/-- The world after a lookup, when the name is settled and nothing is reported yet. -/
def lookedUp (w : World) : World := { w with
  outside := (Outside.hostName w.outside).2
  host := .resolved (settleLookup w.inquiry.outcome).1 }

theorem perform_localHost (hn : w.host = .unknown) : (localHost h).perform w =
    match (settleLookup w.inquiry.outcome).2 with
    | none => (.ok (settleLookup w.inquiry.outcome).1, lookedUp w)
    | some (.ok r) =>
      (report h r >>= fun _ => pure (settleLookup w.inquiry.outcome).1).perform (lookedUp w)
    | some (.error f) => (.error f, lookedUp w) := by
  unfold localHost
  rw [perform_get_bind, hn]
  dsimp only
  rw [perform_attempt_bind, perform_outward]
  dsimp only
  rw [perform_modify_bind]
  show (match (settleLookup w.inquiry.outcome).2 with
    | none => _
    | some (.ok r) => _
    | some (.error f) => _ : Act (Option String)).perform (lookedUp w) = _
  split <;> rfl

theorem settled_lookedUp (hn : w.host = .unknown) : w.inquiry.settled =
    { (lookedUp w).inquiry with reports := (lookedUp w).inquiry.reports ++ w.inquiry.news } := by
  unfold lookedUp World.inquiry Inquiry.settled
  simp [hn, Outside.hostName, Outside.note, Event.isHostName]

/-- The report of a lookup is kept, if there is someone to tell, whatever comes of telling. -/
theorem report_unknownHost (hh : ∀ e, Along aside (h e)) {r : Report} (hr : r.isUnknownHost = true)
    (hd : Deaf w) : Deaf ((report h r).perform w).2 ∧ ((report h r).perform w).2.inquiry =
      { w.inquiry with reports := w.inquiry.reports ++ w.reporter.kept r } := by
  by_cases ha : w.reporter = .absent
  · rw [perform_report_absent ha, ha]
    refine ⟨hd, ?_⟩
    simp only [Reporter.kept, List.append_nil]
  · have hk : w.reporter.kept r = [r] := by
      unfold Reporter.kept
      split
      · contradiction
      · rfl
    have ht : ({ w with reports := w.reports ++ [r] } : World).inquiry =
        { w.inquiry with reports := w.inquiry.reports ++ [r] } := by
      unfold World.inquiry
      simp only [List.filter_append, List.filter_cons, hr, if_true, List.filter_nil]
    obtain ⟨w', hw, hp⟩ := report_cases (fun _ _ => aside_same rfl rfl) hh r ha
    obtain ⟨hd', hi⟩ := hw hd
    rw [hk, ← ht, ← hi]
    obtain hp | ⟨f, hp⟩ := hp
    · rw [hp]
      exact ⟨hd', rfl⟩
    · rw [hp]
      exact ⟨hd', rfl⟩

theorem settleLookup_isUnknownHost {outcome : Except Fault String} {r : Report}
    (hr : (settleLookup outcome).2 = some (.ok r)) : r.isUnknownHost = true := by
  unfold settleLookup at hr
  split at hr
  · cases hr
  · split at hr
    · cases hr
      rfl
    · cases hr

theorem localHost_settles (hh : ∀ e, Along aside (h e)) (hd : Deaf w) :
    Deaf ((localHost h).perform w).2 ∧ ((localHost h).perform w).2.inquiry = w.inquiry.settled ∧
      ∀ n, ((localHost h).perform w).1 = .ok n → n = w.inquiry.name := by
  cases hn : w.host with
  | resolved n =>
    have hp : (localHost h).perform w = (.ok n, w) := by
      unfold localHost
      rw [perform_get_bind, hn]
      rfl
    have hs : w.inquiry.settled = w.inquiry := Inquiry.settled_of_resolved hn
    rw [hp, hs]
    refine ⟨hd, rfl, ?_⟩
    rintro _ ⟨⟩
    show n = match w.host with | .resolved n => n | .unknown => _
    rw [hn]
  | unknown =>
    have hs := settled_lookedUp hn
    have hname : w.inquiry.name = (settleLookup w.inquiry.outcome).1 := by
      show (match w.host with | .resolved n => n | .unknown => _) = _
      rw [hn]
    have hd' : Deaf (lookedUp w) := hd
    rw [perform_localHost hn, hs, hname]
    unfold Inquiry.news
    cases hq : (settleLookup w.inquiry.outcome).2 with
    | none =>
      rw [List.append_nil]
      refine ⟨hd', rfl, ?_⟩
      rintro _ ⟨⟩
      rfl
    | some sequel =>
      cases sequel with
      | ok r =>
        dsimp only
        rw [bind_pure_snd]
        obtain ⟨hd'', hi⟩ := report_unknownHost hh (settleLookup_isUnknownHost hq) hd'
        refine ⟨hd'', hi, fun n hr => ?_⟩
        obtain ⟨_, _, -, hr⟩ := bind_ok (Prod.ext hr rfl)
        cases hr
        rfl
      | error f =>
        rw [List.append_nil]
        refine ⟨hd', rfl, ?_⟩
        rintro _ ⟨⟩

/-! ## One message -/

/-- In a busy or closed handler: the inquiry is left alone or settled. -/
def inquiring : Passage := Passage.within Deaf
  { rel w w' := w'.inquiry = w.inquiry ∨ w'.inquiry = w.inquiry.settled
    refl _ := .inl rfl
    trans := by
      rintro w₁ w₂ w₃ (h₁ | h₁) (h₂ | h₂)
      · exact .inl (h₂.trans h₁)
      · exact .inr (h₂.trans (congrArg Inquiry.settled h₁))
      · exact .inr (h₂.trans h₁)
      · exact .inr (h₂.trans ((congrArg Inquiry.settled h₁).trans (Inquiry.settled_settled _))) }

theorem inquiring_of_aside (ha : aside.rel w w') : inquiring.rel w w' :=
  fun hd => ⟨(ha hd).1, .inl (ha hd).2⟩

theorem name_inquiring (hd : Deaf w) (hi : inquiring.rel w w') : w'.inquiry.name = w.inquiry.name := by
  obtain ⟨-, hs | hs⟩ := hi hd
  · rw [hs]
  · rw [hs, Inquiry.name_settled]

theorem along_script_inquiring (hh : ∀ e, Along aside (h e)) {α : Type} (s : Script α) :
    Along inquiring (script h s) := by
  refine along_script (fun e => (hh e).mono fun _ _ => inquiring_of_aside) (fun raw f => ?_)
    (fun w hd => ?_) s
  · exact (along_report_aside hh (notFormatted_isUnknownHost raw f)).mono fun _ _ =>
      inquiring_of_aside
  · obtain ⟨hd', hi, -⟩ := localHost_settles hh hd
    exact ⟨hd', .inr hi⟩

/-- A record that is rendered, with all that a message is made of besides. -/
structure Draft where
  levels : LevelNames
  context : Context
  record : Record
  rendered : Rendered

/-- The configured host, or else the local one. -/
def hostValue (config : Config) (name : Option String) : Value :=
  match config.value .originHost with
  | .null => (name.map Value.str).getD .null
  | host => host

theorem hostValue_null {config : Config} (h : config.value .originHost = .null)
    (name : Option String) : hostValue config name = (name.map Value.str).getD .null := by
  unfold hostValue
  split
  · rfl
  · contradiction

theorem hostValue_given {config : Config} (h : config.value .originHost ≠ .null)
    (name : Option String) : hostValue config name = config.value .originHost := by
  unfold hostValue
  split
  · contradiction
  · rfl

namespace Draft

variable {d : Draft} {config : Config} {m : Message}

/-- Makes the message. -/
def build (h : Hooks) (config : Config) (d : Draft) : Act Message :=
  script h (Message.ofRecord d.levels config d.context d.record d.rendered)

theorem along_build (hh : ∀ e, Along aside (h e)) (config : Config) (d : Draft) :
    Along inquiring (d.build h config) := along_script_inquiring hh _

/-- Where the host is configured, the inquiry is left alone. -/
theorem along_build_aside (hh : ∀ e, Along aside (h e)) (hc : config.value .originHost ≠ .null)
    (d : Draft) : Along aside (d.build h config) := by
  refine run_along (fun q hq w => ?_) (verbal_ofRecord hc ..).asks
  cases q with
  | errand e => exact hh e w
  | unformatted raw f | localHost => cases hq

theorem build_host (hh : ∀ e, Along aside (h e)) (hd : Deaf w)
    (hb : (d.build h config).perform w = (.ok m, w')) :
    m.host = hostValue config w.inquiry.name := by
  obtain ⟨⟨time, severity⟩, w₁, htime, hrest⟩ := Script.run_bind_ok hb
  obtain ⟨own, w₂, hown, hrest⟩ := Script.run_bind_ok hrest
  obtain ⟨host, w₃, hhost, hmade⟩ := Script.run_bind_ok hrest
  obtain ⟨-, rfl⟩ := Script.run_ofExcept_ok hown
  have hm : m.host = host := by
    have hp : ∀ (m : Message) (key v fields : Value), m.host = host →
        Message.putField m.fields key v = .ok fields →
        ({ m with fields := fields } : Message).host = host := fun _ _ _ _ hm _ => hm
    refine Script.run_yields (p := fun m => m.host = host) _ ?_ hmade
    refine Script.yields_bind (Message.yields_addField hp rfl _ _) fun m hm => ?_
    refine Script.yields_bind (Message.yields_addTag hp hm _ _ _) fun m hm => ?_
    exact Script.yields_bind (Script.yields_any _) fun _ _ => Message.yields_addFields hp hm _
  have hi : inquiring.rel w w₂ := by
    have ht := along_script_inquiring hh (timeAndSeverity d.levels d.record) w
    rwa [show (script h (timeAndSeverity d.levels d.record)).perform w = _ from htime] at ht
  rw [hm]
  by_cases hn : config.value .originHost = .null
  · rw [hostValue_null hn]
    rw [originHost_null hn] at hhost
    obtain ⟨name, w₄, hname, hhost⟩ := Script.run_bind_ok hhost
    rw [Script.run_request] at hname
    have hs := (localHost_settles hh (hi hd).1).2.2 name
    rw [show (localHost h).perform w₂ = _ from hname, name_inquiring hd hi] at hs
    cases hs rfl
    cases hk : w.inquiry.name with
    | none =>
      rw [hk] at hhost
      cases hhost
      rfl
    | some s =>
      rw [hk] at hhost
      cases hhost
      rfl
  · rw [hostValue_given hn]
    rw [originHost_given hn] at hhost
    cases hhost
    rfl

end Draft

/-! ## All messages of a builder -/

/-- Makes one message after another, whatever became of the one before. -/
def buildAll (h : Hooks) (config : Config) : List Draft → World → List (Except Fault Message) × World
  | [], w => ([], w)
  | d :: rest, w =>
    let now := (d.build h config).perform w
    let later := buildAll h config rest now.2
    (now.1 :: later.1, later.2)

section

variable (hh : ∀ e, Along aside (h e)) (config : Config) (drafts : List Draft)

include hh

/-- By induction on the messages that are made, as are the next two. -/
theorem buildAll_inquiring (w : World) : inquiring.rel w (buildAll h config drafts w).2 := by
  induction drafts generalizing w with
  | nil => exact inquiring.refl w
  | cons d rest ih => exact inquiring.trans (Draft.along_build hh config d w) (ih _)

theorem buildAll_aside (hc : config.value .originHost ≠ .null) (w : World) :
    aside.rel w (buildAll h config drafts w).2 := by
  induction drafts generalizing w with
  | nil => exact aside.refl w
  | cons d rest ih => exact aside.trans (Draft.along_build_aside hh hc d w) (ih _)

theorem buildAll_host {w : World} (hd : Deaf w) {m : Message}
    (hm : .ok m ∈ (buildAll h config drafts w).1) : m.host = hostValue config w.inquiry.name := by
  induction drafts generalizing w with
  | nil => cases hm
  | cons d rest ih =>
    have hi := Draft.along_build hh config d w
    obtain hm | hm := List.mem_cons.mp hm
    · exact Draft.build_host hh hd (Prod.ext hm.symm rfl)
    · rw [ih (hi hd).1 hm, name_inquiring hd hi]

end

theorem hostValue_settleLookup (config : Config) (outcome : Except Fault String) :
    hostValue config (settleLookup outcome).1 = match config.value .originHost, outcome with
      | .null, .ok name => if name = "" then .null else .str name
      | .null, .error _ => .null
      | host, _ => host := by
  unfold hostValue
  cases config.value .originHost with
  | null =>
    cases outcome with
    | ok name =>
      dsimp only
      by_cases he : name = ""
      · subst he
        rfl
      · have hf : (name == "") = false := beq_false_of_ne he
        simp only [settleLookup, hostName, hf, he, Bool.false_eq_true, if_false]
        rfl
    | error f =>
      dsimp only [settleLookup]
      split <;> rfl
  | _ => rfl

/-- There is news of a lookup just if it came to a system error and there is someone to tell. -/
theorem news_length (i : Inquiry) : ∃ told : Bool, i.news.length = told.toNat ∧
    (told = true ↔ (∃ f, i.outcome = .error f ∧ f.isA "OSError" = true) ∧
      i.reporter ≠ .absent) := by
  unfold Inquiry.news
  cases i.outcome with
  | ok name => exact ⟨false, rfl, by simp⟩
  | error f =>
    unfold settleLookup
    dsimp only
    cases hf : f.isA "OSError" with
    | false => exact ⟨false, rfl, by simp [hf]⟩
    | true =>
      cases i.reporter with
      | absent => exact ⟨false, rfl, by simp⟩
      | _ => exact ⟨true, rfl, by simp [hf]⟩

/-- Settling an inquiry takes one lookup, and one report just if there is news of it. -/
theorem settled_counts {i i' : Inquiry} (hn : i.host = .unknown) (hi : i' = i ∨ i' = i.settled) :
    ∃ looked told : Bool, i'.lookups = i.lookups + looked.toNat ∧
      i'.reports.length = i.reports.length + told.toNat ∧
      (told = true ↔ looked = true ∧ (∃ f, i.outcome = .error f ∧ f.isA "OSError" = true) ∧
        i.reporter ≠ .absent) := by
  obtain rfl | rfl := hi
  · exact ⟨false, false, rfl, rfl, by simp⟩
  · obtain ⟨told, hl, ht⟩ := news_length i
    unfold Inquiry.settled
    rw [hn]
    refine ⟨true, told, rfl, ?_, ht.trans (by simp)⟩
    rw [List.length_append, hl]

/-- However many messages a new builder makes and whatever becomes of them, the local host's name is
looked up at most once, and never where a host is configured. All messages that are made have the
same host: the configured one, or the name that was found, if it is not empty. A lookup that comes to
a system error is reported to whoever is there to be told, and nothing else is reported so. The
handler is busy, as it is whenever its builder is at work, or closed. -/
theorem hostname_looked_up_once (n : Nat) (config : Config) (drafts : List Draft) {w : World}
    (hd : Deaf w) (hn : w.host = .unknown) : ∃ looked told : Bool,
      let (made, after) := buildAll (hooks n) config drafts w
      let outcome := (Outside.hostName w.outside).1
      after.outside.events.countP Event.isHostName =
        w.outside.events.countP Event.isHostName + looked.toNat ∧
      (config.value .originHost ≠ .null → looked = false) ∧
      (∀ m, .ok m ∈ made → m.host = match config.value .originHost, outcome with
        | .null, .ok name => if name = "" then .null else .str name
        | .null, .error _ => .null
        | host, _ => host) ∧
      after.reports.countP Report.isUnknownHost =
        w.reports.countP Report.isUnknownHost + told.toNat ∧
      (told = true ↔ looked = true ∧ (∃ f, outcome = .error f ∧ f.isA "OSError" = true) ∧
        w.reporter ≠ .absent) := by
  have hh := along_hooks_aside n
  obtain ⟨-, hi⟩ := buildAll_inquiring hh config drafts w hd
  obtain ⟨looked, told, hlooked, htold, hiff⟩ := settled_counts hn hi
  have hname : w.inquiry.name = (settleLookup (Outside.hostName w.outside).1).1 := by
    show (match w.host with | .resolved n => n | .unknown => _) = _
    rw [hn]
    rfl
  refine ⟨looked, told, hlooked, fun hc => ?_, fun m hm => ?_, ?_, hiff⟩
  · obtain ⟨-, hs⟩ := buildAll_aside hh config drafts hc w hd
    rw [hs] at hlooked
    cases looked with
    | false => rfl
    | true => exact absurd hlooked (by simp)
  · rw [buildAll_host hh config drafts hd hm, hname, hostValue_settleLookup]
  · rw [List.countP_eq_length_filter, List.countP_eq_length_filter]
    exact htold

/-- A new builder of a busy handler, where the host's name cannot be had. -/
def nameless : World :=
  { World.calm with
    outside := { Outside.calm with
      hostNames := [.error (.raised (.builtin "OSError") [.str "no name"]), .ok "late"] }
    handler := { Handler.unused with emitting := true } }

/-- Records with nothing to them, with a diagnostic value that logs and fails, and with nothing
amiss. -/
def unevenDrafts : List Draft :=
  let plain : Record := .plainly (.str "app") (.str "hello")
  let chatty := Object.probe (some (.raised (.builtin "ValueError") [])) (some (.log
    ⟨.str "app", .int 20, "a.py", 1, .str "f", .str "again", .tuple [], .null, .null, .int 0, []⟩))
  [⟨[]⟩, plain.set "remoteAddr" (.object chatty), plain, plain].map fun r =>
    ⟨.standard, .empty, r, ⟨"hello", "hello", "hello"⟩⟩

/-- One build fails before the lookup and one after it; the messages that are made have no host. -/
theorem hostname_looked_up_once_nameless : Deaf nameless ∧ nameless.host = .unknown ∧
    let (made, after) := buildAll (hooks 8) .standard unevenDrafts nameless
    made.map Except.isOk = [false, false, true, true] ∧ (∀ m, .ok m ∈ made → m.host = .null) ∧
      after.outside.events.countP Event.isHostName ≤ 1 ∧
      after.reports.countP Report.isUnknownHost ≤ 1 := by
  obtain ⟨looked, told, hlooked, -, hhost, htold, -⟩ :=
    hostname_looked_up_once 8 .standard unevenDrafts (w := nameless) (by decide) rfl
  refine ⟨by decide, rfl, by decide +kernel, hhost, ?_, ?_⟩
  · rw [hlooked]
    show 0 + looked.toNat ≤ 1
    have := Bool.toNat_le looked
    omega
  · rw [htold]
    show 0 + told.toNat ≤ 1
    have := Bool.toNat_le told
    omega

end Gelf
