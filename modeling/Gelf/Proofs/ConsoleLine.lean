import Gelf.LogConfig
import Gelf.Proofs.Percent
import Gelf.Proofs.PercentSigns

/-!
# Gelf.Proofs.ConsoleLine

The line that a console shows for a record.

* `formatFrom_keyed`: the text under a key takes the place of the conversion that names it.
* `Parts`, `Parts.line`: what a line shows of a record, and that line with the service's name between
  the time and the level.
* `service_shown`: without percent signs in the service's name, each line is made of its parts and the
  name as it is. The name stands in the format as it was given: with a percent sign in it, no line
  shows it.
-/

namespace Gelf

open Gelf.Text

namespace Printf

/-! ## Conversions that name a key -/

variable {size : Nat} {s : Supply}

theorem lookUp_of_get? {es : Entries} {key : String} {v : Value} (h : es.get? (.str key) = some v) :
    lookUp (.dict es) key = .ok v := by
  rw [lookUp, h]

theorem splitKey_closed {key : List Char} (ho : '(' ∉ key) (hc : ')' ∉ key) (rest : List Char) :
    splitKey 1 (key ++ ')' :: rest) = some (key, rest) := by
  induction key with
  | nil => rfl
  | cons c key ih =>
    rw [List.mem_cons, not_or] at ho hc
    have hopen : (c == '(') = false := beq_false_of_ne (Ne.symm ho.1)
    have hclose : (c == ')') = false := beq_false_of_ne (Ne.symm hc.1)
    rw [List.cons_append, splitKey, hopen, hclose]
    show (splitKey 1 (key ++ ')' :: rest)).map _ = _
    rw [ih ho.2 hc.2]
    rfl

theorem read_keyed {key : String} (ho : '(' ∉ key.toList) (hc : ')' ∉ key.toList) {m v : Value}
    (hm : s.mapping = some m) (hv : lookUp m key = .ok v) (rest : List Char) :
    Spec.read s ('(' :: (key.toList ++ ')' :: 's' :: rest)) =
      .ok (.bare 's', { s with items := [v] }, rest) := by
  have hkey : readKey s ('(' :: (key.toList ++ ')' :: 's' :: rest)) =
      .ok ({ s with items := [v] }, 's' :: rest) := by
    rw [readKey, hm, splitKey_closed ho hc]
    dsimp only
    rw [String.ofList_toList, hv]
  rw [Spec.read, hkey]
  rfl

theorem formatFrom_keyed {key : String} (ho : '(' ∉ key.toList) (hc : ')' ∉ key.toList)
    {items : List Value} {m : Value} {t : String} (hv : lookUp m key = .ok (.str t))
    (rest : List Char) :
    formatFrom size ⟨items, some m⟩ ('%' :: '(' :: (key.toList ++ ')' :: 's' :: rest)) =
      (formatFrom size ⟨[], some m⟩ rest).bind fun out => .done (t.toList ++ out) := by
  have hread := read_keyed (s := ⟨items, some m⟩) ho hc rfl hv rest
  have hconvert : ∀ index, (Spec.bare 's').convert index (.str t) = .done (.ofText t.toList) :=
    fun _ => rfl
  rw [formatFrom_read (by nofun) hread, hconvert]
  simp only [place_bare, Script.ofExcept, Script.bind]
  rfl

theorem formatFrom_end (items : List Value) (m : Value) :
    formatFrom size ⟨items, some m⟩ [] = .done [] := by
  rw [formatFrom]
  rfl

end Printf

namespace LogConfig

open Printf Script

/-- The texts of a record that a line is made of. -/
structure Parts where
  time : String
  level : String
  logger : String
  message : String

namespace Parts

def line (parts : Parts) (service : String) : String :=
  parts.time ++ " " ++ service ++ " " ++ parts.level ++ " " ++ parts.logger ++ ": " ++ parts.message

def fields (parts : Parts) : Named String :=
  [("asctime", parts.time), ("levelname", parts.level), ("name", parts.logger),
    ("message", parts.message)]

/-- These are the texts that the attributes have for a line. -/
structure In (parts : Parts) (attributes : Entries) : Prop where
  time : attributes.get? (.str "asctime") = some (.str parts.time)
  level : attributes.get? (.str "levelname") = some (.str parts.level)
  logger : attributes.get? (.str "name") = some (.str parts.logger)
  message : attributes.get? (.str "message") = some (.str parts.message)

theorem in_fields (parts : Parts) :
    parts.In (parts.fields.map fun n => (.str n.1, .str n.2)) :=
  ⟨rfl, rfl, rfl, rfl⟩

end Parts

theorem lineFormat_toList (service : String) : (lineFormat service).toList =
    '%' :: '(' :: ("asctime".toList ++ ')' :: 's' :: ' ' :: (service.toList ++ ' ' ::
      '%' :: '(' :: ("levelname".toList ++ ')' :: 's' :: ' ' ::
        '%' :: '(' :: ("name".toList ++ ')' :: 's' :: ':' :: ' ' ::
          '%' :: '(' :: ("message".toList ++ [')', 's']))))) := by
  rw [lineFormat, String.toList_append, String.toList_append, List.append_assoc]
  rfl

theorem format_line {service : String} (h : '%' ∉ service.toList) {attributes : Entries}
    {parts : Parts} (hs : parts.In attributes) :
    format (lineFormat service) (.dict attributes) = .done (parts.line service) := by
  have htime := lookUp_of_get? hs.time
  have hlevel := lookUp_of_get? hs.level
  have hlogger := lookUp_of_get? hs.logger
  have hmessage := lookUp_of_get? hs.message
  unfold format
  rw [lineFormat_toList, Supply.ofArgs, formatFrom_keyed (by decide) (by decide) htime,
    formatFrom_cons (by decide), formatFrom_append h, formatFrom_cons (by decide),
    formatFrom_keyed (by decide) (by decide) hlevel, formatFrom_cons (by decide),
    formatFrom_keyed (by decide) (by decide) hlogger, formatFrom_cons (by decide),
    formatFrom_cons (by decide), formatFrom_keyed (by decide) (by decide) hmessage, formatFrom_end]
  simp only [Script.bind]
  refine congrArg Script.done (String.toList_inj.mp ?_)
  simp [Parts.line]

/-- The only double percent signs are those of the name. -/
theorem doubles_lineFormat (service : String) :
    doubles (lineFormat service).toList = doubles service.toList := by
  have hparts : (lineFormat service).toList = "%(asctime)s".toList ++ ' ' :: (service.toList ++
      ' ' :: "%(levelname)s %(name)s: %(message)s".toList) := by
    rw [lineFormat, String.toList_append, String.toList_append, List.append_assoc]
    rfl
  have hbefore : doubles "%(asctime)s".toList = 0 := by decide
  have hafter : doubles "%(levelname)s %(name)s: %(message)s".toList = 0 := by decide
  rw [hparts, doubles_append (by decide), doubles_append (by decide), hbefore, hafter]
  omega

/-! ## The plain format of a configuration -/

/-- What stands in mappings inside one another, under one name after another. -/
def under? (v : Value) : List String → Option Value
  | [] => some v
  | name :: path =>
    match v with
    | .dict es => (Entries.get? es (.str name)).bind fun inner => under? inner path
    | _ => none

/-- A line shows the service's name as it is if there is no percent sign in it. If there is one, its
percent signs and those beside them make conversions, and no line shows the name, whatever the
attributes are, as long as they bring no percent signs of their own. -/
theorem service_shown (c : Call) {service : String} (hs : c.service = .str service) :
    ∃ config layout, make c = .done config ∧
      under? config ["formatters", "plain", "format"] = some (.str layout) ∧
      ('%' ∉ service.toList → ∀ (attributes : Entries) (parts : Parts), parts.In attributes →
        format layout (.dict attributes) = .done (parts.line service)) ∧
      ('%' ∈ service.toList → ∀ attributes : Named String,
        (∀ n ∈ attributes, '%' ∉ n.1.toList ∧ '%' ∉ n.2.toList) → ∀ line,
          (format layout (fieldsValue attributes)).Returns line →
            ¬ service.toList <:+: line.toList) := by
  have hmake : ∃ config, make c = .done config ∧
      under? config ["formatters", "plain", "format"] = some (.str (lineFormat service)) := by
    rw [make, hs]
    exact ⟨_, rfl, rfl⟩
  obtain ⟨config, hmake, hplain⟩ := hmake
  refine ⟨config, lineFormat service, hmake, hplain, fun h attributes parts hparts =>
    format_line h hparts, fun h attributes hattributes line hline hinfix => ?_⟩
  -- a line that shows the name has all its percent signs, and these are more than its double ones
  obtain ⟨σ, answer, w, w', hrun⟩ := hline
  have hsigns := run_yields _ (count_format_le (.mapping hattributes) (lineFormat service)) hrun
  have hname := hinfix.sublist.count_le '%'
  have hdouble := doubles_lt_count h
  rw [doubles_lineFormat] at hsigns
  omega

/-- A call that names just a service and a host. -/
def plainCall (service : String) : Call :=
  ⟨.str service, .str "graylog", .str "INFO", .null, .null, .bool true, []⟩

def startup : Parts := ⟨"12:00", "INFO", "app", "up"⟩

/-- What a name with a double percent sign is shown as is another name. -/
theorem service_shown_startup :
    (∃ config layout, make (plainCall "parsing") = .done config ∧
      under? config ["formatters", "plain", "format"] = some (.str layout) ∧
      format layout (fieldsValue startup.fields) = .done "12:00 parsing INFO app: up") ∧
    ∃ config layout, make (plainCall "50%% off") = .done config ∧
      under? config ["formatters", "plain", "format"] = some (.str layout) ∧
      (format layout (fieldsValue startup.fields)).Returns "12:00 50% off INFO app: up" ∧
      ¬ "50%% off".toList <:+: "12:00 50% off INFO app: up".toList := by
  have hplain : ∀ n ∈ startup.fields, '%' ∉ n.1.toList ∧ '%' ∉ n.2.toList := by decide
  constructor
  · obtain ⟨config, layout, hmake, hlayout, hshown, -⟩ := service_shown (plainCall "parsing") rfl
    exact ⟨config, layout, hmake, hlayout, hshown (by decide) _ startup startup.in_fields⟩
  · obtain ⟨config, layout, hmake, hlayout, -, hhidden⟩ := service_shown (plainCall "50%% off") rfl
    cases hmake
    cases hlayout
    have hline : (format (lineFormat "50%% off") (fieldsValue startup.fields)).Returns
        "12:00 50% off INFO app: up" := by
      have hsome : (format (lineFormat "50%% off") (fieldsValue startup.fields)).quiet.toOption =
          some "12:00 50% off INFO app: up" := by decide +kernel
      rw [(verbal_format _ _).returns_iff]
      cases hquiet : (format (lineFormat "50%% off") (fieldsValue startup.fields)).quiet with
      | ok line =>
        rw [hquiet] at hsome
        exact congrArg Except.ok (Option.some.inj hsome)
      | error f =>
        rw [hquiet] at hsome
        cases hsome
    exact ⟨_, _, rfl, rfl, hline, hhidden (by decide) _ hplain _ hline⟩

/-- After the name `100%` there is a blank and a percent sign, and this asks for an argument more: the
line is lost. -/
theorem percent_name_lost :
    ∃ config layout, make (plainCall "100%") = .done config ∧
      under? config ["formatters", "plain", "format"] = some (.str layout) ∧
      (format layout (fieldsValue startup.fields)).quiet.toOption = none ∧
      format layout (fieldsValue startup.fields) ≠ .done (startup.line "100%") := by
  have hlost : (format (lineFormat "100%") (fieldsValue startup.fields)).quiet.toOption = none := by
    decide +kernel
  refine ⟨_, _, rfl, rfl, hlost, fun h => ?_⟩
  rw [h] at hlost
  cases hlost

end LogConfig

end Gelf
