import ScanTool.Proofs.Bindings
import ScanTool.Settings.Basic

/-!
# Settings without requests of brands

The built-in settings hold no requests of brands, and they cannot be left out: where neither the
file nor the environment sets anything under `brand_queries`, there are no settings at all. The main
statement compares such an input with the same input and an empty table `brand_queries` in its file:
what fails there fails in the same way here, and what succeeds there fails here, because of the
table alone. A layer reaches a setting at the top only through the names that begin with it, which
is what the first half of the module says.
-/

namespace ScanTool

open ScanTool.Text

/-! ## Members of objects -/

namespace Json

variable {v w : Json} {key : String}

theorem field?_eq_lookup (v : Json) (name : String) : v.field? name = v.members.lookup name := by
  cases v <;> rfl

theorem field?_set (v : Json) (name other : String) (x : Json) :
    (v.set name x).field? other = if other = name then some x else v.field? other := by
  rw [field?_eq_lookup v, ← lookup_setBinding]
  rfl

/-- Values whose members agree but for what stands under one name. -/
def AgreeBut (key : String) (v w : Json) : Prop :=
  ∀ name, name ≠ key → v.field? name = w.field? name

theorem AgreeBut.set (h : AgreeBut key v w) {name : String} {x y : Json}
    (hxy : name ≠ key → x = y) : AgreeBut key (v.set name x) (w.set name y) := by
  intro other hother
  rw [field?_set, field?_set]
  split
  · rename_i he
    rw [hxy (he ▸ hother)]
  · exact h other hother

end Json

/-! ## What a layer reaches -/

namespace SettingsPath

/-- The setting at the top where a path begins. -/
def top? : List PathStep → Option String
  | .member name :: _ => some (lowercase name)
  | _ => none

/-- Every name at the top of a layer begins with a setting. -/
theorem exists_top?_ofName (name : String) : ∃ key, top? (ofName name) = some key := by
  show ∃ key, top? ((steps? (name.toList.length + 1) ('.' :: name.toList)).getD _) = some key
  cases h : steps? (name.toList.length + 1) ('.' :: name.toList) with
  | none => exact ⟨lowercase name, rfl⟩
  | some steps =>
    simp only [steps?] at h
    split at h
    · cases h
    · obtain ⟨rest, -, rfl⟩ := Option.map_eq_some_iff.mp h
      exact ⟨_, rfl⟩

/-- Setting a path sets the setting where it begins, to something that depends on what was there. -/
theorem layAt_of_top? {steps : List PathStep} {key : String} (h : top? steps = some key)
    (value : Json) : ∃ f : Option Json → Json, ∀ v,
      layAt value steps v = v.set key (f (v.field? key)) := by
  match steps, h with
  | [.member name], h =>
    obtain rfl := Option.some.inj h
    exact ⟨fun base => value.layOver base, fun _ => rfl⟩
  | .member name :: step :: rest, h =>
    obtain rfl := Option.some.inj h
    exact ⟨fun base => layAt value (step :: rest) (base.getD .null), fun _ => rfl⟩

end SettingsPath

namespace Json

variable {v w : Json} {key : String} {layer : List (String × Json)}

theorem layPaths_cons (m : String × Json) (rest : List (String × Json)) (base : Json) :
    base.layPaths (m :: rest) =
      (SettingsPath.layAt m.2 (SettingsPath.ofName m.1) base).layPaths rest := rfl

theorem layPaths_append (a b : List (String × Json)) (base : Json) :
    base.layPaths (a ++ b) = (base.layPaths a).layPaths b := List.foldl_append

/-- A layer laid over an object is an object. -/
theorem layPaths_eq_object {members : List (String × Json)} :
    ∃ members', (Json.object members).layPaths layer = .object members' := by
  induction layer generalizing members with
  | nil => exact ⟨members, rfl⟩
  | cons m rest ih =>
    obtain ⟨top, htop⟩ := SettingsPath.exists_top?_ofName m.1
    obtain ⟨f, hf⟩ := SettingsPath.layAt_of_top? htop m.2
    rw [layPaths_cons, hf]
    exact ih

/-- A layer leaves a setting at the top as it is if none of its names begins with it. -/
theorem layPaths_field?
    (h : ∀ m ∈ layer, SettingsPath.top? (SettingsPath.ofName m.1) ≠ some key) (v : Json) :
    (v.layPaths layer).field? key = v.field? key := by
  induction layer generalizing v with
  | nil => rfl
  | cons m rest ih =>
    rw [List.forall_mem_cons] at h
    obtain ⟨top, htop⟩ := SettingsPath.exists_top?_ofName m.1
    obtain ⟨f, hf⟩ := SettingsPath.layAt_of_top? htop m.2
    have hkey : key ≠ top := fun e => h.1 (e ▸ htop)
    rw [layPaths_cons, hf, ih h.2, field?_set, if_neg hkey]

/-- Values that agree but for one setting agree so under any layer. -/
theorem AgreeBut.layPaths (h : AgreeBut key v w) (layer : List (String × Json)) :
    AgreeBut key (v.layPaths layer) (w.layPaths layer) := by
  induction layer generalizing v w with
  | nil => exact h
  | cons m rest ih =>
    obtain ⟨top, htop⟩ := SettingsPath.exists_top?_ofName m.1
    obtain ⟨f, hf⟩ := SettingsPath.layAt_of_top? htop m.2
    rw [layPaths_cons, layPaths_cons, hf, hf]
    exact ih (h.set fun hne => by rw [h top hne])

/-- A setting that no name of a layer begins with is under the layer what it was set to, and
everything else is as if it had not been set. -/
theorem layPaths_set (members : List (String × Json)) (x : Json)
    (h : ∀ m ∈ layer, SettingsPath.top? (SettingsPath.ofName m.1) ≠ some key) :
    ∃ own own', (Json.object members).layPaths layer = .object own ∧
      ((Json.object members).set key x).layPaths layer = .object own' ∧
      AgreeBut key (.object own) (.object own') ∧
      (Json.object own).field? key = (Json.object members).field? key ∧
      (Json.object own').field? key = some x := by
  obtain ⟨own, hown⟩ : ∃ own, (Json.object members).layPaths layer = .object own :=
    layPaths_eq_object
  obtain ⟨own', hown'⟩ : ∃ own', ((Json.object members).set key x).layPaths layer = .object own' :=
    layPaths_eq_object
  have agree : AgreeBut key (.object members) ((Json.object members).set key x) := by
    intro name hname
    rw [field?_set, if_neg hname]
  refine ⟨own, own', hown, hown', ?_, ?_, ?_⟩
  · rw [← hown, ← hown']
    exact agree.layPaths layer
  · rw [← hown, layPaths_field? h]
  · rw [← hown', layPaths_field? h, field?_set, if_pos rfl]

end Json

/-! ## Reading the settings -/

namespace Settings

variable {v w : Json}

/-- A setting of an object is read from the member of its name alone. -/
theorem setting_congr {α : Type} {members members' : List (String × Json)} {name : String}
    (h : (Json.object members).field? name = (Json.object members').field? name) (position : Nat)
    (read : Read α) :
    setting (.object members) position name read =
      setting (.object members') position name read := by
  unfold setting
  dsimp only
  rw [h]

/-- Of two objects that agree but for the requests of brands, the one without them gives the failure
of the one in which they are empty, or fails because they are absent. -/
theorem ofJson_without_queries {members members' : List (String × Json)}
    (agree : Json.AgreeBut "brand_queries" (.object members) (.object members'))
    (absent : (Json.object members).field? "brand_queries" = none)
    (empty : (Json.object members').field? "brand_queries" = some (.object [])) :
    ofJson (.object members) =
      (ofJson (.object members')).bind (fun _ => .error (.absent "brand_queries")) ∧
    ∀ s, ofJson (.object members') = .ok s → s.queries = [] := by
  have hsession := setting_congr (agree "adapter" (by decide)) 0 readSession
  have htables := setting_congr (agree "tables" (by decide)) 1 readTables
  have hpoll := setting_congr (agree "poll_interval_ms" (by decide)) 3
    (optional (natural (twoTo 64)))
  have hqueries : setting (.object members) 2 "brand_queries" namedTexts = .ok none := by
    unfold setting
    dsimp only
    rw [absent]
  have hqueries' : setting (.object members') 2 "brand_queries" namedTexts = .ok (some []) := by
    unfold setting
    dsimp only
    rw [empty]
    rfl
  unfold ofJson
  rw [hsession, htables, hpoll, hqueries, hqueries']
  simp only [bind, Except.bind, pure, Except.pure]
  -- what is wrong with a setting that is there comes first, in both objects alike
  cases setting (.object members') 0 "adapter" readSession with
  | error e => exact ⟨rfl, fun _ h => by cases h⟩
  | ok session =>
    cases setting (.object members') 1 "tables" readTables with
    | error e => exact ⟨rfl, fun _ h => by cases h⟩
    | ok tables =>
      cases setting (.object members') 3 "poll_interval_ms" (optional (natural (twoTo 64))) with
      | error e => exact ⟨rfl, fun _ h => by cases h⟩
      | ok interval =>
        -- then what is left out, of which the requests are the last
        cases session with
        | none => exact ⟨rfl, fun _ h => by cases h⟩
        | some session =>
          cases tables with
          | none => exact ⟨rfl, fun _ h => by cases h⟩
          | some tables => exact ⟨rfl, fun _ h => by cases h; rfl⟩

end Settings

/-! ## Leaving the requests out -/

/-- An empty table of requests, where there are none yet, becomes the setting. -/
theorem layAt_brandQueries {v : Json} (h : v.field? "brand_queries" = none) :
    SettingsPath.layAt (.object []) (SettingsPath.ofName "brand_queries") v =
      v.set "brand_queries" (.object []) := by
  have hname : SettingsPath.ofName "brand_queries" = [.member "brand_queries"] := by decide +kernel
  have hlower : lowercase "brand_queries" = "brand_queries" := by decide +kernel
  rw [hname]
  show v.set (lowercase "brand_queries") _ = _
  rw [hlower, h]
  rfl

theorem exists_ok_of_any {ε α : Type} {x : Except ε α} {test : α → Bool}
    (h : x.toOption.any test = true) : ∃ a, x = .ok a ∧ test a = true := by
  cases x with
  | error e => cases h
  | ok a => exact ⟨a, rfl, h⟩

/-- Whether a layer is an empty table `brand_queries` and nothing else. -/
def isEmptyTable : List (String × Json) → Bool
  | [(name, .object [])] => name == "brand_queries"
  | _ => false

theorem eq_of_isEmptyTable {layer : List (String × Json)} (h : isEmptyTable layer = true) :
    layer = [("brand_queries", .object [])] := by
  unfold isEmptyTable at h
  split at h
  · rw [beq_iff_eq.mp h]
  · cases h

/-- Where nothing is set under `brand_queries`, there are no settings: the failure is that of the
same input with an empty table `brand_queries` in its file, and if that does not fail, that the
table is left out. With the empty table there are no requests. -/
theorem Settings.load_without_queries {files files' : Files} {path : Option String}
    {environment : List (String × String)} {before after : List (String × Json)}
    (hfile : SettingsLayer.ofFile files path = .ok (before ++ after))
    (hfile' : SettingsLayer.ofFile files' path =
      .ok (before ++ ("brand_queries", .object []) :: after))
    (unset : ∀ m ∈ before ++ after ++ SettingsLayer.ofEnvironment environment,
      SettingsPath.top? (SettingsPath.ofName m.1) ≠ some "brand_queries") :
    Settings.load files path environment =
      (Settings.load files' path environment).bind
        (fun _ => .error (.absent "brand_queries")) ∧
    ∀ s, Settings.load files' path environment = .ok s → s.queries = [] := by
  rw [List.append_assoc, List.forall_mem_append] at unset
  obtain ⟨hbefore, hlater⟩ := unset
  -- what is set up to the place of the empty table, and what is laid over it
  obtain ⟨members, hbase⟩ : ∃ members, SettingsLayer.builtIn.layPaths before = .object members :=
    Json.layPaths_eq_object
  have hnone : (Json.object members).field? "brand_queries" = none := by
    rw [← hbase, Json.layPaths_field? hbefore]
    rfl
  obtain ⟨own, own', hown, hown', agree, absent, empty⟩ :=
    Json.layPaths_set members (.object []) hlater
  have hstack : SettingsLayer.stack files path environment = .ok (.object own) := by
    rw [SettingsLayer.stack, hfile, ← hown, Json.layPaths_append, ← hbase]
    simp only [Except.map, Json.layPaths_append]
  have hstack' : SettingsLayer.stack files' path environment = .ok (.object own') := by
    rw [SettingsLayer.stack, hfile', ← hown', Json.layPaths_append, ← layAt_brandQueries hnone,
      ← hbase]
    simp only [Except.map, Json.layPaths_append, Json.layPaths_cons]
  rw [Settings.load, hstack, Settings.load, hstack']
  exact Settings.ofJson_without_queries agree (absent.trans hnone) empty

/-- Without a settings file and without environment variables there are no settings. With a file of
that one empty table there are the built-in ones. -/
theorem Settings.load_of_nothing_set :
    let files : Files := fun _ => .error .missing
    let files' : Files := fun path =>
      if path = "obd-diag.toml" then .ok (.text "[brand_queries]\n") else .error .missing
    SettingsLayer.ofFile files none = .ok ([] ++ []) ∧
      SettingsLayer.ofFile files' none = .ok ([] ++ ("brand_queries", .object []) :: []) ∧
      Settings.load files none [] = .error (.absent "brand_queries") ∧
      ∃ s, Settings.load files' none [] = .ok s ∧ s.session = .standard ∧ s.queries = [] := by
  intro files files'
  obtain ⟨layer, hfile, nothing⟩ := exists_ok_of_any
    (show (SettingsLayer.ofFile files none).toOption.any List.isEmpty = true by decide +kernel)
  obtain rfl := List.isEmpty_iff.mp nothing
  obtain ⟨layer', hfile', table⟩ := exists_ok_of_any
    (show (SettingsLayer.ofFile files' none).toOption.any isEmptyTable = true by decide +kernel)
  rw [eq_of_isEmptyTable table] at hfile'
  have unset : ∀ m ∈ [] ++ [] ++ SettingsLayer.ofEnvironment [],
      SettingsPath.top? (SettingsPath.ofName m.1) ≠ some "brand_queries" := by decide
  obtain ⟨without, queries⟩ := load_without_queries hfile hfile' unset
  have usual : (Settings.load files' none []).toOption.map Settings.session = some .standard := by
    decide +kernel
  cases h : Settings.load files' none [] with
  | error e =>
    rw [h] at usual
    cases usual
  | ok s =>
    rw [h] at without usual
    exact ⟨hfile, hfile', without, s, rfl, Option.some.inj usual, queries s h⟩

end ScanTool
