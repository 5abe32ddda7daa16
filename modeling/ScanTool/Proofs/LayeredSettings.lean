import ScanTool.Proofs.SettingsAddresses

/-!
# Settings from layers, one by one

The settings that are built in, those of a file and those of the environment are laid one over the
other, and the result is read. The main statement takes this apart again: each setting is what the
environment says, or else what the file says, or else what is built in, whatever the layers say about
the other settings.
-/

namespace ScanTool

open ScanTool.Text

/-! ## Reading the settings -/

namespace Settings

/-- What a value gives for a setting, or what is usual if there is none. -/
def settle {α : Type} (read : Read α) (name : String) (usual : α) : Option Json →
    Except SettingsError α
  | some v => read name v
  | none => .ok usual

variable {α : Type} {read : Read α} {name : String} {usual a : α} {given layered : Option Json}

/-- A value that is read as what is usual can as well be left out. -/
theorem settle_or {built : Option Json} (same : ∀ v, built = some v → read name v = .ok usual) :
    settle read name usual (given.or built) = settle read name usual given := by
  cases given with
  | some v => rfl
  | none =>
    rw [Option.none_or]
    cases built with
    | none => rfl
    | some v => exact same v rfl

theorem bind_eq_ok {ε β : Type} {x : Except ε α} {f : α → Except ε β} {b : β}
    (h : x >>= f = .ok b) : ∃ a, x = .ok a ∧ f a = .ok b := by
  cases x with
  | error e => cases h
  | ok a => exact ⟨a, rfl, h⟩

theorem need_eq_ok {o : Option α} (h : need name o = .ok a) : o = some a := by
  cases o with
  | none => cases h
  | some b => exact congrArg some (Except.ok.inj h)

variable {group : Json} {position : Nat} {o : Option α}

theorem setting_of_named (named : ∀ items, group ≠ .list items) (read : Read α) :
    setting group position name read =
      match group.field? name with
      | none => .ok none
      | some v => (read name v).map some := by
  unfold setting
  split
  · rename_i items
    exact absurd rfl (named items)
  · rfl

/-- A setting of a group that is given by name. -/
theorem read_of_setting (named : ∀ items, group ≠ .list items)
    (h : setting group position name read = .ok o) :
    (group.field? name).map (read name) = o.map .ok := by
  rw [setting_of_named named] at h
  split at h
  · rename_i none
    cases h
    rw [none]
    rfl
  · rename_i v found
    rw [found, Option.map_some]
    cases given : read name v with
    | error e =>
      rw [given] at h
      cases h
    | ok a =>
      rw [given] at h
      cases h
      rfl

/-- A setting that must be there is. -/
theorem read_of_need (named : ∀ items, group ≠ .list items)
    (h : setting group position name read = .ok o) (needed : need name o = .ok a) :
    ∃ v, group.field? name = some v ∧ read name v = .ok a := by
  have given := read_of_setting named h
  rw [need_eq_ok needed] at given
  exact Option.map_eq_some_iff.mp given

theorem settle_of_need (named : ∀ items, group ≠ .list items)
    (h : setting group position name read = .ok o) (needed : need name o = .ok a) (usual : α) :
    settle read name usual (group.field? name) = .ok a := by
  obtain ⟨v, found, same⟩ := read_of_need named h needed
  rw [found]
  exact same

/-- A setting that is left out is empty, as one that is set to nothing. -/
theorem settle_of_optional {o : Option (Option α)} (named : ∀ items, group ≠ .list items)
    (h : setting group position name (optional read) = .ok o) :
    settle (optional read) name none (group.field? name) = .ok o.join := by
  have given := read_of_setting named h
  cases found : group.field? name with
  | none =>
    rw [found] at given
    cases o with
    | none => rfl
    | some a => cases given
  | some v =>
    rw [found] at given
    cases o with
    | none => cases given
    | some a => exact Option.some.inj given

/-- The settings of a session are read one by one. -/
theorem readSession_eq_ok {s : SessionSettings} (named : ∀ items, group ≠ .list items)
    (h : readSession name group = .ok s) (usual : SessionSettings) :
    settle text "device" usual.device (group.field? "device") = .ok s.device ∧
    settle (natural (twoTo 32)) "baud_rate" usual.baudRate (group.field? "baud_rate") =
      .ok s.baudRate ∧
    settle (choice BusProtocol.all BusProtocol.name) "protocol" usual.protocol
      (group.field? "protocol") = .ok s.protocol ∧
    settle (choice SetupPolicy.all SetupPolicy.name) "init_policy" usual.policy
      (group.field? "init_policy") = .ok s.policy ∧
    settle (natural (twoTo 64)) "init_delay_ms" usual.setupDelay (group.field? "init_delay_ms") =
      .ok s.setupDelay ∧
    settle (natural (twoTo 64)) "settle_delay_ms" usual.settleDelay
      (group.field? "settle_delay_ms") = .ok s.settleDelay ∧
    settle (natural (twoTo 64)) "read_timeout_ms" usual.readTimeout
      (group.field? "read_timeout_ms") = .ok s.readTimeout := by
  unfold readSession at h
  dsimp only at h
  split at h
  · cases h
  obtain ⟨device, device', h⟩ := bind_eq_ok h
  obtain ⟨baudRate, baudRate', h⟩ := bind_eq_ok h
  obtain ⟨protocol, protocol', h⟩ := bind_eq_ok h
  obtain ⟨policy, policy', h⟩ := bind_eq_ok h
  obtain ⟨setupDelay, setupDelay', h⟩ := bind_eq_ok h
  obtain ⟨settleDelay, settleDelay', h⟩ := bind_eq_ok h
  obtain ⟨readTimeout, readTimeout', h⟩ := bind_eq_ok h
  obtain ⟨_, needDevice, h⟩ := bind_eq_ok h
  obtain ⟨_, needBaudRate, h⟩ := bind_eq_ok h
  obtain ⟨_, needProtocol, h⟩ := bind_eq_ok h
  obtain ⟨_, needPolicy, h⟩ := bind_eq_ok h
  obtain ⟨_, needSetupDelay, h⟩ := bind_eq_ok h
  obtain ⟨_, needSettleDelay, h⟩ := bind_eq_ok h
  obtain ⟨_, needReadTimeout, h⟩ := bind_eq_ok h
  cases h
  exact ⟨settle_of_need named device' needDevice _, settle_of_need named baudRate' needBaudRate _,
    settle_of_need named protocol' needProtocol _, settle_of_need named policy' needPolicy _,
    settle_of_need named setupDelay' needSetupDelay _,
    settle_of_need named settleDelay' needSettleDelay _,
    settle_of_need named readTimeout' needReadTimeout _⟩

/-- The file with more descriptions can be left out. -/
theorem readTables_eq_ok {brandDir : String} {genericFile : Option String}
    (named : ∀ items, group ≠ .list items) (h : readTables name group = .ok (brandDir, genericFile))
    (usual : String) :
    settle text "brand_dir" usual (group.field? "brand_dir") = .ok brandDir ∧
    settle (optional text) "generic_file" none (group.field? "generic_file") = .ok genericFile := by
  unfold readTables at h
  dsimp only at h
  split at h
  · cases h
  obtain ⟨dir, dir', h⟩ := bind_eq_ok h
  obtain ⟨file, file', h⟩ := bind_eq_ok h
  obtain ⟨_, needDir, h⟩ := bind_eq_ok h
  split at h
  · exact absurd rfl (named _)
  · cases h
    exact ⟨settle_of_need named dir' needDir _, settle_of_optional named file'⟩

theorem texts_eq_ok {bindings : List (String × Json)} {named : List (String × String)}
    (h : texts bindings = .ok named) :
    named.map (·.1) = bindings.map (·.1) ∧
      ∀ name, (bindings.lookup name).map (text name) = (named.lookup name).map .ok := by
  induction bindings generalizing named with
  | nil =>
    cases h
    exact ⟨rfl, fun _ => rfl⟩
  | cons b rest ih =>
    obtain ⟨key, v⟩ := b
    unfold texts at h
    obtain ⟨s, read, h⟩ := bind_eq_ok h
    obtain ⟨others, later, h⟩ := bind_eq_ok h
    cases h
    obtain ⟨names, lookups⟩ := ih later
    refine ⟨by rw [List.map_cons, List.map_cons, names], fun name => ?_⟩
    rw [lookup_cons_eq_ite, lookup_cons_eq_ite]
    split
    · rename_i same
      subst same
      rw [Option.map_some, Option.map_some, read]
    · exact lookups name

/-- The settings of an object are read group by group. -/
theorem ofJson_eq_ok {members : List (String × Json)} {s : Settings}
    (h : ofJson (.object members) = .ok s) :
    (∃ v, (Json.object members).field? "adapter" = some v ∧ readSession "adapter" v = .ok s.session) ∧
    (∃ v, (Json.object members).field? "tables" = some v ∧
      readTables "tables" v = .ok (s.brandDir, s.genericFile)) ∧
    (∃ bindings, (Json.object members).field? "brand_queries" = some (.object bindings) ∧
      texts bindings = .ok s.queries) ∧
    settle (optional (natural (twoTo 64))) "poll_interval_ms" none
      ((Json.object members).field? "poll_interval_ms") = .ok s.pollInterval := by
  have named : ∀ items, Json.object members ≠ .list items := nofun
  unfold ofJson at h
  obtain ⟨session, session', h⟩ := bind_eq_ok h
  obtain ⟨tables, tables', h⟩ := bind_eq_ok h
  obtain ⟨queries, queries', h⟩ := bind_eq_ok h
  obtain ⟨interval, interval', h⟩ := bind_eq_ok h
  obtain ⟨_, needSession, h⟩ := bind_eq_ok h
  obtain ⟨⟨brandDir, genericFile⟩, needTables, h⟩ := bind_eq_ok h
  obtain ⟨_, needQueries, h⟩ := bind_eq_ok h
  cases h
  refine ⟨read_of_need named session' needSession, read_of_need named tables' needTables, ?_,
    settle_of_optional named interval'⟩
  obtain ⟨v, found, read⟩ := read_of_need named queries' needQueries
  unfold namedTexts at read
  split at read
  · exact ⟨_, found, read⟩
  · cases read

/-- Settings are, one by one, what is given at their addresses, or else what is usual. The requests of
brands are those that are given, each brand once. -/
structure OneByOne (given? : List String → Option Json) (s : Settings) : Prop where
  device : settle text "device" SessionSettings.standard.device (given? ["adapter", "device"]) =
    .ok s.session.device
  baudRate : settle (natural (twoTo 32)) "baud_rate" SessionSettings.standard.baudRate
    (given? ["adapter", "baud_rate"]) = .ok s.session.baudRate
  protocol : settle (choice BusProtocol.all BusProtocol.name) "protocol"
    SessionSettings.standard.protocol (given? ["adapter", "protocol"]) = .ok s.session.protocol
  policy : settle (choice SetupPolicy.all SetupPolicy.name) "init_policy"
    SessionSettings.standard.policy (given? ["adapter", "init_policy"]) = .ok s.session.policy
  setupDelay : settle (natural (twoTo 64)) "init_delay_ms" SessionSettings.standard.setupDelay
    (given? ["adapter", "init_delay_ms"]) = .ok s.session.setupDelay
  settleDelay : settle (natural (twoTo 64)) "settle_delay_ms" SessionSettings.standard.settleDelay
    (given? ["adapter", "settle_delay_ms"]) = .ok s.session.settleDelay
  readTimeout : settle (natural (twoTo 64)) "read_timeout_ms" SessionSettings.standard.readTimeout
    (given? ["adapter", "read_timeout_ms"]) = .ok s.session.readTimeout
  brandDir : settle text "brand_dir" ResolverSettings.standardDir (given? ["tables", "brand_dir"]) =
    .ok s.brandDir
  genericFile : settle (optional text) "generic_file" none (given? ["tables", "generic_file"]) =
    .ok s.genericFile
  pollInterval : settle (optional (natural (twoTo 64))) "poll_interval_ms" none
    (given? ["poll_interval_ms"]) = .ok s.pollInterval
  queriesOnce : NamesOnce s.queries
  queries : ∀ brand, (given? ["brand_queries", brand]).map (text brand) =
    (s.queries.lookup brand).map .ok

/-- What is read from an object is read, one by one, from what stands at the addresses. -/
theorem oneByOne_of_ofJson {members : List (String × Json)} {s : Settings}
    (once : (Json.object members).Unambiguous)
    (named : ∀ group ∈ ["adapter", "tables"], ∀ items,
      (Json.object members).field? group ≠ some (.list items))
    (read : ofJson (.object members) = .ok s) :
    s.OneByOne fun address => (Json.object members).valueAt? address := by
  obtain ⟨⟨adapter, adapterAt, session⟩, ⟨tables, tablesAt, tablesRead⟩,
    ⟨bindings, bindingsAt, queriesRead⟩, interval⟩ := ofJson_eq_ok read
  have adapterNamed : ∀ items, adapter ≠ .list items := fun items same =>
    named "adapter" (by simp) items (same ▸ adapterAt)
  have tablesNamed : ∀ items, tables ≠ .list items := fun items same =>
    named "tables" (by simp) items (same ▸ tablesAt)
  obtain ⟨device, baudRate, protocol, policy, setupDelay, settleDelay, readTimeout⟩ :=
    readSession_eq_ok adapterNamed session .standard
  obtain ⟨brandDir, genericFile⟩ :=
    readTables_eq_ok tablesNamed tablesRead ResolverSettings.standardDir
  obtain ⟨names, lookups⟩ := texts_eq_ok queriesRead
  simp only [← Json.valueAt?_pair adapterAt] at device baudRate protocol policy
  simp only [← Json.valueAt?_pair adapterAt] at setupDelay settleDelay readTimeout
  simp only [← Json.valueAt?_pair tablesAt] at brandDir genericFile
  have pollInterval : settle (optional (natural (twoTo 64))) "poll_interval_ms" none
      ((Json.object members).valueAt? ["poll_interval_ms"]) = .ok s.pollInterval := by
    simpa [Json.valueAt?] using interval
  have queriesOnce : NamesOnce s.queries := by
    unfold NamesOnce
    rw [names]
    exact (Json.unambiguous_object.mp (once.field? bindingsAt)).1
  have queries (brand : String) :
      ((Json.object members).valueAt? ["brand_queries", brand]).map (text brand) =
        (s.queries.lookup brand).map .ok := by
    rw [Json.valueAt?_pair bindingsAt]
    exact lookups brand
  exact ⟨device, baudRate, protocol, policy, setupDelay, settleDelay, readTimeout, brandDir,
    genericFile, pollInterval, queriesOnce, queries⟩

/-- A setting read from all layers is read from what is given, if the built-in value is read as what is
usual. -/
theorem settle_given {built : Option Json}
    (usually : built.map (fun v => (read name v).toOption) = some (some usual))
    (layers : layered = given.or built ∨ layered = given)
    (h : settle read name usual layered = .ok a) : settle read name usual given = .ok a := by
  have same : ∀ v, built = some v → read name v = .ok usual := by
    intro v found
    rw [found] at usually
    have read_v : (read name v).toOption = some usual := Option.some.inj usually
    cases result : read name v with
    | error e =>
      rw [result] at read_v
      cases read_v
    | ok b =>
      rw [result] at read_v
      exact congrArg _ (Option.some.inj read_v)
  rcases layers with rfl | rfl
  · rwa [settle_or same] at h
  · exact h

/-- Settings that are read one by one from all layers are read so from what is given. -/
theorem OneByOne.of_layers {s : Settings} {layered? given? : List String → Option Json}
    (h : s.OneByOne layered?)
    (layers : ∀ address, SettingsLayer.IsSetting address →
      layered? address = (given? address).or (SettingsLayer.builtIn.valueAt? address) ∨
        layered? address = given? address) :
    s.OneByOne given? := by
  have fixed (address : List String) (mem : address ∈ SettingsLayer.fixed) :=
    layers address (Or.inl mem)
  have queries (brand : String) : layered? ["brand_queries", brand] =
      given? ["brand_queries", brand] := by
    have nothing : SettingsLayer.builtIn.valueAt? ["brand_queries", brand] = none := rfl
    have request := layers ["brand_queries", brand] (Or.inr ⟨brand, rfl⟩)
    rwa [nothing, Option.or_none, or_self] at request
  exact
    { device := settle_given (by decide +kernel) (fixed _ (by decide)) h.device
      baudRate := settle_given (by decide +kernel) (fixed _ (by decide)) h.baudRate
      protocol := settle_given (by decide +kernel) (fixed _ (by decide)) h.protocol
      policy := settle_given (by decide +kernel) (fixed _ (by decide)) h.policy
      setupDelay := settle_given (by decide +kernel) (fixed _ (by decide)) h.setupDelay
      settleDelay := settle_given (by decide +kernel) (fixed _ (by decide)) h.settleDelay
      readTimeout := settle_given (by decide +kernel) (fixed _ (by decide)) h.readTimeout
      brandDir := settle_given (by decide +kernel) (fixed _ (by decide)) h.brandDir
      genericFile := settle_given (by decide +kernel) (fixed _ (by decide)) h.genericFile
      pollInterval := settle_given (by decide +kernel) (fixed _ (by decide)) h.pollInterval
      queriesOnce := h.queriesOnce
      queries := fun brand => by rw [← queries, h.queries] }

/-- What is loaded is read from the layers laid one over the other. -/
theorem load_eq {files : Files} {path : Option String} {environment : List (String × String)}
    {members layer : List (String × Json)} (file : SettingsLayer.ofFile files path = .ok members)
    (fromVariables : SettingsLayer.ofEnvironment environment = layer) :
    load files path environment = ofJson ((SettingsLayer.builtIn.layPaths members).layPaths layer) := by
  unfold load SettingsLayer.stack
  rw [file, fromVariables]
  rfl

/-- Each setting is settled on its own. Of a plain file and an environment that sets leaves alone, if
there are settings at all, each setting is the value that the environment gives, or else the one that
the file gives, or else the usual one, and the requests of brands are those of the environment and of
the file. -/
theorem load_one_by_one {files : Files} {path : Option String} {environment : List (String × String)}
    {members : List (String × Json)} {s : Settings}
    (file : SettingsLayer.ofFile files path = .ok members) (plain : SettingsLayer.Plain members)
    (leaves : SettingsLayer.SetsLeaves environment) (loaded : load files path environment = .ok s) :
    s.OneByOne (SettingsLayer.given? members environment) := by
  have once := SettingsLayer.unambiguous_ofFile file
  obtain ⟨top, layers⟩ : ∃ top, (SettingsLayer.builtIn.layPaths members).layPaths
      (SettingsLayer.ofEnvironment environment) = .object top := by
    rw [← Json.layPaths_append]
    exact Json.layPaths_eq_object
  have layeredOnce : (Json.object top).Unambiguous := by
    rw [← layers]
    exact SettingsLayer.unambiguous_layers file
  have named : ∀ group ∈ ["adapter", "tables"], ∀ items,
      (Json.object top).field? group ≠ some (.list items) := by
    intro group mem
    rw [← layers]
    exact SettingsLayer.stack_ne_list once plain leaves mem (SettingsLayer.builtIn_ne_list mem)
  have read : ofJson (.object top) = .ok s := by
    rw [← layers, ← load_eq file rfl]
    exact loaded
  refine (oneByOne_of_ofJson layeredOnce named read).of_layers fun address setting => ?_
  rw [← layers]
  exact SettingsLayer.valueAt?_stack once plain leaves setting SettingsLayer.builtIn

end Settings

/-! ## A file and an environment that set the same -/

namespace SettingsLayer

/-- The members of a file that sets the speed of the line and the request of a brand. -/
def speedAndRequest : List (String × Json) := [
  ("adapter", .object [("baud_rate", .int 9600)]),
  ("brand_queries", .object [("bmw", .text "22 2000")])]

/-- Whether a layer is `speedAndRequest`. -/
def isSpeedAndRequest : List (String × Json) → Bool
  | [(adapter, .object [(baudRate, .int rate)]), (queries, .object [(brand, .text request)])] =>
    rate == 9600 &&
      [adapter, baudRate, queries, brand, request] ==
        ["adapter", "baud_rate", "brand_queries", "bmw", "22 2000"]
  | _ => false

theorem eq_of_isSpeedAndRequest {layer : List (String × Json)} (h : isSpeedAndRequest layer = true) :
    layer = speedAndRequest := by
  unfold isSpeedAndRequest at h
  split at h
  · simp only [Bool.and_eq_true, beq_iff_eq, List.cons.injEq, and_true] at h
    obtain ⟨rfl, rfl, rfl, rfl, rfl, rfl⟩ := h
    rfl
  · cases h

theorem plain_speedAndRequest : Plain speedAndRequest where
  top := by decide +kernel
  inner := by
    intro group fields mem
    simp only [speedAndRequest, List.mem_cons, Prod.mk.injEq, Json.object.injEq, List.not_mem_nil,
      or_false] at mem
    rcases mem with ⟨-, rfl⟩ | ⟨-, rfl⟩ <;> decide +kernel
  named := by
    intro group fixed items
    simp only [List.mem_cons, List.not_mem_nil, or_false] at fixed
    rcases fixed with rfl | rfl <;> simp [speedAndRequest, Json.field?, lookup_cons_eq_ite]
  scalar := by
    intro address setting v found
    rcases setting with fixed | ⟨brand, rfl⟩
    · simp only [SettingsLayer.fixed, List.mem_cons, List.not_mem_nil, or_false] at fixed
      rcases fixed with rfl | rfl | rfl | rfl | rfl | rfl | rfl | rfl | rfl | rfl <;>
        simp [speedAndRequest, Json.valueAt?, Json.field?, lookup_cons_eq_ite] at found
      exact found ▸ trivial
    · simp [speedAndRequest, Json.valueAt?, Json.field?, lookup_cons_eq_ite] at found
      exact found.2 ▸ trivial

/-- The setting of a variable, by the name of the variable in lower case. -/
theorem ofVariable?_eq_some (name value lower setting : String) (same : lowercase name = lower)
    (starts : variableStart.isPrefixOf lower.toList = true)
    (rest : String.ofList (dotted (lower.toList.drop variableStart.length)) = setting) :
    ofVariable? name value = some (setting, .text value) := by
  unfold ofVariable?
  rw [same]
  simp only [starts, if_true, rest]

end SettingsLayer

/-- A file sets the speed and a request; the environment sets the device and another request of the same
brand. -/
theorem Settings.load_one_by_one_of_both :
    let files : Files := fun path =>
      if path = "obd-diag.toml" then
        .ok (.text "[adapter]\nbaud_rate = 9600\n\n[brand_queries]\nbmw = \"22 2000\"\n")
      else .error .missing
    let environment := [("OBD_DIAG__ADAPTER__DEVICE", "/dev/ttyUSB1"),
      ("OBD_DIAG__BRAND_QUERIES__BMW", "22 3000")]
    ∃ members s, SettingsLayer.ofFile files none = .ok members ∧ SettingsLayer.Plain members ∧
      SettingsLayer.SetsLeaves environment ∧ Settings.load files none environment = .ok s ∧
      s.session.device = "/dev/ttyUSB1" ∧ s.session.baudRate = 9600 ∧
      s.session.readTimeout = SessionSettings.standard.readTimeout ∧
      s.queries.lookup "bmw" = some "22 3000" := by
  intro files environment
  obtain ⟨members, file, sample⟩ := exists_ok_of_any (show (SettingsLayer.ofFile files none).toOption.any
    SettingsLayer.isSpeedAndRequest = true by decide +kernel)
  obtain rfl := SettingsLayer.eq_of_isSpeedAndRequest sample
  have plain := SettingsLayer.plain_speedAndRequest
  have fromVariables : SettingsLayer.ofEnvironment environment =
      [("adapter.device", .text "/dev/ttyUSB1"), ("brand_queries.bmw", .text "22 3000")] := by
    have device := SettingsLayer.ofVariable?_eq_some "OBD_DIAG__ADAPTER__DEVICE" "/dev/ttyUSB1"
      "obd_diag__adapter__device" "adapter.device"
      (by decide +kernel) (by decide +kernel) (by decide +kernel)
    have request := SettingsLayer.ofVariable?_eq_some "OBD_DIAG__BRAND_QUERIES__BMW" "22 3000"
      "obd_diag__brand_queries__bmw" "brand_queries.bmw"
      (by decide +kernel) (by decide +kernel) (by decide +kernel)
    simp only [SettingsLayer.ofEnvironment, environment, List.filterMap_cons, device, request,
      List.filterMap_nil]
  have reads : (Settings.load files none environment).toOption.any (fun _ => true) = true := by
    rw [Settings.load_eq file fromVariables]
    decide +kernel
  obtain ⟨s, loaded, -⟩ := exists_ok_of_any reads
  have leaves : SettingsLayer.SetsLeaves environment := by
    unfold SettingsLayer.SetsLeaves
    rw [fromVariables]
    simp only [List.forall_mem_cons]
    exact ⟨⟨["adapter", "device"], by decide +kernel, by simp [SettingsLayer.IsLeaf]⟩,
      ⟨["brand_queries", "bmw"], by decide +kernel, by simp [SettingsLayer.IsLeaf]⟩,
      List.forall_mem_nil _⟩
  obtain ⟨device, baudRate, -, -, -, -, readTimeout, -, -, -, -, queries⟩ :=
    Settings.load_one_by_one file plain leaves loaded
  have value {α : Type} {x : Except SettingsError α} {a b : α} (settled : x = .ok a)
      (expected : x.toOption = some b) : a = b := by
    rw [settled] at expected
    exact Option.some.inj expected
  have request := congrArg (Option.map Except.toOption) (queries "bmw")
  simp only [SettingsLayer.given?, fromVariables] at device baudRate readTimeout request
  rw [Option.map_map, Option.map_map] at request
  refine ⟨_, s, file, plain, leaves, loaded, value device (by decide +kernel),
    value baudRate (by decide +kernel), value readTimeout (by decide +kernel), ?_⟩
  cases found : s.queries.lookup "bmw" with
  | none =>
    rw [found] at request
    exact absurd request (by decide +kernel)
  | some r =>
    rw [found] at request
    have same : some (some "22 3000") = some (some r) := Eq.trans (by decide +kernel) request
    exact congrArg some (Option.some.inj (Option.some.inj same)).symm

end ScanTool
