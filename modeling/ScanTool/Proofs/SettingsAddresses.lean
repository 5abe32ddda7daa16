import ScanTool.Proofs.TomlTables
import ScanTool.Proofs.UnsetQueries

/-!
# Addresses of settings

An address names what stands in an object of an object. A layer is laid over a value either setting by
setting, as the environment is, or as an object that is written out, as a plain file is. In both ways
what stands at the address of a setting is what the layer says about it, or else what stood there, and
what the layer says about other settings does not matter: what was laid at an address changes nothing
apart from it (`valueAt?_layAt_of_apart`).
-/

namespace ScanTool

open ScanTool.Text

/-! ## No layer binds a name twice -/

namespace SettingsLayer

theorem unambiguous_builtIn : builtIn.Unambiguous := by
  have scalars {members : List (String × Json)} (once : NamesOnce members)
      (each : ∀ m ∈ members, m.2.IsScalar) : (Json.object members).Unambiguous :=
    .object once fun m mem => .scalar (each m mem)
  refine .object (by decide) ?_
  simp only [List.forall_mem_cons]
  refine ⟨scalars (by decide) ?_, scalars (by decide) ?_, .scalar trivial, List.forall_mem_nil _⟩ <;>
    simp [Json.IsScalar]

/-- The members of a settings file are those of an unambiguous object. -/
theorem unambiguous_ofFile {files : Files} {path : Option String} {members : List (String × Json)}
    (h : ofFile files path = .ok members) : (Json.object members).Unambiguous := by
  have read {format : SettingsFormat} {text : String} {members : List (String × Json)}
      (h : format.read? text = some members) : (Json.object members).Unambiguous := by
    unfold SettingsFormat.read? at h
    cases format with
    | toml =>
      dsimp only at h
      split at h
      · rename_i document
        obtain rfl := Option.some.inj h
        exact Toml.unambiguous_read document
      · cases h
    | json =>
      dsimp only at h
      split at h
      · rename_i canonical
        obtain rfl := Option.some.inj h
        obtain ⟨v, -, same⟩ := Option.map_eq_some_iff.mp canonical
        exact same ▸ v.unambiguous_canonical
      · cases h
  have fromPath {path : String} {members : List (String × Json)}
      (h : ofPath files path = .ok members) : (Json.object members).Unambiguous := by
    unfold ofPath at h
    split at h
    · cases h
    · split at h
      · cases h
      · split at h
        · cases h
        · rename_i found
          cases h
          exact read found
  unfold ofFile at h
  split at h
  · exact fromPath h
  · split at h
    · cases h
      exact .object .nil (List.forall_mem_nil _)
    · exact fromPath h

/-- The value of a variable is a text. -/
theorem exists_text_of_mem {environment : List (String × String)} {m : String × Json}
    (mem : m ∈ ofEnvironment environment) : ∃ s, m.2 = .text s := by
  obtain ⟨v, -, set⟩ := List.mem_filterMap.mp mem
  unfold ofVariable? at set
  dsimp only at set
  split at set
  · exact ⟨v.2, Option.some.inj set ▸ rfl⟩
  · cases set

/-- No object among the settings of all layers binds a name twice. -/
theorem unambiguous_layers {files : Files} {path : Option String}
    {environment : List (String × String)} {members : List (String × Json)}
    (file : ofFile files path = .ok members) :
    ((builtIn.layPaths members).layPaths (ofEnvironment environment)).Unambiguous := by
  have fileOk := (Json.unambiguous_object.mp (unambiguous_ofFile file)).2
  refine (unambiguous_builtIn.layPaths fileOk).layPaths fun m mem => ?_
  obtain ⟨s, text⟩ := exists_text_of_mem mem
  exact text ▸ .scalar trivial

end SettingsLayer

/-! ## What stands at an address -/

/-- What stands at an address: the names lead from one object into the next. -/
def Json.valueAt? : List String → Json → Option Json
  | [], v => some v
  | name :: rest, v => (v.field? name).bind (valueAt? rest)

theorem Json.valueAt?_pair {v group : Json} {name : String} (found : v.field? name = some group)
    (inner : String) : v.valueAt? [name, inner] = group.field? inner := by
  simp [valueAt?, found]

/-- Neither address leads on from the other. -/
def Apart (a b : List String) : Prop := ¬ a <+: b ∧ ¬ b <+: a

namespace SettingsPath

variable {value : Json} {path : List PathStep} {address other : List String}

/-- The address at the end of a path, if the path leads through objects alone. -/
def address? : List PathStep → Option (List String)
  | [] => some []
  | .member name :: rest => (address? rest).map (lowercase name :: ·)
  | .item _ :: _ => none

/-- Setting a member, by a path that goes on or ends there. -/
theorem layAt_member (isScalar : value.IsScalar) (name : String) (rest : List PathStep) (v : Json) :
    layAt value (.member name :: rest) v =
      v.set (lowercase name) (layAt value rest ((v.field? (lowercase name)).getD .null)) := by
  cases rest with
  | nil =>
    show v.set _ (value.layOver _) = v.set _ value
    rw [Json.layOver_of_isScalar isScalar]
  | cons step rest => rfl

/-- What was laid at an address stands there. -/
theorem valueAt?_layAt (isScalar : value.IsScalar) (h : address? path = some address) (v : Json) :
    (layAt value path v).valueAt? address = some value := by
  induction path generalizing address v with
  | nil =>
    cases h
    rfl
  | cons step rest ih =>
    cases step with
    | item position => cases h
    | member name =>
      obtain ⟨address', later, rfl⟩ := Option.map_eq_some_iff.mp h
      rw [layAt_member isScalar, Json.valueAt?, Json.field?_set, if_pos rfl]
      exact ih later _

theorem address?_eq_cons {key : String} (h : address? path = some (key :: address)) :
    ∃ name rest, path = .member name :: rest ∧ lowercase name = key ∧
      address? rest = some address := by
  match path, h with
  | .member name :: rest, h =>
    obtain ⟨address', later, same⟩ := Option.map_eq_some_iff.mp h
    cases same
    exact ⟨name, rest, rfl, rfl, later⟩

/-- Laying something at an address leaves alone what stands apart from it. -/
theorem valueAt?_layAt_of_apart (isScalar : value.IsScalar) (h : address? path = some address)
    (apart : Apart address other) (v : Json) :
    (layAt value path v).valueAt? other = v.valueAt? other := by
  induction path generalizing address other v with
  | nil =>
    cases h
    exact absurd List.nil_prefix apart.1
  | cons step rest ih =>
    cases step with
    | item position => cases h
    | member name =>
      obtain ⟨address', later, rfl⟩ := Option.map_eq_some_iff.mp h
      cases other with
      | nil => exact absurd List.nil_prefix apart.2
      | cons key other =>
        rw [layAt_member isScalar, Json.valueAt?, Json.valueAt?, Json.field?_set]
        split
        · rename_i same
          subst same
          have apart' : Apart address' other := by
            simpa [Apart, List.cons_prefix_cons] using apart
          rw [Option.bind_some, ih later apart']
          cases v.field? (lowercase name) with
          | some w => rfl
          | none =>
            -- nothing stands under null, and the address goes on
            cases other with
            | nil => exact absurd List.nil_prefix apart'.2
            | cons => rfl
        · rfl

end SettingsPath

namespace SettingsLayer

variable {layer : List (String × Json)} {address : List String}

/-- What the settings of a layer say about an address, if each is one setting; of several for the same
address the last one counts. -/
def last? : List (String × Json) → List String → Option Json
  | [], _ => none
  | m :: rest, address =>
    (last? rest address).or
      (if SettingsPath.address? (SettingsPath.ofName m.1) = some address then some m.2 else none)

/-- A layer of single settings decides what stands at an address if it says something about it. -/
theorem valueAt?_layPaths (scalars : ∀ m ∈ layer, m.2.IsScalar)
    (single : ∀ m ∈ layer, ∃ a, SettingsPath.address? (SettingsPath.ofName m.1) = some a ∧
      (a = address ∨ Apart a address)) (v : Json) :
    (v.layPaths layer).valueAt? address = (last? layer address).or (v.valueAt? address) := by
  induction layer generalizing v with
  | nil => rfl
  | cons m rest ih =>
    obtain ⟨isScalar, scalars⟩ := List.forall_mem_cons.mp scalars
    obtain ⟨⟨a, path, reaches⟩, single⟩ := List.forall_mem_cons.mp single
    have here : (SettingsPath.layAt m.2 (SettingsPath.ofName m.1) v).valueAt? address =
        (if SettingsPath.address? (SettingsPath.ofName m.1) = some address then some m.2
          else none).or (v.valueAt? address) := by
      rcases reaches with rfl | apart
      · rw [if_pos path, SettingsPath.valueAt?_layAt isScalar path, Option.some_or]
      · have ne : a ≠ address := fun same => apart.1 (same ▸ List.prefix_rfl)
        have other : ¬ SettingsPath.address? (SettingsPath.ofName m.1) = some address := by
          rw [path]
          exact fun same => ne (Option.some.inj same)
        rw [if_neg other, SettingsPath.valueAt?_layAt_of_apart isScalar path apart, Option.none_or]
    rw [Json.layPaths_cons, ih scalars single, here, last?, Option.or_assoc]

end SettingsLayer

/-! ## Layers in which objects are written out -/

namespace Json

variable {members : List (String × Json)}

/-- Members in lower case, none of them twice, are each laid over what stands under its name. -/
theorem field?_layMembers (lower : ∀ m ∈ members, lowercase m.1 = m.1) (once : NamesOnce members)
    (base : Json) (name : String) :
    (layMembers members base).field? name =
      ((members.lookup name).map fun v => v.layOver (base.field? name)).or (base.field? name) := by
  induction members generalizing base with
  | nil => rfl
  | cons m rest ih =>
    obtain ⟨key, v⟩ := m
    obtain ⟨same, lower⟩ := List.forall_mem_cons.mp lower
    obtain ⟨fresh, once⟩ := namesOnce_cons.mp once
    dsimp only at same
    unfold layMembers
    dsimp only
    rw [same, ih lower once, field?_set, lookup_cons_eq_ite]
    split
    · rename_i here
      subst here
      rw [lookup_eq_none_iff_not_mem.mpr fresh]
      rfl
    · rfl

end Json

namespace SettingsPath

theorem steps?_of_plain {c : Char} (dot : c ≠ '.') (bracket : c ≠ '[') (fuel : Nat)
    (cs : List Char) : steps? fuel (c :: cs) = none := by
  cases fuel with
  | zero => rfl
  | succ fuel =>
    unfold steps?
    split
    · rename_i empty
      cases empty
    · rfl
    · rename_i here
      exact absurd (List.cons.inj here).1 dot
    · rename_i here
      exact absurd (List.cons.inj here).1 bracket
    · rfl

/-- A name without dots and brackets stands for itself. -/
theorem ofName_of_plain {name : String} (dot : '.' ∉ name.toList) (bracket : '[' ∉ name.toList) :
    ofName name = [.member name] := by
  unfold ofName
  simp only [steps?]
  split
  · rfl
  · cases rest : name.toList.dropWhile isNameChar with
    | nil =>
      have all : name.toList.takeWhile isNameChar = name.toList := by
        have split := List.takeWhile_append_dropWhile (p := isNameChar) (l := name.toList)
        rwa [rest, List.append_nil] at split
      rw [all, String.ofList_toList]
      unfold steps?
      rfl
    | cons c cs =>
      have mem : c ∈ name.toList := (List.dropWhile_suffix _).subset (rest ▸ List.mem_cons_self)
      have plain : c ≠ '.' ∧ c ≠ '[' := ⟨fun e => dot (e ▸ mem), fun e => bracket (e ▸ mem)⟩
      rw [steps?_of_plain plain.1 plain.2]
      rfl

end SettingsPath

/-! ## Which settings a layer may set -/

namespace SettingsLayer

variable {members : List (String × Json)} {address other : List String}

/-- The addresses of the settings that have one value, the requests of brands apart. -/
def fixed : List (List String) := [
  ["adapter", "device"], ["adapter", "baud_rate"], ["adapter", "protocol"],
  ["adapter", "init_policy"], ["adapter", "init_delay_ms"], ["adapter", "settle_delay_ms"],
  ["adapter", "read_timeout_ms"], ["tables", "brand_dir"], ["tables", "generic_file"],
  ["poll_interval_ms"]]

/-- An address is that of a setting: one of the fixed ones or the request of a brand. -/
def IsSetting (address : List String) : Prop :=
  address ∈ fixed ∨ ∃ brand, address = ["brand_queries", brand]

/-- An address is that of something in a group of settings, or of the pause between two sweeps. -/
def IsLeaf (address : List String) : Prop :=
  (∃ group ∈ ["adapter", "tables", "brand_queries"], ∃ name, address = [group, name]) ∨
    address = ["poll_interval_ms"]

/-- The members of a settings file are plain: names are in lower case, those at the top hold no dots
and brackets, the groups with fixed settings are no arrays, and every setting has a value without
parts. -/
structure Plain (members : List (String × Json)) : Prop where
  /-- A name at the top is in lower case and stands for itself. -/
  top : ∀ m ∈ members, lowercase m.1 = m.1 ∧ '.' ∉ m.1.toList ∧ '[' ∉ m.1.toList
  /-- A name in a group is in lower case. -/
  inner : ∀ group fields, (group, Json.object fields) ∈ members → ∀ m ∈ fields, lowercase m.1 = m.1
  /-- The groups are given by name, and not as arrays of settings in order. -/
  named : ∀ group ∈ ["adapter", "tables"], ∀ items,
    (Json.object members).field? group ≠ some (.list items)
  /-- A setting has a value without parts. -/
  scalar : ∀ address, IsSetting address → ∀ v, (Json.object members).valueAt? address = some v →
    v.IsScalar

theorem isLeaf_of_isSetting (h : IsSetting address) : IsLeaf address := by
  rcases h with h | ⟨brand, rfl⟩
  · simp only [fixed, List.mem_cons, List.not_mem_nil, or_false] at h
    rcases h with rfl | rfl | rfl | rfl | rfl | rfl | rfl | rfl | rfl | rfl <;> simp [IsLeaf]
  · simp [IsLeaf]

/-- No leaf lies beneath another. -/
theorem apart_of_isLeaf (h : IsLeaf address) (h' : IsLeaf other) :
    address = other ∨ Apart address other := by
  rcases h with ⟨group, known, name, rfl⟩ | rfl <;>
    rcases h' with ⟨group', known', name', rfl⟩ | rfl <;>
    simp only [Apart, List.cons_prefix_cons, List.prefix_nil, List.nil_prefix] <;> grind

/-- The members of a plain file are laid over a value as those of any object are. -/
theorem layPaths_of_plain (plain : Plain members) (base : Json) :
    base.layPaths members = Json.layMembers members base := by
  have top := plain.top
  clear plain
  induction members generalizing base with
  | nil => rfl
  | cons m rest ih =>
    obtain ⟨⟨-, dot, bracket⟩, top⟩ := List.forall_mem_cons.mp top
    rw [Json.layPaths_cons, SettingsPath.ofName_of_plain dot bracket, ih _ top]
    rfl

theorem field?_file (once : (Json.object members).Unambiguous) (plain : Plain members) (base : Json)
    (name : String) : (base.layPaths members).field? name =
      (((Json.object members).field? name).map fun v => v.layOver (base.field? name)).or
        (base.field? name) := by
  rw [layPaths_of_plain plain]
  exact Json.field?_layMembers (fun m mem => (plain.top m mem).1)
    (Json.unambiguous_object.mp once).1 base name

/-- A group of a plain file laid over a value. -/
theorem field?_layOver_group (once : (Json.object members).Unambiguous) (plain : Plain members)
    {group name : String} {fields : List (String × Json)}
    (found : (Json.object members).field? group = some (.object fields))
    (scalar : ∀ v, fields.lookup name = some v → v.IsScalar) (base : Option Json) :
    ((Json.object fields).layOver base).field? name =
      (fields.lookup name).or (base.bind (·.field? name)) := by
  have mem : (group, Json.object fields) ∈ members := mem_of_lookup found
  have fieldsOnce := (Json.unambiguous_object.mp (once.field? found)).1
  have lower := plain.inner group fields mem
  have laid (b : Json) : (Json.layMembers fields b).field? name =
      (fields.lookup name).or (b.field? name) := by
    rw [Json.field?_layMembers lower fieldsOnce]
    cases given : fields.lookup name with
    | none => rfl
    | some v => rw [Option.map_some, Json.layOver_of_isScalar (scalar v given)]
  cases base with
  | none => exact laid (.object [])
  | some b => exact laid b

/-- Where a plain file is laid over a value, what stands at the address of a setting is what the file
says, or else what stood there. If the file has something else than a group there, nothing is left. -/
theorem valueAt?_file (once : (Json.object members).Unambiguous) (plain : Plain members) (base : Json)
    (setting : IsSetting address) :
    (base.layPaths members).valueAt? address =
        ((Json.object members).valueAt? address).or (base.valueAt? address) ∨
      (base.layPaths members).valueAt? address = (Json.object members).valueAt? address := by
  have scalar := plain.scalar address setting
  rcases isLeaf_of_isSetting setting with ⟨group, -, name, rfl⟩ | rfl
  · simp only [Json.valueAt?, Option.bind_fun_some] at scalar ⊢
    rw [field?_file once plain]
    cases found : (Json.object members).field? group with
    | none => exact Or.inl rfl
    | some v =>
      rw [found] at scalar
      simp only [Option.map_some, Option.some_or, Option.bind_some] at scalar ⊢
      cases v with
      | object fields =>
        exact Or.inl (field?_layOver_group once plain found scalar (base.field? group))
      | _ => exact Or.inr rfl
  · refine Or.inl ?_
    simp only [Json.valueAt?, Option.bind_fun_some] at scalar ⊢
    rw [field?_file once plain]
    cases found : (Json.object members).field? "poll_interval_ms" with
    | none => rfl
    | some v => rw [Option.map_some, Json.layOver_of_isScalar (scalar v found)]

/-! ## All layers -/

/-- What the environment says about an address, or else the file. -/
def given? (members : List (String × Json)) (environment : List (String × String))
    (address : List String) : Option Json :=
  (last? (ofEnvironment environment) address).or ((Json.object members).valueAt? address)

/-- The variables of the environment set leaves alone. -/
def SetsLeaves (environment : List (String × String)) : Prop :=
  ∀ m ∈ ofEnvironment environment,
    ∃ a, SettingsPath.address? (SettingsPath.ofName m.1) = some a ∧ IsLeaf a

variable {environment : List (String × String)}

/-- What stands at the address of a setting is what is given, or else what is built in; or nothing, if
nothing is given. -/
theorem valueAt?_stack (once : (Json.object members).Unambiguous) (plain : Plain members)
    (leaves : SetsLeaves environment) (setting : IsSetting address) (base : Json) :
    let layered := (base.layPaths members).layPaths (ofEnvironment environment)
    layered.valueAt? address =
        (given? members environment address).or (base.valueAt? address) ∨
      layered.valueAt? address = given? members environment address := by
  intro layered
  have decided : layered.valueAt? address =
      (last? (ofEnvironment environment) address).or
        ((base.layPaths members).valueAt? address) := by
    refine valueAt?_layPaths (fun m mem => ?_) (fun m mem => ?_) _
    · obtain ⟨s, text⟩ := exists_text_of_mem mem
      exact text ▸ trivial
    · obtain ⟨a, path, leaf⟩ := leaves m mem
      exact ⟨a, path, apart_of_isLeaf leaf (isLeaf_of_isSetting setting)⟩
  rw [decided, given?]
  rcases valueAt?_file once plain base setting with file | file
  · exact Or.inl (by rw [file, Option.or_assoc])
  · exact Or.inr (by rw [file])

theorem layMembers_ne_list {fields : List (String × Json)} {base : Json}
    (named : ∀ items, base ≠ .list items) : ∀ items, Json.layMembers fields base ≠ .list items := by
  induction fields generalizing base with
  | nil => exact named
  | cons m rest ih =>
    unfold Json.layMembers
    exact ih fun items => by simp [Json.set]

/-- A group that is given by name in the file and in what it is laid over is no array. -/
theorem file_ne_list (once : (Json.object members).Unambiguous) (plain : Plain members) {base : Json}
    {group : String} (fixed : group ∈ ["adapter", "tables"])
    (named : ∀ items, base.field? group ≠ some (.list items)) :
    ∀ items, (base.layPaths members).field? group ≠ some (.list items) := by
  intro items
  rw [field?_file once plain]
  cases found : (Json.object members).field? group with
  | none => exact named items
  | some v =>
    rw [Option.map_some, Option.some_or]
    intro same
    have laid := Option.some.inj same
    cases v with
    | object fields =>
      refine layMembers_ne_list (fun items' => ?_) items laid
      cases below : base.field? group with
      | none => simp
      | some b => exact fun list => named items' (below.trans (congrArg some list))
    | list items' => exact plain.named group fixed items' found
    | _ => cases laid

theorem builtIn_ne_list {group : String} (fixed : group ∈ ["adapter", "tables"]) :
    ∀ items, builtIn.field? group ≠ some (.list items) := by
  simp only [List.mem_cons, List.not_mem_nil, or_false] at fixed
  rcases fixed with rfl | rfl <;> intro items same <;> cases same

/-- Setting a leaf makes no array of a group. -/
theorem layAt_ne_list {value : Json} {path : List PathStep} {a : List String} {group : String}
    {v : Json} (isScalar : value.IsScalar) (reaches : SettingsPath.address? path = some a)
    (leaf : IsLeaf a) (fixed : group ∈ ["adapter", "tables"])
    (named : ∀ items, v.field? group ≠ some (.list items)) :
    ∀ items, (SettingsPath.layAt value path v).field? group ≠ some (.list items) := by
  intro items
  rcases leaf with ⟨group', -, name, rfl⟩ | rfl
  · obtain ⟨g, rest, rfl, rfl, later⟩ := SettingsPath.address?_eq_cons reaches
    obtain ⟨n, rest', rfl, rfl, -⟩ := SettingsPath.address?_eq_cons later
    rw [SettingsPath.layAt_member isScalar, SettingsPath.layAt_member isScalar, Json.field?_set]
    split
    · simp [Json.set]
    · exact named items
  · obtain ⟨g, rest, rfl, key, -⟩ := SettingsPath.address?_eq_cons reaches
    have other : group ≠ "poll_interval_ms" := by
      rintro rfl
      simp at fixed
    rw [SettingsPath.layAt_member isScalar, Json.field?_set, key, if_neg other]
    exact named items

theorem stack_ne_list (once : (Json.object members).Unambiguous) (plain : Plain members)
    (leaves : SetsLeaves environment) {base : Json} {group : String}
    (fixed : group ∈ ["adapter", "tables"])
    (named : ∀ items, base.field? group ≠ some (.list items)) :
    ∀ items, ((base.layPaths members).layPaths (ofEnvironment environment)).field? group ≠
      some (.list items) := by
  have texts : ∀ m ∈ ofEnvironment environment, m.2.IsScalar := by
    intro m mem
    obtain ⟨s, text⟩ := exists_text_of_mem mem
    exact text ▸ trivial
  have below := file_ne_list once plain fixed named
  unfold SetsLeaves at leaves
  generalize base.layPaths members = v at below
  generalize ofEnvironment environment = layer at leaves texts
  induction layer generalizing v with
  | nil => exact below
  | cons m rest ih =>
    obtain ⟨⟨a, reaches, leaf⟩, leaves⟩ := List.forall_mem_cons.mp leaves
    obtain ⟨isScalar, texts⟩ := List.forall_mem_cons.mp texts
    exact ih _ (layAt_ne_list isScalar reaches leaf fixed below) leaves texts

end SettingsLayer

end ScanTool
