import ScanTool.Proofs.Unambiguous
import ScanTool.Toml.Document

/-!
# Tables of a TOML document

A TOML document in which a name is bound twice is refused, and what is read from any other binds no name
twice. All work on the tables of a draft goes through `alter`, which changes what stands under a name or
puts the name at the end; opening a table moves its name there. `Keeps` says that work in a table keeps
it unambiguous; the main statement follows the reader from values to lines to the document.
-/

namespace ScanTool

namespace Toml

/-- No table of a node binds a name twice. -/
inductive Node.Unambiguous : Node → Prop
  | leaf {value : Json} (isScalar : value.IsScalar) : Unambiguous (.leaf value)
  | moment (written : List Char) : Unambiguous (.moment written)
  | list {items : List Node} (each : ∀ node ∈ items, Unambiguous node) : Unambiguous (.list items)
  | table (origin : Origin) {members : Members} (once : NamesOnce members)
    (each : ∀ m ∈ members, Unambiguous m.2) : Unambiguous (.table origin members)
  | series {earlier : List Node} {members : Members}
    (before : ∀ node ∈ earlier, Unambiguous node) (once : NamesOnce members)
    (each : ∀ m ∈ members, Unambiguous m.2) : Unambiguous (.series earlier members)

/-- A table binds no name twice, and no table in it does. -/
structure Members.Unambiguous (members : Members) : Prop where
  once : NamesOnce members
  each : ∀ m ∈ members, m.2.Unambiguous

/-- Work in a table keeps it unambiguous. -/
def Keeps (work : Origin → Members → Option Members) : Prop :=
  ∀ origin members members', members.Unambiguous → work origin members = some members' →
    members'.Unambiguous

variable {change : Option Node → Option Node} {name : String} {members members' : Members}

theorem Members.unambiguous_nil : Members.Unambiguous [] := ⟨.nil, fun _ mem => absurd mem List.not_mem_nil⟩

theorem Members.unambiguous_cons {node : Node} : Members.Unambiguous ((name, node) :: members) ↔
    name ∉ members.map (·.1) ∧ node.Unambiguous ∧ members.Unambiguous := by
  constructor
  · rintro ⟨once, each⟩
    obtain ⟨fresh, later⟩ := namesOnce_cons.mp once
    exact ⟨fresh, each _ List.mem_cons_self, later, fun m mem => each m (List.mem_cons_of_mem _ mem)⟩
  · rintro ⟨fresh, first, once, each⟩
    exact ⟨namesOnce_cons.mpr ⟨fresh, once⟩, List.forall_mem_cons.mpr ⟨first, each⟩⟩

theorem mem_names_alter (h : alter change name members = some members') {x : String}
    (mem : x ∈ members'.map (·.1)) : x = name ∨ x ∈ members.map (·.1) := by
  induction members generalizing members' with
  | nil =>
    obtain ⟨node, -, rfl⟩ := Option.map_eq_some_iff.mp h
    simpa using mem
  | cons m rest ih =>
    obtain ⟨k, node⟩ := m
    unfold alter at h
    split at h
    · obtain ⟨node', -, rfl⟩ := Option.map_eq_some_iff.mp h
      exact Or.inr mem
    · obtain ⟨rest', altered, rfl⟩ := Option.map_eq_some_iff.mp h
      rcases List.mem_cons.mp mem with rfl | mem
      · exact Or.inr List.mem_cons_self
      · exact (ih altered mem).imp_right (List.mem_cons_of_mem _)

/-- A change that makes unambiguous nodes of unambiguous ones keeps the table so. -/
theorem Members.Unambiguous.alter (h : members.Unambiguous)
    (changes : ∀ before node, (∀ n, before = some n → n.Unambiguous) → change before = some node →
      node.Unambiguous)
    (altered : Toml.alter change name members = some members') : members'.Unambiguous := by
  induction members generalizing members' with
  | nil =>
    obtain ⟨node, new, rfl⟩ := Option.map_eq_some_iff.mp altered
    exact unambiguous_cons.mpr ⟨List.not_mem_nil, changes none node nofun new, unambiguous_nil⟩
  | cons m rest ih =>
    obtain ⟨k, node⟩ := m
    obtain ⟨fresh, first, later⟩ := unambiguous_cons.mp h
    unfold Toml.alter at altered
    split at altered
    · obtain ⟨node', changed, rfl⟩ := Option.map_eq_some_iff.mp altered
      have nodeOk := changes (some node) node' (fun n same => Option.some.inj same ▸ first) changed
      exact unambiguous_cons.mpr ⟨fresh, nodeOk, later⟩
    · rename_i ne
      obtain ⟨rest', changed, rfl⟩ := Option.map_eq_some_iff.mp altered
      refine unambiguous_cons.mpr ⟨fun mem => ?_, first, ih later changed⟩
      exact (mem_names_alter changed mem).elim ne fresh

theorem Keeps.within {missing : Origin} {work : Origin → Members → Option Members} (h : Keeps work)
    (path : List String) : Keeps (within missing work path) := by
  induction path with
  | nil => exact h
  | cons name path ih =>
    intro origin members members' ok done
    refine ok.alter (fun before node beforeOk changed => ?_) done
    -- what stands under the name is a table that is missing, a table, or the last one of a series
    match before, changed with
    | none, changed =>
      obtain ⟨inner, made, rfl⟩ := Option.map_eq_some_iff.mp changed
      have innerOk := ih _ _ _ Members.unambiguous_nil made
      exact .table _ innerOk.once innerOk.each
    | some (.table origin inner), changed =>
      cases beforeOk _ rfl with
      | table _ once each =>
        simp only at changed
        split at changed
        · cases changed
        · obtain ⟨inner', made, rfl⟩ := Option.map_eq_some_iff.mp changed
          have innerOk := ih _ _ _ ⟨once, each⟩ made
          exact .table _ innerOk.once innerOk.each
    | some (.series earlier inner), changed =>
      cases beforeOk _ rfl with
      | series earlierOk once each =>
        obtain ⟨inner', made, rfl⟩ := Option.map_eq_some_iff.mp changed
        have innerOk := ih _ _ _ ⟨once, each⟩ made
        exact .series earlierOk innerOk.once innerOk.each

theorem keeps_place {isDotted : Bool} {node : Node} (nodeOk : node.Unambiguous) :
    Keeps (place isDotted name node) := by
  intro origin members members' ok done
  unfold place at done
  split at done
  · refine ok.alter (fun before new _ changed => ?_) done
    split at changed
    · exact Option.some.inj changed ▸ nodeOk
    · cases changed
  · cases done

theorem keeps_assign {parents : List String} {node : Node} (nodeOk : node.Unambiguous) :
    Keeps (assign parents name node) := fun origin => (keeps_place nodeOk).within parents origin

theorem Members.Unambiguous.concat {node : Node} (h : members.Unambiguous)
    (fresh : name ∉ members.map (·.1)) (nodeOk : node.Unambiguous) :
    Members.Unambiguous (members ++ [(name, node)]) :=
  ⟨h.once.concat fresh, List.forall_mem_append.mpr ⟨h.each, by simpa using nodeOk⟩⟩

theorem Members.Unambiguous.filter (h : members.Unambiguous) (keep : String × Node → Bool) :
    Members.Unambiguous (members.filter keep) :=
  ⟨h.once.sublist (List.filter_sublist.map _), fun m mem => h.each m (List.mem_filter.mp mem).1⟩

theorem keeps_openTable : Keeps (openTable name) := by
  intro origin members members' ok done
  unfold openTable at done
  split at done
  · rename_i absent
    obtain rfl := Option.some.inj done
    exact ok.concat (lookup_eq_none_iff_not_mem.mp absent) (.table _ .nil nofun)
  · rename_i inner found
    obtain rfl := Option.some.inj done
    have fresh : name ∉ (members.filter fun m => m.1 ≠ name).map (·.1) := by simp
    cases ok.each _ (mem_of_lookup found) with
    | table _ once each => exact (ok.filter _).concat fresh (.table _ once each)
  · cases done

theorem keeps_openSeries : Keeps (openSeries name) := by
  intro origin members members' ok done
  refine ok.alter (fun before node beforeOk changed => ?_) done
  match before, changed with
  | none, changed =>
    obtain rfl := Option.some.inj changed
    exact .series nofun .nil nofun
  | some (.series earlier last), changed =>
    obtain rfl := Option.some.inj changed
    cases beforeOk _ rfl with
    | series earlierOk once each =>
      refine .series (List.forall_mem_append.mpr ⟨earlierOk, ?_⟩) .nil nofun
      simpa using Node.Unambiguous.table .written once each

/-! ## Reading TOML -/

/-- A reader gives unambiguous nodes. -/
def Sound (reader : ValueReader) : Prop :=
  ∀ cs node rest, reader cs = some (node, rest) → node.Unambiguous

theorem isScalar_ofParts {negative : Bool} {whole : List Char} {decimals power : Option (List Char)}
    {v : Json} (h : ofParts? negative whole decimals power = some v) : v.IsScalar := by
  unfold ofParts? at h
  split at h
  · cases h
  · split at h
    · cases h
    · cases h
    · dsimp only at h
      split at h
      · exact Option.some.inj h ▸ trivial
      · split at h
        · cases h
        · exact Option.some.inj h ▸ trivial
    · cases h

theorem isScalar_real {cs : List Char} {v : Json} (h : real? cs = some v) : v.IsScalar := by
  unfold real? at h
  dsimp only at h
  split at h
  · exact Option.some.inj h ▸ trivial
  · split at h
    · exact Option.some.inj h ▸ trivial
    · exact isScalar_ofParts h

theorem isScalar_integer {cs : List Char} {v : Json} (h : integer? cs = some v) : v.IsScalar := by
  have word {n : Int} (h : wordJson? n = some v) : v.IsScalar := by
    unfold wordJson? at h
    split at h
    · exact Option.some.inj h ▸ trivial
    · cases h
  unfold integer? at h
  split at h
  all_goals
    obtain ⟨digits, -, h⟩ := Option.bind_eq_some_iff.mp h
    exact word h

theorem unambiguous_scalar {word : List Char} {node : Node} (h : scalar? word = some node) :
    node.Unambiguous := by
  unfold scalar? at h
  split at h
  · exact Option.some.inj h ▸ .leaf trivial
  · split at h
    · exact Option.some.inj h ▸ .leaf trivial
    · split at h
      · exact Option.some.inj h ▸ .moment _
      · obtain ⟨v, number, rfl⟩ := Option.map_eq_some_iff.mp h
        rw [Option.orElse_eq_or, Option.or_eq_some_iff] at number
        exact .leaf (number.elim isScalar_real fun integer => isScalar_integer integer.2)

theorem sound_simple : Sound simple? := by
  intro cs node rest h
  unfold simple? at h
  split at h
  · cases h
    exact .leaf trivial
  · dsimp only at h
    rw [Option.orElse_eq_or, Option.or_eq_some_iff] at h
    rcases h with moment | ⟨-, scalar⟩
    · unfold dateAndTime? at moment
      split at moment
      · obtain ⟨time, -, made⟩ := Option.map_eq_some_iff.mp moment
        cases made
        exact .moment _
      · cases moment
    · obtain ⟨node, read, made⟩ := Option.map_eq_some_iff.mp scalar
      cases made
      exact unambiguous_scalar read

variable {reader : ValueReader}

/-- The node of a binding is what was read after the equals sign. -/
theorem unambiguous_binding (sound : Sound reader) {cs rest : List Char} {parents : List String}
    {node : Node} (h : binding? reader cs = some ((parents, name, node), rest)) :
    node.Unambiguous := by
  unfold binding? at h
  obtain ⟨⟨parents', name', after⟩, -, h⟩ := Option.bind_eq_some_iff.mp h
  dsimp only at h
  split at h
  · obtain ⟨⟨value, rest'⟩, read, h⟩ := Option.bind_eq_some_iff.mp h
    cases h
    exact sound _ _ _ read
  · cases h

theorem unambiguous_items (sound : Sound reader) (fuel : Nat) {cs rest : List Char}
    {items : List Node} (h : items? reader fuel cs = some (items, rest)) :
    ∀ node ∈ items, node.Unambiguous := by
  induction fuel generalizing cs items with
  | zero => cases h
  | succ fuel ih =>
    unfold items? at h
    split at h
    · cases h
      exact nofun
    · obtain ⟨⟨item, after⟩, read, h⟩ := Option.bind_eq_some_iff.mp h
      have itemOk := sound _ _ _ read
      dsimp only at h
      split at h
      · cases h
        simpa using itemOk
      · obtain ⟨⟨later, rest'⟩, readLater, h⟩ := Option.bind_eq_some_iff.mp h
        cases h
        exact List.forall_mem_cons.mpr ⟨itemOk, ih readLater⟩
      · cases h

theorem unambiguous_members (sound : Sound reader) (fuel : Nat) {cs rest : List Char}
    (ok : members.Unambiguous) (h : members? reader fuel members cs = some (members', rest)) :
    members'.Unambiguous := by
  induction fuel generalizing cs members with
  | zero => cases h
  | succ fuel ih =>
    unfold members? at h
    obtain ⟨⟨⟨parents, name, value⟩, after⟩, read, h⟩ := Option.bind_eq_some_iff.mp h
    obtain ⟨assigned, done, h⟩ := Option.bind_eq_some_iff.mp h
    have assignedOk := keeps_assign (unambiguous_binding sound read) _ _ _ ok done
    split at h
    · cases h
      exact assignedOk
    · exact ih assignedOk h
    · cases h

theorem sound_value (depth : Nat) : Sound (value? depth) := by
  induction depth with
  | zero => exact sound_simple
  | succ depth ih =>
    intro cs node rest h
    unfold value? at h
    split at h
    · obtain ⟨⟨items, rest'⟩, read, made⟩ := Option.map_eq_some_iff.mp h
      cases made
      exact .list (unambiguous_items ih _ read)
    · split at h
      · cases h
        exact .table _ .nil nofun
      · obtain ⟨⟨members, rest'⟩, read, made⟩ := Option.map_eq_some_iff.mp h
        cases made
        have ok := unambiguous_members ih _ Members.unambiguous_nil read
        exact .table _ ok.once ok.each
    · exact sound_simple _ _ _ h

/-- A line leaves a draft unambiguous. -/
theorem Draft.unambiguous_statement {r r' : Draft} {cs rest : List Char}
    (ok : r.members.Unambiguous) (h : r.statement? cs = some (r', rest)) :
    r'.members.Unambiguous := by
  have entered {openIt : String → Origin → Members → Option Members}
      (keeps : ∀ name, Keeps (openIt name)) {parents : List String} {name : String} {r' : Draft}
      (h : r.enter openIt parents name = some r') : r'.members.Unambiguous := by
    obtain ⟨members, done, rfl⟩ := Option.map_eq_some_iff.mp h
    exact (keeps name).within parents _ _ _ ok done
  unfold statement? at h
  split at h
  · cases h
    exact ok
  · cases h
    exact ok
  · cases h
    exact ok
  · cases h
    exact ok
  · obtain ⟨⟨parents, name, after⟩, -, h⟩ := Option.bind_eq_some_iff.mp h
    dsimp only at h
    split at h
    · obtain ⟨r'', done, h⟩ := Option.bind_eq_some_iff.mp h
      cases h
      exact entered (fun name => keeps_openSeries) done
    · cases h
  · obtain ⟨⟨parents, name, after⟩, -, h⟩ := Option.bind_eq_some_iff.mp h
    dsimp only at h
    split at h
    · obtain ⟨r'', done, h⟩ := Option.bind_eq_some_iff.mp h
      cases h
      exact entered (fun name => keeps_openTable) done
    · cases h
  · obtain ⟨⟨⟨parents, name, node⟩, after⟩, read, h⟩ := Option.bind_eq_some_iff.mp h
    obtain ⟨r'', added, h⟩ := Option.bind_eq_some_iff.mp h
    cases h
    obtain ⟨members, done, rfl⟩ := Option.map_eq_some_iff.mp added
    exact (keeps_assign (unambiguous_binding (sound_value _) read)).within _ _ _ _ ok done

theorem Draft.unambiguous_lines (fuel : Nat) {r r' : Draft} {cs : List Char}
    (ok : r.members.Unambiguous) (h : r.lines? fuel cs = some r') : r'.members.Unambiguous := by
  induction fuel generalizing r cs with
  | zero => cases h
  | succ fuel ih =>
    cases cs with
    | nil =>
      cases h
      exact ok
    | cons c cs =>
      obtain ⟨⟨r'', rest⟩, read, h⟩ := Option.bind_eq_some_iff.mp h
      obtain ⟨after, -, h⟩ := Option.bind_eq_some_iff.mp h
      exact ih (unambiguous_statement ok read) h

/-! ## What a document describes -/

theorem names_memberValues {values : List (String × Json)} (h : memberValues? members = some values) :
    values.map (·.1) = members.map (·.1) := by
  induction members generalizing values with
  | nil =>
    cases h
    rfl
  | cons m rest ih =>
    obtain ⟨name, node⟩ := m
    unfold memberValues? at h
    obtain ⟨value, -, h⟩ := Option.bind_eq_some_iff.mp h
    obtain ⟨others, later, h⟩ := Option.bind_eq_some_iff.mp h
    cases h
    rw [List.map_cons, List.map_cons, ih later]

mutual

theorem unambiguous_value : (node : Node) → node.Unambiguous → {v : Json} → node.value? = some v →
    v.Unambiguous
  | .leaf value, ok, v, h => by
    cases ok with
    | leaf isScalar =>
      unfold Node.value? at h
      exact Option.some.inj h ▸ .scalar isScalar
  | .moment written, ok, v, h => by
    unfold Node.value? at h
    exact Option.some.inj h ▸ .scalar trivial
  | .list items, ok, v, h => by
    cases ok with
    | list each =>
      unfold Node.value? at h
      obtain ⟨values, read, rfl⟩ := Option.map_eq_some_iff.mp h
      exact .list (unambiguous_itemValues items each read)
  | .table origin members, ok, v, h => by
    cases ok with
    | table _ once each =>
      unfold Node.value? at h
      exact unambiguous_tableValue members ⟨once, each⟩ h
  | .series earlier members, ok, v, h => by
    cases ok with
    | series before once each =>
      unfold Node.value? at h
      obtain ⟨values, readBefore, h⟩ := Option.bind_eq_some_iff.mp h
      obtain ⟨last, read, h⟩ := Option.bind_eq_some_iff.mp h
      cases h
      have lastOk := unambiguous_tableValue members ⟨once, each⟩ read
      refine .list (List.forall_mem_append.mpr ⟨unambiguous_itemValues earlier before readBefore, ?_⟩)
      simpa using lastOk

theorem unambiguous_itemValues : (items : List Node) → (∀ node ∈ items, node.Unambiguous) →
    {values : List Json} → itemValues? items = some values → ∀ v ∈ values, v.Unambiguous
  | [], _, values, h => by
    cases h
    exact nofun
  | node :: rest, each, values, h => by
    obtain ⟨first, later⟩ := List.forall_mem_cons.mp each
    unfold itemValues? at h
    obtain ⟨value, read, h⟩ := Option.bind_eq_some_iff.mp h
    obtain ⟨others, readLater, h⟩ := Option.bind_eq_some_iff.mp h
    cases h
    exact List.forall_mem_cons.mpr
      ⟨unambiguous_value node first read, unambiguous_itemValues rest later readLater⟩

theorem unambiguous_tableValue : (members : Members) → members.Unambiguous → {v : Json} →
    tableValue? members = some v → v.Unambiguous
  | [], _, v, h => by
    cases h
    exact .object .nil nofun
  | (name, node) :: rest, ok, v, h => by
    obtain ⟨fresh, first, later⟩ := Members.unambiguous_cons.mp ok
    unfold tableValue? at h
    split at h
    · unfold Node.stringMoment? at h
      split at h
      · obtain ⟨written, -, rfl⟩ := Option.map_eq_some_iff.mp h
        exact .scalar trivial
      · cases h
    · obtain ⟨value, read, h⟩ := Option.bind_eq_some_iff.mp h
      obtain ⟨others, readLater, h⟩ := Option.bind_eq_some_iff.mp h
      cases h
      have once : NamesOnce ((name, value) :: others) := by
        refine namesOnce_cons.mpr ⟨?_, ?_⟩
        · rwa [names_memberValues readLater]
        · unfold NamesOnce
          rw [names_memberValues readLater]
          exact later.once
      exact .object once (List.forall_mem_cons.mpr
        ⟨unambiguous_value node first read, unambiguous_memberValues rest later.each readLater⟩)

theorem unambiguous_memberValues : (members : Members) → (∀ m ∈ members, m.2.Unambiguous) →
    {values : List (String × Json)} → memberValues? members = some values →
    ∀ m ∈ values, m.2.Unambiguous
  | [], _, values, h => by
    cases h
    exact nofun
  | (name, node) :: rest, each, values, h => by
    obtain ⟨first, later⟩ := List.forall_mem_cons.mp each
    unfold memberValues? at h
    obtain ⟨value, read, h⟩ := Option.bind_eq_some_iff.mp h
    obtain ⟨others, readLater, h⟩ := Option.bind_eq_some_iff.mp h
    cases h
    exact List.forall_mem_cons.mpr
      ⟨unambiguous_value node first read, unambiguous_memberValues rest later readLater⟩

end

theorem unambiguous_read {text : String} {v : Json} (h : read? text = some v) : v.Unambiguous := by
  obtain ⟨r, read, h⟩ := Option.bind_eq_some_iff.mp h
  exact unambiguous_tableValue _ (Draft.unambiguous_lines _ Members.unambiguous_nil read) h

end Toml

end ScanTool
