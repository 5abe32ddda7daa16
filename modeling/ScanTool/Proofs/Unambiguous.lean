import ScanTool.Proofs.Bindings
import ScanTool.Settings.Path

/-!
# Values that bind no name twice

An object is a list of members, and nothing in the type keeps it from binding a name twice. The values
that settings are read from do not: putting a value into canonical form drops all but the last member
with a name, and a layer laid over a value puts what it sets in the place of what was there. So what is
bound to a name of such a value does not depend on the order of the members.
-/

namespace ScanTool

/-- A value without parts. -/
def Json.IsScalar : Json → Prop
  | .list _ => False
  | .object _ => False
  | _ => True

/-- No object in a value binds a name twice. -/
inductive Json.Unambiguous : Json → Prop
  | scalar {v : Json} (isScalar : v.IsScalar) : Unambiguous v
  | list {items : List Json} (each : ∀ v ∈ items, Unambiguous v) : Unambiguous (.list items)
  | object {members : List (String × Json)} (once : NamesOnce members)
    (each : ∀ m ∈ members, Unambiguous m.2) : Unambiguous (.object members)

/-! ## JSON in canonical form -/

namespace Json

mutual

theorem unambiguous_canonical : (v : Json) → v.canonical.Unambiguous
  | .null | .bool _ | .int _ | .real _ | .text _ => .scalar trivial
  | .list items => .list (unambiguous_canonicalItems items)
  | .object members =>
    .object (ascending_sortBindings _).namesOnce fun m mem =>
      unambiguous_canonicalMembers members m (mem_sortBindings mem)

theorem unambiguous_canonicalItems : (items : List Json) → ∀ v ∈ canonicalItems items, v.Unambiguous
  | [] => fun _ mem => absurd mem List.not_mem_nil
  | item :: rest => fun v mem => by
    rcases List.mem_cons.mp mem with rfl | mem
    · exact unambiguous_canonical item
    · exact unambiguous_canonicalItems rest v mem

theorem unambiguous_canonicalMembers :
    (members : List (String × Json)) → ∀ m ∈ canonicalMembers members, m.2.Unambiguous
  | [] => fun _ mem => absurd mem List.not_mem_nil
  | (_, v) :: rest => fun m mem => by
    rcases List.mem_cons.mp mem with rfl | mem
    · exact unambiguous_canonical v
    · exact unambiguous_canonicalMembers rest m mem

end

end Json

/-! ## Layers -/

namespace Json

variable {v x base : Json} {name : String} {members : List (String × Json)}

theorem unambiguous_object : (Json.object members).Unambiguous ↔
    NamesOnce members ∧ ∀ m ∈ members, m.2.Unambiguous := by
  refine ⟨fun h => ?_, fun h => .object h.1 h.2⟩
  cases h with
  | scalar isScalar => exact absurd isScalar id
  | object once each => exact ⟨once, each⟩

theorem unambiguous_members (h : v.Unambiguous) :
    NamesOnce v.members ∧ ∀ m ∈ v.members, m.2.Unambiguous := by
  cases v with
  | object members => exact unambiguous_object.mp h
  | _ => exact ⟨.nil, nofun⟩

theorem unambiguous_items (h : v.Unambiguous) : ∀ item ∈ v.items, item.Unambiguous := by
  cases v with
  | list items =>
    cases h with
    | scalar isScalar => exact absurd isScalar id
    | list each => exact each
  | _ => exact fun _ mem => absurd mem List.not_mem_nil

theorem Unambiguous.field? (h : v.Unambiguous) (found : v.field? name = some x) : x.Unambiguous := by
  cases v with
  | object members => exact (unambiguous_members h).2 _ (mem_of_lookup found)
  | _ => cases found

theorem Unambiguous.set (h : v.Unambiguous) (hx : x.Unambiguous) : (v.set name x).Unambiguous := by
  obtain ⟨once, each⟩ := unambiguous_members h
  refine .object once.setBinding fun m mem => ?_
  rcases mem_setBinding mem with rfl | mem
  · exact hx
  · exact each m mem

theorem layOver_of_isScalar (isScalar : v.IsScalar) (base : Option Json) : v.layOver base = v := by
  cases v <;> first | rfl | exact absurd isScalar id

mutual

theorem unambiguous_layOver : (v : Json) → (base : Option Json) → v.Unambiguous →
    (∀ b, base = some b → b.Unambiguous) → (v.layOver base).Unambiguous
  | .object members, none, h, _ =>
    unambiguous_layMembers members (.object []) (unambiguous_object.mp h).2 (.object .nil nofun)
  | .object members, some b, h, hbase =>
    unambiguous_layMembers members b (unambiguous_object.mp h).2 (hbase b rfl)
  | .null, _, h, _ => h
  | .bool _, _, h, _ => h
  | .int _, _, h, _ => h
  | .real _, _, h, _ => h
  | .text _, _, h, _ => h
  | .list _, _, h, _ => h

theorem unambiguous_layMembers : (members : List (String × Json)) → (base : Json) →
    (∀ m ∈ members, m.2.Unambiguous) → base.Unambiguous → (layMembers members base).Unambiguous
  | [], _, _, hbase => hbase
  | (name, v) :: rest, base, each, hbase => by
    obtain ⟨first, later⟩ := List.forall_mem_cons.mp each
    unfold layMembers
    exact unambiguous_layMembers rest _ later
      (hbase.set (unambiguous_layOver v _ first fun b found => hbase.field? found))

end

theorem unambiguous_getD {o : Option Json} (h : ∀ v, o = some v → v.Unambiguous) :
    (o.getD .null).Unambiguous := by
  cases o with
  | none => exact .scalar trivial
  | some v => exact h v rfl

/-- Reaching for an item adds nothing but null. -/
theorem mem_reach {position : Int} {items : List Json} {item : Json}
    (mem : item ∈ (SettingsPath.reach position items).1) : item = .null ∨ item ∈ items := by
  unfold SettingsPath.reach at mem
  split at mem
  · exact (List.mem_append.mp mem).symm.imp_left List.eq_of_mem_replicate
  · exact (List.mem_append.mp mem).imp_left List.eq_of_mem_replicate

theorem unambiguous_layAt {value : Json} (hvalue : value.Unambiguous) (steps : List PathStep)
    (hv : v.Unambiguous) : (SettingsPath.layAt value steps v).Unambiguous := by
  fun_induction SettingsPath.layAt value steps v with
  | case1 => exact hvalue
  | case2 v name key => exact hv.set (unambiguous_layOver _ _ hvalue fun b found => hv.field? found)
  | case3 v name rest _ key ih =>
    exact hv.set (ih (unambiguous_getD fun w found => hv.field? found))
  | case4 position rest v items place reached ih =>
    have each : ∀ item ∈ items, item.Unambiguous := by
      intro item mem
      have within : item ∈ (SettingsPath.reach position v.items).1 := by rwa [reached]
      rcases mem_reach within with rfl | mem
      · exact .scalar trivial
      · exact unambiguous_items hv item mem
    refine .list fun item mem => ?_
    rcases List.mem_or_eq_of_mem_set mem with mem | rfl
    · exact each item mem
    · exact ih (unambiguous_getD fun w found => each w (List.mem_of_getElem? found))

theorem Unambiguous.layPaths (hbase : base.Unambiguous) {layer : List (String × Json)}
    (each : ∀ m ∈ layer, m.2.Unambiguous) : (base.layPaths layer).Unambiguous := by
  induction layer generalizing base with
  | nil => exact hbase
  | cons m rest ih =>
    obtain ⟨first, later⟩ := List.forall_mem_cons.mp each
    exact ih (unambiguous_layAt first _ hbase) later

end Json

end ScanTool
