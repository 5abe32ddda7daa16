import Mathlib.Data.List.Induction
import ScanTool.Brand.Resolver
import ScanTool.Proofs.Bindings

/-!
# The request of a brand and the order of the settings

The requests that are set for brands come as a map from names to requests, and a map has no order of
its own. They are set one after the other; there are more names than keys, and of the names with one
key the last one counts. So the request of a brand does not depend on the order exactly if all names
with its key agree. Otherwise each of their requests is what the vehicle is sent in some order.
-/

namespace ScanTool.Resolver

/-- A setting is one for a brand: its name has the key of the brand. -/
def IsFor (brand : String) (setting : String × String) : Prop :=
  BrandKey.ofName setting.1 = BrandKey.ofName brand

/-- The requests that settings leave open for a brand: those that are set for it, or the one from
before if none is. -/
inductive Allows (r : Resolver) (settings : List (String × String)) (brand : String) :
    String → Prop
  | set {setting : String × String} (mem : setting ∈ settings) (own : IsFor brand setting) :
    Allows r settings brand setting.2
  | unset (none : ∀ setting ∈ settings, ¬ IsFor brand setting) :
    Allows r settings brand (r.query brand)

variable {r : Resolver} {settings order : List (String × String)} {setting : String × String}
  {brand request other : String}

/-! ## Setting one request after the other -/

theorem query_withQueries_concat_of_isFor (own : IsFor brand setting) :
    (r.withQueries (settings ++ [setting])).query brand = setting.2 := by
  have key : BrandKey.ofName setting.1 = BrandKey.ofName brand := own
  unfold query withQueries
  rw [List.foldl_append]
  simp [key]

theorem query_withQueries_concat_of_not_isFor (foreign : ¬ IsFor brand setting) :
    (r.withQueries (settings ++ [setting])).query brand = (r.withQueries settings).query brand := by
  have ne : BrandKey.ofName brand ≠ BrandKey.ofName setting.1 := fun same => foreign same.symm
  unfold query withQueries
  rw [List.foldl_append]
  simp [lookup_cons_of_ne ne]

theorem allows_query : Allows r settings brand ((r.withQueries settings).query brand) := by
  induction settings using List.reverseRecOn with
  | nil => exact .unset (by simp)
  | append_singleton settings last ih =>
    by_cases own : IsFor brand last
    · rw [query_withQueries_concat_of_isFor own]
      exact .set (by simp) own
    · rw [query_withQueries_concat_of_not_isFor own]
      generalize (r.withQueries settings).query brand = request at ih
      cases ih with
      | set mem own' => exact .set (List.mem_append_left _ mem) own'
      | unset none =>
        refine .unset ?_
        intro setting mem
        rcases List.mem_append.mp mem with mem | mem
        · exact none setting mem
        · exact List.mem_singleton.mp mem ▸ own

/-! ## All orders of a map -/

theorem Allows.perm (h : Allows r order brand request) (perm : order.Perm settings) :
    Allows r settings brand request := by
  cases h with
  | set mem own => exact .set (perm.mem_iff.mp mem) own
  | unset none => exact .unset fun setting mem => none setting (perm.mem_iff.mpr mem)

theorem Allows.eq_of_agree
    (agree : ∀ setting ∈ settings, ∀ setting' ∈ settings,
      IsFor brand setting → IsFor brand setting' → setting.2 = setting'.2)
    (h : Allows r settings brand request) (h' : Allows r settings brand other) :
    request = other := by
  cases h with
  | set mem own =>
    cases h' with
    | set mem' own' => exact agree _ mem _ mem' own own'
    | unset none => exact absurd own (none _ mem)
  | unset none =>
    cases h' with
    | set mem own => exact absurd own (none _ mem)
    | unset _ => rfl

/-- A request that is set for a brand is its request in an order that ends with the setting. -/
theorem Allows.exists_order (h : Allows r settings brand request) :
    ∃ order, order.Perm settings ∧ (r.withQueries order).query brand = request := by
  cases h with
  | @set setting mem own =>
    have front : (setting :: settings.erase setting).Perm settings :=
      (List.perm_cons_erase mem).symm
    have last : (settings.erase setting ++ [setting]).Perm settings :=
      (List.perm_append_singleton _ _).trans front
    exact ⟨_, last, query_withQueries_concat_of_isFor own⟩
  | unset none =>
    refine ⟨settings, List.Perm.refl _, ?_⟩
    refine allows_query.eq_of_agree ?_ (.unset none)
    intro setting mem _ _ own
    exact absurd own (none setting mem)

/-- Reading a brand over a channel sends its request once, unless the brand has no table. -/
theorem readLive_channel {σ : Type} [Channel σ] (files : Files) (c : σ) :
    (r.readLive files brand c).2.2 =
      if (r.table files brand).1.isEmpty then c else (Channel.exchange (r.query brand) c).2 := by
  rw [readLive_eq]
  split
  · rfl
  · exact ask_channel _ _ c

/-- The request of a brand in all orders of a map of settings. The requests that it can have are
those that are set for the brand, or the one from before if none is. It is the same in every order
exactly if all settings for the brand agree. And it is what the vehicle is sent when the brand is
read. -/
theorem query_same_in_every_order_iff {σ : Type} [Channel σ] (r : Resolver)
    (settings : List (String × String)) (brand : String) :
    let ofOrder (order : List (String × String)) := (r.withQueries order).query brand
    (∀ request, (∃ order, order.Perm settings ∧ ofOrder order = request) ↔
      Allows r settings brand request) ∧
    ((∀ order order', order.Perm settings → order'.Perm settings →
        ofOrder order = ofOrder order') ↔
      ∀ setting ∈ settings, ∀ setting' ∈ settings,
        IsFor brand setting → IsFor brand setting' → setting.2 = setting'.2) ∧
    ∀ order (files : Files) (c : σ), ((r.withQueries order).readLive files brand c).2.2 =
      if (r.table files brand).1.isEmpty then c else (Channel.exchange (ofOrder order) c).2 := by
  intro ofOrder
  have allows {order : List (String × String)} (perm : order.Perm settings) :
      Allows r settings brand (ofOrder order) := allows_query.perm perm
  refine ⟨?_, ?_, fun order files c => readLive_channel files c⟩
  · intro request
    constructor
    · rintro ⟨order, perm, rfl⟩
      exact allows perm
    · exact Allows.exists_order
  · constructor
    · intro alike setting mem setting' mem' own own'
      obtain ⟨order, perm, same⟩ := (Allows.set (r := r) mem own).exists_order
      obtain ⟨order', perm', same'⟩ := (Allows.set (r := r) mem' own').exists_order
      calc setting.2 = ofOrder order := same.symm
        _ = ofOrder order' := alike order order' perm perm'
        _ = setting'.2 := same'
    · intro agree order order' perm perm'
      exact (allows perm).eq_of_agree agree (allows perm')

/-- Two spellings of one brand with different requests: the vehicle is sent the one or the other. -/
theorem query_of_two_spellings :
    let table := Trouble.CodeTable.empty.insert "P1083" "Fuel control mixture lean"
    let r := ofParts ((BrandTables.ofDir "tables").insert "bmw" table) (.ofSeed 0)
    let settings := [("BMW", "22 2000"), ("b m w", "22 3000")]
    let sent (order : List (String × String)) :=
      ((r.withQueries order).readLive (fun _ => .error .missing) "bmw" Script.empty).2.2.log
    (∃ order, order.Perm settings ∧ sent order = ["22 2000"]) ∧
      (∃ order, order.Perm settings ∧ sent order = ["22 3000"]) ∧
      ¬ ∀ order order', order.Perm settings → order'.Perm settings →
        (r.withQueries order).query "bmw" = (r.withQueries order').query "bmw" := by
  intro table r settings sent
  obtain ⟨requests, same, channel⟩ := query_same_in_every_order_iff (σ := Script) r settings "bmw"
  have upper : IsFor "bmw" ("BMW", "22 2000") := by
    show BrandKey.ofName "BMW" = BrandKey.ofName "bmw"
    decide +kernel
  have spaced : IsFor "bmw" ("b m w", "22 3000") := by
    show BrandKey.ofName "b m w" = BrandKey.ofName "bmw"
    decide +kernel
  have known (files : Files) : (r.table files "bmw").1 = table := by
    simp [r, ofParts, Resolver.table, BrandTables.table, BrandTables.insert]
  have log (order : List (String × String)) : sent order = [(r.withQueries order).query "bmw"] := by
    show Script.log _ = _
    rw [channel, known]
    rfl
  refine ⟨?_, ?_, ?_⟩
  · obtain ⟨order, perm, is⟩ := (requests "22 2000").mpr (.set (by simp [settings]) upper)
    refine ⟨order, perm, (log order).trans ?_⟩
    exact congrArg (fun request => [request]) is
  · obtain ⟨order, perm, is⟩ := (requests "22 3000").mpr (.set (by simp [settings]) spaced)
    refine ⟨order, perm, (log order).trans ?_⟩
    exact congrArg (fun request => [request]) is
  · intro alike
    have equal := same.mp alike _ (by simp [settings]) _ (by simp [settings]) upper spaced
    exact absurd equal (by decide)

end ScanTool.Resolver
