import ScanTool.Settings.Overlay
import ScanTool.Trouble.Table

/-!
# Lists of bindings

Memories, settings and the members of objects are lists that bind names to values, in which the first
binding of a name counts. What is found under a name after a binding was put in front, in the place of
an earlier one, or in order.
-/

namespace ScanTool

/-! ## Looking up -/

theorem lookup_cons_eq_ite {α β : Type} [BEq α] [LawfulBEq α] [DecidableEq α] (name other : α)
    (value : β) (bindings : List (α × β)) :
    ((name, value) :: bindings).lookup other =
      if other = name then some value else bindings.lookup other := by
  rw [List.lookup_cons]
  by_cases h : other = name
  · simp [h]
  · rw [if_neg h, beq_eq_false_iff_ne.mpr h]

theorem lookup_cons_of_ne {α β : Type} [BEq α] [LawfulBEq α] {k a : α} {b : β} {l : List (α × β)}
    (ne : k ≠ a) : ((a, b) :: l).lookup k = l.lookup k := by
  rw [List.lookup_cons, beq_eq_false_iff_ne.mpr ne]

theorem lookup_map_values {α β : Type} (f : α → β) (name : String) (bindings : List (String × α)) :
    (bindings.map fun b => (b.1, f b.2)).lookup name = (bindings.lookup name).map f := by
  induction bindings with
  | nil => rfl
  | cons b rest ih =>
    obtain ⟨k, v⟩ := b
    rw [List.map_cons, lookup_cons_eq_ite, lookup_cons_eq_ite, ih]
    by_cases h : name = k
    · rw [if_pos h, if_pos h, Option.map_some]
    · rw [if_neg h, if_neg h]

/-- Binding a name changes what is bound to that name alone. -/
theorem lookup_setBinding {α : Type} (name other : String) (value : α)
    (bindings : List (String × α)) :
    (setBinding name value bindings).lookup other =
      if other = name then some value else bindings.lookup other := by
  induction bindings with
  | nil => exact lookup_cons_eq_ite name other value []
  | cons b rest ih =>
    obtain ⟨k, v⟩ := b
    unfold setBinding
    by_cases hk : k = name
    · subst hk
      rw [if_pos rfl, lookup_cons_eq_ite, lookup_cons_eq_ite]
      split <;> rfl
    · rw [if_neg hk, lookup_cons_eq_ite, lookup_cons_eq_ite, ih]
      by_cases h : other = k
      · rw [if_pos h, if_neg (h ▸ hk), if_pos h]
      · rw [if_neg h, if_neg h]

/-! ## Putting in order -/

theorem lookup_putSorted {α : Type} (name other : String) (value : α)
    (bindings : List (String × α)) :
    (putSorted name value bindings).lookup other =
      if other = name then some value else bindings.lookup other := by
  induction bindings with
  | nil => exact lookup_cons_eq_ite name other value []
  | cons b rest ih =>
    obtain ⟨k, v⟩ := b
    unfold putSorted
    split
    · exact lookup_cons_eq_ite name other value _
    · split
      · rename_i same
        subst same
        rw [lookup_cons_eq_ite, lookup_cons_eq_ite]
        by_cases h : other = name
        · rw [if_pos h, if_pos h]
        · rw [if_neg h, if_neg h, if_neg h]
      · rename_i ne
        rw [lookup_cons_eq_ite, lookup_cons_eq_ite, ih]
        by_cases h : other = k
        · have other_ne : other ≠ name := fun same => ne (same.symm.trans h)
          rw [if_pos h, if_neg other_ne, if_pos h]
        · rw [if_neg h, if_neg h]

theorem lookup_removeBinding {α : Type} (name other : String) (bindings : List (String × α)) :
    (removeBinding name bindings).lookup other =
      if other = name then none else bindings.lookup other := by
  induction bindings with
  | nil =>
    show (none : Option α) = if other = name then none else none
    rw [ite_self]
  | cons b rest ih =>
    obtain ⟨k, v⟩ := b
    unfold removeBinding at ih ⊢
    by_cases hk : k = name
    · rw [List.filter_cons_of_neg (by simp [hk]), ih, lookup_cons_eq_ite]
      by_cases h : other = name
      · rw [if_pos h, if_pos h]
      · have other_ne : other ≠ k := fun same => h (same.trans hk)
        rw [if_neg h, if_neg h, if_neg other_ne]
    · rw [List.filter_cons_of_pos (by simp [hk]), lookup_cons_eq_ite, lookup_cons_eq_ite, ih]
      by_cases h : other = k
      · have other_ne : other ≠ name := fun same => hk (h.symm.trans same)
        rw [if_pos h, if_neg other_ne, if_pos h]
      · rw [if_neg h, if_neg h]

/-- Of the bindings that are put in one after the other the last one for a name counts, and what was
there before counts only where none was put in. -/
theorem lookup_foldl_putSorted {α : Type} (name : String) (bindings sorted : List (String × α)) :
    (bindings.foldl (fun sorted b => putSorted b.1 b.2 sorted) sorted).lookup name =
      (bindings.reverse.lookup name).or (sorted.lookup name) := by
  induction bindings generalizing sorted with
  | nil => rfl
  | cons b rest ih =>
    rw [List.foldl_cons, ih, List.reverse_cons, List.lookup_append, lookup_putSorted, Option.or_assoc]
    have single : [b].lookup name = if name = b.1 then some b.2 else none :=
      lookup_cons_eq_ite b.1 name b.2 []
    rw [single]
    by_cases h : name = b.1
    · rw [if_pos h, if_pos h, Option.some_or]
    · rw [if_neg h, if_neg h, Option.none_or]

theorem lookup_sortBindings {α : Type} (name : String) (bindings : List (String × α)) :
    (sortBindings bindings).lookup name = bindings.reverse.lookup name := by
  have run := lookup_foldl_putSorted name bindings []
  rw [List.lookup_nil, Option.or_none] at run
  exact run

/-! ## Names that are bound once -/

/-- Bindings of which no two have the same name. -/
def NamesOnce {α : Type} (bindings : List (String × α)) : Prop := (bindings.map (·.1)).Nodup

section

variable {α : Type} {name : String} {value : α} {bindings : List (String × α)}

instance : Decidable (NamesOnce bindings) := inferInstanceAs (Decidable (List.Nodup _))

theorem NamesOnce.nil : NamesOnce ([] : List (String × α)) := List.Pairwise.nil

theorem namesOnce_cons : NamesOnce ((name, value) :: bindings) ↔
    name ∉ bindings.map (·.1) ∧ NamesOnce bindings := List.nodup_cons

theorem NamesOnce.concat (h : NamesOnce bindings) (fresh : name ∉ bindings.map (·.1)) :
    NamesOnce (bindings ++ [(name, value)]) := by
  unfold NamesOnce
  rw [List.map_append, List.nodup_append]
  refine ⟨h, by simp, fun a mem b single same => fresh ?_⟩
  obtain rfl : b = name := by simpa using single
  exact same ▸ mem

theorem lookup_eq_none_iff_not_mem : bindings.lookup name = none ↔ name ∉ bindings.map (·.1) := by
  rw [List.lookup_eq_none_iff, List.mem_map]
  constructor
  · rintro none ⟨b, mem, rfl⟩
    simpa using none b mem
  · intro fresh b mem
    exact bne_iff_ne.mpr fun same => fresh ⟨b, mem, same.symm⟩

theorem mem_of_lookup (h : bindings.lookup name = some value) : (name, value) ∈ bindings := by
  obtain ⟨before, after, rfl, -⟩ := List.lookup_eq_some_iff.mp h
  simp

/-- The names after a name is bound are the old ones and the new one. -/
theorem mem_names_setBinding {x : String} :
    x ∈ (setBinding name value bindings).map (·.1) ↔ x = name ∨ x ∈ bindings.map (·.1) := by
  induction bindings with
  | nil => simp [setBinding]
  | cons b rest ih =>
    obtain ⟨k, v⟩ := b
    unfold setBinding
    split
    · rename_i same
      simp [same]
    · rw [List.map_cons, List.mem_cons, ih, List.map_cons, List.mem_cons, or_left_comm]

theorem mem_setBinding {b : String × α} (h : b ∈ setBinding name value bindings) :
    b.2 = value ∨ b ∈ bindings := by
  induction bindings with
  | nil => simp_all [setBinding]
  | cons head rest ih =>
    obtain ⟨k, v⟩ := head
    unfold setBinding at h
    split at h
    · rcases List.mem_cons.mp h with rfl | h
      · exact Or.inl rfl
      · exact Or.inr (List.mem_cons_of_mem _ h)
    · rcases List.mem_cons.mp h with rfl | h
      · exact Or.inr List.mem_cons_self
      · exact (ih h).imp_right (List.mem_cons_of_mem _)

theorem NamesOnce.setBinding (h : NamesOnce bindings) : NamesOnce (setBinding name value bindings) := by
  induction bindings with
  | nil => exact namesOnce_cons.mpr ⟨List.not_mem_nil, .nil⟩
  | cons b rest ih =>
    obtain ⟨k, v⟩ := b
    obtain ⟨fresh, later⟩ := namesOnce_cons.mp h
    unfold ScanTool.setBinding
    split
    · exact namesOnce_cons.mpr ⟨fresh, later⟩
    · rename_i ne
      refine namesOnce_cons.mpr ⟨fun mem => ?_, ih later⟩
      exact (mem_names_setBinding.mp mem).elim ne fresh

theorem Ascending.namesOnce (h : Ascending bindings) : NamesOnce bindings := by
  refine List.pairwise_map.mpr (h.imp fun below same => ?_)
  rw [same] at below
  exact Std.lt_irrefl below

theorem ascending_sortBindings (bindings : List (String × α)) : Ascending (sortBindings bindings) := by
  have run (sorted : List (String × α)) (h : Ascending sorted) :
      Ascending (bindings.foldl (fun sorted b => putSorted b.1 b.2 sorted) sorted) := by
    induction bindings generalizing sorted with
    | nil => exact h
    | cons b rest ih => exact ih _ (ascending_putSorted h)
  exact run [] List.Pairwise.nil

theorem NamesOnce.lookup_eq_some_iff (h : NamesOnce bindings) :
    bindings.lookup name = some value ↔ (name, value) ∈ bindings := by
  refine ⟨mem_of_lookup, fun mem => ?_⟩
  obtain ⟨before, after, rfl⟩ := List.append_of_mem mem
  refine List.lookup_eq_some_iff.mpr ⟨before, after, rfl, fun b earlier => ?_⟩
  unfold NamesOnce at h
  rw [List.map_append, List.nodup_append] at h
  have ne : b.1 ≠ name := h.2.2 b.1 (List.mem_map_of_mem earlier) name List.mem_cons_self
  exact bne_iff_ne.mpr ne.symm

theorem NamesOnce.nodup (h : NamesOnce bindings) : bindings.Nodup :=
  List.Pairwise.of_map (·.1) (fun _ _ ne same => ne (congrArg _ same)) h

theorem NamesOnce.reverse (h : NamesOnce bindings) : NamesOnce bindings.reverse := by
  unfold NamesOnce at h ⊢
  rw [List.map_reverse]
  exact (List.reverse_perm _).symm.nodup h

/-- Where no name is bound twice it does not matter whether the first or the last binding counts. -/
theorem NamesOnce.lookup_reverse (h : NamesOnce bindings) :
    bindings.reverse.lookup name = bindings.lookup name := by
  refine Option.ext fun value => ?_
  rw [h.reverse.lookup_eq_some_iff, h.lookup_eq_some_iff, List.mem_reverse]

/-- Ascending bindings are determined by what is found under each name. -/
theorem Ascending.ext {a b : List (String × α)} (ha : Ascending a) (hb : Ascending b)
    (same : ∀ name, a.lookup name = b.lookup name) : a = b := by
  have mem (p : String × α) : p ∈ a ↔ p ∈ b := by
    rw [← ha.namesOnce.lookup_eq_some_iff, ← hb.namesOnce.lookup_eq_some_iff, same]
  have perm : a.Perm b :=
    (List.perm_ext_iff_of_nodup ha.namesOnce.nodup hb.namesOnce.nodup).mpr mem
  refine perm.eq_of_pairwise (fun p q _ _ below above => ?_) ha hb
  exact absurd (String.lt_trans below above) (String.lt_irrefl p.1)

theorem removeBinding_of_unbound (unbound : bindings.lookup name = none) :
    removeBinding name bindings = bindings := by
  unfold removeBinding
  rw [List.filter_eq_self]
  intro b mem
  have ne : b.1 ≠ name := fun same =>
    lookup_eq_none_iff_not_mem.mp unbound (List.mem_map.mpr ⟨b, mem, same⟩)
  exact bne_iff_ne.mpr ne

/-- What is taken out of bindings in ascending order has its old place when it is put back. -/
theorem putSorted_removeBinding (h : Ascending bindings) (bound : bindings.lookup name = some value) :
    putSorted name value (removeBinding name bindings) = bindings := by
  have others : Ascending (removeBinding name bindings) := List.Pairwise.filter _ h
  refine (ascending_putSorted others).ext h fun other => ?_
  rw [lookup_putSorted, lookup_removeBinding]
  by_cases same : other = name
  · rw [if_pos same, same, bound]
  · rw [if_neg same, if_neg same]

theorem Ascending.map_values {β : Type} (h : Ascending bindings) (f : α → β) :
    Ascending (bindings.map fun b => (b.1, f b.2)) :=
  List.pairwise_map.mpr h

theorem sortBindings_of_ascending (h : Ascending bindings) : sortBindings bindings = bindings := by
  refine (ascending_sortBindings bindings).ext h fun name => ?_
  rw [lookup_sortBindings, h.namesOnce.lookup_reverse]

/-- Sorting keeps the names. -/
theorem mem_names_sortBindings : name ∈ (sortBindings bindings).map (·.1) ↔
    name ∈ bindings.map (·.1) := by
  rw [← Decidable.not_iff_not, ← lookup_eq_none_iff_not_mem, lookup_sortBindings,
    lookup_eq_none_iff_not_mem, List.map_reverse, List.mem_reverse]

theorem mem_sortBindings {b : String × α} (mem : b ∈ sortBindings bindings) : b ∈ bindings := by
  have once := (ascending_sortBindings bindings).namesOnce
  have found : (sortBindings bindings).lookup b.1 = some b.2 := once.lookup_eq_some_iff.mpr mem
  rw [lookup_sortBindings] at found
  exact List.mem_reverse.mp (mem_of_lookup found)

end

end ScanTool
