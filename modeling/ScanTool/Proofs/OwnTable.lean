import ScanTool.Brand.Operation
import ScanTool.Proofs.KnownTables
import ScanTool.Proofs.RememberedDraws

/-!
# Simulated codes come from the brand's own table

A resolver has two memories: the tables that were looked for and the codes that were drawn. The
invariant that joins them is `OwnCodes`: whatever code is remembered of a brand stands in the table
known for it. A table once known stays, so the files may change as they like. An operation can do one
of four things to a resolver, `Change`, and each keeps the invariant; the main statement is about a
resolver after any use.
-/

namespace ScanTool

open Trouble (CodeTable TroubleCode)

namespace Trouble.CodeTable

theorem get?_of_mem_codes {t : CodeTable} {code : String} (h : code ∈ t.codes) :
    ∃ description, t.get? code = some description := by
  obtain ⟨e, he, rfl⟩ := List.mem_map.mp h
  cases found : t.get? e.1 with
  | some description => exact ⟨description, rfl⟩
  | none =>
    have ne := List.lookup_eq_none_iff.mp found e he
    simp at ne

/-- A code that the table has is described by the table. -/
theorem get?_label {t : CodeTable} {code : String} (fallback : String) (h : code ∈ t.codes) :
    t.get? code = some (t.label fallback code).description := by
  obtain ⟨description, found⟩ := get?_of_mem_codes h
  simp [label, describe, found]

end Trouble.CodeTable

namespace Simulation

/-- A code that is read is remembered or stands in the table. -/
theorem mem_read {s : Simulation} {key : BrandKey} {table : CodeTable} {c : String}
    (h : c ∈ (s.read key table).1) :
    (∃ codes, s.memory? key = some codes ∧ c ∈ codes) ∨ c ∈ table.codes := by
  cases hs : s.memory? key with
  | some codes =>
    rw [read_of_memory? hs] at h
    exact Or.inl ⟨codes, rfl, h⟩
  | none =>
    rw [read_of_forgotten hs] at h
    exact Or.inr ((draw_spec table s.source).2.1 c h)

end Simulation

namespace Resolver

/-- What an operation can do to a resolver. -/
inductive Change (files : Files) (r : Resolver) : Resolver → Prop
  | none : Change files r r
  | table (brand : String) : Change files r (r.table files brand).2
  | read (brand : String) : Change files r (r.readSimulated files brand).2
  | clear (brand : String) : Change files r (r.clearSimulated brand)

/-- Every code that is remembered of a brand stands in the table known for it. -/
def OwnCodes (r : Resolver) : Prop :=
  ∀ key codes, r.simulation.memory? key = some codes → ∀ c ∈ codes,
    ∃ table, r.tables.known? key = some table ∧ c ∈ table.codes

section

variable {σ : Type} [Channel σ] (files : Files) (brand : String) (r : Resolver) (c : σ)

theorem table_simulation : (r.table files brand).2.simulation = r.simulation := rfl

theorem readSimulated_simulation : (r.readSimulated files brand).2.simulation =
    (r.simulation.read (.ofName brand) (r.table files brand).1).2 := by
  simp only [readSimulated, table_simulation]

theorem readSimulated_tables : (r.readSimulated files brand).2.tables =
    (r.tables.table files (.ofName brand)).2 := by
  simp only [readSimulated, Resolver.table]

theorem map_code_readSimulated : (r.readSimulated files brand).1.map (·.code) =
    (r.simulation.read (.ofName brand) (r.table files brand).1).1 := by
  simp only [readSimulated, table_simulation, List.map_map]
  exact List.map_id _

/-- The table that codes were read from stays the table of the brand. -/
theorem table_after_readSimulated (later : Files) :
    ((r.readSimulated files brand).2.table later brand).1 = (r.table files brand).1 := by
  simp only [Resolver.table, readSimulated_tables]
  exact BrandTables.table_again later

theorem clearSimulated_simulation :
    (r.clearSimulated brand).simulation = r.simulation.clear (.ofName brand) := rfl

/-- Reading over a channel looks for the table and does nothing else to the resolver. -/
theorem readLive_resolver : (r.readLive files brand c).2.1 = (r.table files brand).2 := by
  rw [readLive_eq]
  split <;> rfl

theorem perform_change {ι : Type} [DecidableEq ι] (w : Workshop ι σ) (op : Operation ι) :
    Change files w.resolver (w.perform files op).2.resolver := by
  have live (brand : String) (c : σ) :
      Change files w.resolver (w.resolver.readLive files brand c).2.1 := by
    rw [readLive_resolver]
    exact .table brand
  cases op with
  | table brand => exact .table brand
  | readSimulated brand => exact .read brand
  | clearSimulated brand => exact .clear brand
  | isActive brand => exact .none
  | readLive brand i => exact live brand (w.channels i)
  | clearLive brand i => exact .none
  | readCodes brand i? =>
    cases i? with
    | none => exact .read brand
    | some i => exact live brand (w.channels i)
  | clear brand i? =>
    cases i? with
    | none => exact .clear brand
    | some i => exact .none

end

namespace OwnCodes

variable {files : Files} {r r' : Resolver}

theorem of_fresh {r : Resolver} (h : r.simulation.remembered = []) : OwnCodes r := by
  intro key codes found
  simp [Simulation.memory?, h] at found

/-- A code that is read in simulation stands in the table that the brand has then. -/
theorem mem_codes (own : OwnCodes r) {key : BrandKey} {c : String}
    (h : c ∈ (r.simulation.read key (r.tables.table files key).1).1) :
    c ∈ (r.tables.table files key).1.codes := by
  rcases Simulation.mem_read h with ⟨codes, found, hc⟩ | h
  · obtain ⟨table, known, hc⟩ := own key codes found c hc
    rw [BrandTables.table_of_known known]
    exact hc
  · exact h

theorem table (own : OwnCodes r) (brand : String) : OwnCodes (r.table files brand).2 := by
  intro key codes found c hc
  obtain ⟨table, known, hc⟩ := own key codes found c hc
  exact ⟨table, BrandTables.known?_table_of_known known, hc⟩

theorem readSimulated (own : OwnCodes r) (brand : String) :
    OwnCodes (r.readSimulated files brand).2 := by
  intro key codes found c hc
  by_cases same : BrandKey.ofName brand = key
  · subst same
    rw [readSimulated_simulation, Simulation.memory?_read] at found
    obtain rfl := Option.some.inj found
    exact ⟨_, BrandTables.known?_table, own.mem_codes hc⟩
  · rw [readSimulated_simulation, Simulation.memory?_read_of_ne same] at found
    exact own.table brand key codes found c hc

theorem clearSimulated (own : OwnCodes r) (brand : String) : OwnCodes (r.clearSimulated brand) := by
  intro key codes found c hc
  by_cases same : BrandKey.ofName brand = key
  · subst same
    rw [clearSimulated_simulation, Simulation.memory?_clear] at found
    cases found
    cases hc
  · rw [clearSimulated_simulation, Simulation.memory?_clear_of_ne same] at found
    exact own key codes found c hc

/-- Whatever is done to a resolver, its codes stay in their own tables. -/
theorem change (own : OwnCodes r) (h : Change files r r') : OwnCodes r' := by
  cases h with
  | none => exact own
  | table brand => exact own.table brand
  | read brand => exact own.readSimulated brand
  | clear brand => exact own.clearSimulated brand

/-- A code that is read stands in the table that the brand has then, with its description. -/
theorem described (own : OwnCodes r) {brand : String} {code : TroubleCode}
    (h : code ∈ (r.readSimulated files brand).1) :
    code.code ∈ (r.table files brand).1.codes ∧
      (r.table files brand).1.get? code.code = some code.description := by
  obtain ⟨c, hc, rfl⟩ := List.mem_map.mp h
  have mem := own.mem_codes hc
  exact ⟨mem, CodeTable.get?_label Brand.unknownCode mem⟩

end OwnCodes

/-- Simulated codes come from the brand's own table. A resolver that has drawn nothing yet, with any
tables and requests, is put to any use, and the files are changed at will. Then the codes that a brand
has in simulation are those remembered or drawn for the table that it has at that moment. Each of them
is a code of this table, with the description that stands there, and the brand keeps the table however
the files change. -/
theorem simulated_codes_described {ι σ : Type} [DecidableEq ι] [Channel σ] (tables : BrandTables)
    (source : Random.Stream) (queries : List (String × String)) (channels : ι → σ)
    (history : List (Files × Operation ι)) (files : Files) (brand : String) :
    let start : Workshop ι σ := ⟨(ofParts tables ⟨[], source⟩).withQueries queries, channels⟩
    let r := (start.performAll history).resolver
    let table := (r.table files brand).1
    let codes := (r.readSimulated files brand).1
    codes.map (·.code) = (r.simulation.read (.ofName brand) table).1 ∧
      ∀ code ∈ codes, code.code ∈ table.codes ∧ table.get? code.code = some code.description ∧
        ∀ later, ((r.readSimulated files brand).2.table later brand).1 = table := by
  intro start r table codes
  have fresh : OwnCodes start.resolver := .of_fresh rfl
  have own : OwnCodes r :=
    Workshop.performAll_induction (P := fun w => OwnCodes w.resolver)
      (fun files w op own => own.change (perform_change files w op)) fresh
  refine ⟨map_code_readSimulated files brand r, ?_⟩
  intro code h
  obtain ⟨mem, described⟩ := own.described h
  refine ⟨mem, described, ?_⟩
  intro later
  exact table_after_readSimulated files brand r later

/-- The codes of a brand whose file is gone since they were drawn, read in another spelling. -/
theorem simulated_codes_described_without_file :
    let present : Files := fun path =>
      if path = "tables/audi.json" then
        .ok (.text "\x7b\"P1296\": \"Cooling system malfunction\"\x7d")
      else .error .missing
    let gone : Files := fun _ => .error .missing
    let history : List (Files × Operation Unit) :=
      [(present, .readSimulated "Audi"), (gone, .readLive "BMW" ()), (gone, .clear "BMW" none)]
    let start : Workshop Unit Script :=
      ⟨(ofParts (.ofDir "tables") (.ofSeed 0)).withQueries [], fun _ => .empty⟩
    let r := (start.performAll history).resolver
    ⟨"P1296", "Cooling system malfunction"⟩ ∈ (r.readSimulated gone "AUDI!").1 ∧
      (r.table gone "AUDI!").1.get? "P1296" = some "Cooling system malfunction" := by
  intro present gone history start r
  have read : ⟨"P1296", "Cooling system malfunction"⟩ ∈ (r.readSimulated gone "AUDI!").1 := by
    decide +kernel +zetaReduce
  exact ⟨read, ((simulated_codes_described _ _ _ _ history gone "AUDI!").2 _ read).2.1⟩

end Resolver

end ScanTool
