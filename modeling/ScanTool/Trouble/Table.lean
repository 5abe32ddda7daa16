import ScanTool.Json.Value
import ScanTool.Trouble.Code

/-!
# Code tables

A table describes codes. Its entries stand in ascending order of their codes, one for each code;
the structure holds the proof. Main statements: `putSorted` keeps the order, and so every way of
building a table does.
-/

namespace ScanTool

/-- Bindings in strictly ascending order of names. -/
def Ascending {α : Type} (bindings : List (String × α)) : Prop :=
  bindings.Pairwise fun a b => a.1 < b.1

/-- Of two names that are different one comes before the other. -/
theorem name_lt_of_not_lt {a b : String} (h : ¬ a < b) (ne : a ≠ b) : b < a := by
  rcases Std.lt_trichotomy a b with hlt | heq | hgt
  · exact absurd hlt h
  · exact absurd heq ne
  · exact hgt

/-- The names after a binding is put in are the old ones and the new one. -/
theorem mem_putSorted {α : Type} {name : String} {value : α} {bindings : List (String × α)}
    {p : String × α} (h : p ∈ putSorted name value bindings) : p = (name, value) ∨ p ∈ bindings := by
  induction bindings with
  | nil => simpa [putSorted] using h
  | cons head rest ih =>
    obtain ⟨k, v⟩ := head
    simp only [putSorted] at h
    split at h
    · simpa using h
    · split at h
      · rcases List.mem_cons.1 h with h | h
        · exact Or.inl h
        · exact Or.inr (List.mem_cons_of_mem _ h)
      · rcases List.mem_cons.1 h with h | h
        · exact Or.inr (h ▸ List.mem_cons_self)
        · rcases ih h with h | h
          · exact Or.inl h
          · exact Or.inr (List.mem_cons_of_mem _ h)

/-- Putting a binding in keeps the order. -/
theorem ascending_putSorted {α : Type} {name : String} {value : α} {bindings : List (String × α)}
    (h : Ascending bindings) : Ascending (putSorted name value bindings) := by
  induction bindings with
  | nil => simp [putSorted, Ascending]
  | cons head rest ih =>
    obtain ⟨k, v⟩ := head
    obtain ⟨below, tail⟩ := List.pairwise_cons.1 h
    simp only [putSorted]
    split
    · rename_i lt
      refine List.pairwise_cons.2 ⟨fun p hp => ?_, h⟩
      rcases List.mem_cons.1 hp with hp | hp
      · exact hp ▸ lt
      · exact String.lt_trans lt (below p hp)
    · rename_i nlt
      split
      · rename_i eq
        exact List.pairwise_cons.2 ⟨fun p hp => eq ▸ below p hp, tail⟩
      · rename_i ne
        refine List.pairwise_cons.2 ⟨fun p hp => ?_, ih tail⟩
        rcases mem_putSorted hp with hp | hp
        · exact hp ▸ name_lt_of_not_lt nlt ne
        · exact below p hp

namespace Trouble

/-- A table of codes and their descriptions. -/
structure CodeTable where
  /-- The entries: code and description. -/
  entries : List (String × String)
  /-- The codes ascend, so there is one entry for each. -/
  ascending : Ascending entries

namespace CodeTable

/-- The table without entries. -/
def empty : CodeTable := ⟨[], List.Pairwise.nil⟩

instance : Inhabited CodeTable := ⟨empty⟩

/-- A table with an entry added, in place of an earlier one for the same code. -/
def insert (t : CodeTable) (code description : String) : CodeTable :=
  ⟨putSorted code description t.entries, ascending_putSorted t.ascending⟩

/-- A table with entries added one after the other. -/
def insertAll (t : CodeTable) (entries : List (String × String)) : CodeTable :=
  entries.foldl (fun t e => t.insert e.1 e.2) t

/-- A table with every entry of another added. -/
def merge (t other : CodeTable) : CodeTable := t.insertAll other.entries

/-- The table of a list of entries; the last one for a code counts. -/
def ofList (entries : List (String × String)) : CodeTable := empty.insertAll entries

/-- The description of a code, if the table has it. -/
def get? (t : CodeTable) (code : String) : Option String := t.entries.lookup code

/-- The description of a code, or `fallback` if the table lacks it. -/
def describe (t : CodeTable) (code fallback : String) : String := (t.get? code).getD fallback

/-- The codes, ascending. -/
def codes (t : CodeTable) : List String := t.entries.map (·.1)

/-- The number of entries. -/
def size (t : CodeTable) : Nat := t.entries.length

/-- Whether there is no entry. -/
def isEmpty (t : CodeTable) : Bool := t.entries.isEmpty

/-- A code with its description from the table. -/
def label (t : CodeTable) (fallback code : String) : TroubleCode :=
  ⟨code, t.describe code fallback⟩

end CodeTable

end Trouble

end ScanTool
