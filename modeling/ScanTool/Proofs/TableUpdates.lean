import Mathlib.Data.List.Dedup
import ScanTool.Brand.TableFile
import ScanTool.Proofs.Bindings

/-!
# Tables after updates

A table is made of a list of entries and changed by inserting single entries and by merging other
tables. All of this comes to one list of writes, one after the other: the codes of the table are those
that were ever written, and the description of a code is the last one that was written for it. Tables
that describe every code alike are equal, so that the laws of merging are laws of descriptions.
-/

namespace ScanTool.Trouble.CodeTable

variable {t a b c : CodeTable} {code description : String} {written later : List (String × String)}

/-! ## Descriptions -/

/-- Tables that describe every code alike are equal. -/
theorem ext (same : ∀ code, a.get? code = b.get? code) : a = b := by
  obtain ⟨entries, ascending⟩ := a
  obtain ⟨entries', ascending'⟩ := b
  obtain rfl : entries = entries' := ascending.ext ascending' same
  rfl

theorem entries_insertAll : (t.insertAll written).entries =
    written.foldl (fun sorted e => putSorted e.1 e.2 sorted) t.entries := by
  induction written generalizing t with
  | nil => rfl
  | cons e rest ih => exact ih (t := t.insert e.1 e.2)

theorem entries_ofList : (ofList written).entries = sortBindings written := entries_insertAll

/-- A list that ascends is the list of the entries of its table. -/
theorem entries_ofList_of_ascending (h : Ascending written) : (ofList written).entries = written := by
  rw [entries_ofList, sortBindings_of_ascending h]

theorem ofList_entries (t : CodeTable) : ofList t.entries = t := by
  refine ext fun code => ?_
  unfold get?
  rw [entries_ofList_of_ascending t.ascending]

theorem get?_insertAll :
    (t.insertAll written).get? code = (written.reverse.lookup code).or (t.get? code) := by
  unfold get?
  rw [entries_insertAll, lookup_foldl_putSorted]

/-! ## Merging -/

/-- A merged table describes a code by the table that was merged into it, if that has the code. -/
theorem get?_merge : (a.merge b).get? code = (b.get? code).or (a.get? code) := by
  unfold merge
  rw [get?_insertAll, b.ascending.namesOnce.lookup_reverse]
  rfl

theorem merge_assoc (a b c : CodeTable) : (a.merge b).merge c = a.merge (b.merge c) := by
  refine ext fun code => ?_
  rw [get?_merge, get?_merge, get?_merge, get?_merge, Option.or_assoc]

theorem merge_self (a : CodeTable) : a.merge a = a := by
  refine ext fun code => ?_
  rw [get?_merge, Option.or_self]

/-! ## Updates -/

/-- A change to a table. -/
inductive Update where
  /-- An entry is inserted. -/
  | insert (code description : String)
  /-- Another table is merged into the table. -/
  | merge (other : CodeTable)

/-- The entries that an update writes. -/
def Update.writes : Update → List (String × String)
  | insert code description => [(code, description)]
  | merge other => other.entries

/-- The table after an update. -/
def update (t : CodeTable) : Update → CodeTable
  | .insert code description => t.insert code description
  | .merge other => t.merge other

/-- The table after updates one after the other. -/
def updateAll (t : CodeTable) (updates : List Update) : CodeTable := updates.foldl update t

theorem update_eq (u : Update) : t.update u = t.insertAll u.writes := by
  cases u with
  | insert code description => rfl
  | merge other => rfl

theorem insertAll_append : t.insertAll (written ++ later) = (t.insertAll written).insertAll later :=
  List.foldl_append

theorem updateAll_eq (updates : List Update) :
    t.updateAll updates = t.insertAll (updates.flatMap Update.writes) := by
  induction updates generalizing t with
  | nil => rfl
  | cons u rest ih =>
    rw [List.flatMap_cons, insertAll_append, ← update_eq]
    exact ih

/-! ## What a list of writes leaves -/

/-- The last write for a code gives it the description. -/
def LastWrite (written : List (String × String)) (code description : String) : Prop :=
  ∃ before after, written = before ++ (code, description) :: after ∧ code ∉ after.map (·.1)

theorem lookup_reverse_eq_some_iff :
    written.reverse.lookup code = some description ↔ LastWrite written code description := by
  rw [List.lookup_eq_some_iff]
  constructor
  · rintro ⟨after, before, split, none⟩
    refine ⟨before.reverse, after.reverse, ?_, ?_⟩
    · rw [← List.reverse_reverse written, split]
      simp
    · rintro mem
      obtain ⟨e, he, same⟩ := List.mem_map.mp mem
      have ne := none e (List.mem_reverse.mp he)
      exact bne_iff_ne.mp ne same.symm
  · rintro ⟨before, after, rfl, none⟩
    refine ⟨after.reverse, before.reverse, by simp, ?_⟩
    intro e he
    refine bne_iff_ne.mpr fun same => none ?_
    exact List.mem_map.mpr ⟨e, List.mem_reverse.mp he, same.symm⟩

theorem get?_ofList_eq_some_iff :
    (ofList written).get? code = some description ↔ LastWrite written code description := by
  have start : empty.get? code = none := rfl
  unfold ofList
  rw [get?_insertAll, start, Option.or_none, lookup_reverse_eq_some_iff]

theorem mem_codes_ofList : code ∈ (ofList written).codes ↔ code ∈ written.map (·.1) := by
  unfold codes
  rw [entries_ofList, mem_names_sortBindings]

/-- There are as many entries as different codes were written. -/
theorem size_ofList : (ofList written).size = (written.map (·.1)).dedup.length := by
  have once : (ofList written).codes.Nodup := (ofList written).ascending.namesOnce
  have same (code : String) : code ∈ (ofList written).codes ↔ code ∈ (written.map (·.1)).dedup := by
    rw [mem_codes_ofList, List.mem_dedup]
  have perm := (List.perm_ext_iff_of_nodup once (List.nodup_dedup _)).mpr same
  calc (ofList written).size = (ofList written).codes.length := (List.length_map _).symm
    _ = (written.map (·.1)).dedup.length := perm.length_eq

/-- The codes of a table ascend by the code points of their characters. -/
theorem codes_ascend (t : CodeTable) :
    t.codes.Pairwise fun a b => a.toList.map Char.toNat < b.toList.map Char.toNat := by
  refine List.pairwise_map.mpr (t.ascending.imp fun below => ?_)
  have chars := String.lt_iff.mp below
  exact List.map_lt (fun x y lt => lt) chars

/-! ## Extending the built-in table -/

theorem extended_of_file {files : Files} {path : String} {extra : CodeTable}
    (h : ofFile files path = .ok extra) : extended files (some path) = .ok (standard.merge extra) := by
  show (ofFile files path).map standard.merge = _
  rw [h]
  rfl

theorem extended_of_fault {files : Files} {path : String} {fault : TableError}
    (h : ofFile files path = .error fault) : extended files (some path) = .error fault := by
  show (ofFile files path).map standard.merge = _
  rw [h]
  rfl

/-- A table is a finite map. It is made of a list of entries and updated any number of times. Its codes
ascend by code point and are those that were ever written; a code has the description that was written
for it last, where merging a table writes its entries, and a code that was never written has none; the
size is the number of different codes. Merging is associative, the table merged in comes first, and
merging a table with itself changes nothing. The built-in table extended by a file describes a code by
the file if that has it and else as before; if the file gives no table, neither does the extension. -/
theorem settled_by_writes (entries : List (String × String)) (updates : List Update) :
    let t := (ofList entries).updateAll updates
    let writes := entries ++ updates.flatMap Update.writes
    (t.codes.Pairwise fun a b => a.toList.map Char.toNat < b.toList.map Char.toNat) ∧
    (∀ code, code ∈ t.codes ↔ code ∈ writes.map (·.1)) ∧
    (∀ code description, t.get? code = some description ↔ LastWrite writes code description) ∧
    t.size = (writes.map (·.1)).dedup.length ∧
    (∀ a b c : CodeTable, (a.merge b).merge c = a.merge (b.merge c)) ∧
    (∀ (a b : CodeTable) code, (a.merge b).get? code = (b.get? code).or (a.get? code)) ∧
    (∀ a : CodeTable, a.merge a = a) ∧
    ∀ (files : Files) (path : String),
      (∀ extra, ofFile files path = .ok extra → ∃ table, extended files (some path) = .ok table ∧
        ∀ code, table.get? code = (extra.get? code).or (standard.get? code)) ∧
      ∀ fault, ofFile files path = .error fault → extended files (some path) = .error fault := by
  intro t writes
  have written : t = ofList writes := by
    show (ofList entries).updateAll updates = empty.insertAll (entries ++ _)
    rw [updateAll_eq, insertAll_append]
    rfl
  refine ⟨t.codes_ascend, ?_, ?_, ?_, merge_assoc, fun a b code => get?_merge, merge_self, ?_⟩
  · intro code
    rw [written]
    exact mem_codes_ofList
  · intro code description
    rw [written]
    exact get?_ofList_eq_some_iff
  · rw [written]
    exact size_ofList
  · intro files path
    refine ⟨fun extra h => ?_, fun fault h => extended_of_fault h⟩
    exact ⟨standard.merge extra, extended_of_file h, fun code => get?_merge⟩

/-- A file that describes one built-in code anew and another code besides, and a file that is not
there. -/
theorem settled_by_writes_and_file :
    let files : Files := fun path =>
      if path = "generic.json" then
        .ok (.text "\x7b\"P0301\": \"Misfire, cylinder 1\", \"P2096\": \"Post catalyst too lean\"\x7d")
      else .error .missing
    (∃ extra table, ofFile files "generic.json" = .ok extra ∧
        extended files (some "generic.json") = .ok table ∧
        table.get? "P0301" = some "Misfire, cylinder 1" ∧
        table.get? "P2096" = some "Post catalyst too lean" ∧
        table.get? "P0700" = some "Transmission Control System Malfunction") ∧
      ofFile files "absent.json" = .error (.unreadable "absent.json" .missing) ∧
      extended files (some "absent.json") = .error (.unreadable "absent.json" .missing) := by
  intro files
  have laws := (settled_by_writes [] []).2.2.2.2.2.2.2 files
  have absent : ofFile files "absent.json" = .error (.unreadable "absent.json" .missing) := rfl
  have misfire : (ofFile files "generic.json").toOption.bind (·.get? "P0301") =
      some "Misfire, cylinder 1" := by decide +kernel
  have catalyst : (ofFile files "generic.json").toOption.bind (·.get? "P2096") =
      some "Post catalyst too lean" := by decide +kernel
  have gearbox : (ofFile files "generic.json").toOption.map (·.get? "P0700") = some none := by
    decide +kernel
  refine ⟨?_, absent, (laws "absent.json").2 _ absent⟩
  cases loaded : ofFile files "generic.json" with
  | error fault =>
    rw [loaded] at misfire
    cases misfire
  | ok extra =>
    rw [loaded] at misfire catalyst gearbox
    have misfire : extra.get? "P0301" = some "Misfire, cylinder 1" := misfire
    have catalyst : extra.get? "P2096" = some "Post catalyst too lean" := catalyst
    have gearbox : extra.get? "P0700" = none := Option.some.inj gearbox
    obtain ⟨table, extends', described⟩ := (laws "generic.json").1 extra loaded
    refine ⟨extra, table, rfl, extends', ?_, ?_, ?_⟩
    · rw [described, misfire, Option.some_or]
    · rw [described, catalyst, Option.some_or]
    · rw [described, gearbox, Option.none_or]
      decide +kernel

end ScanTool.Trouble.CodeTable
