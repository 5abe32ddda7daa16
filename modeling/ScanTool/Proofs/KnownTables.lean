import Mathlib.Tactic.Push
import ScanTool.Brand.Tables
import ScanTool.Proofs.Bindings

/-!
# Tables are looked for once

The tables of a directory are asked for, tables are put in by hand, and the files are written and
deleted meanwhile. What is known of a key is settled by its first event, asking or putting in, and
then changed only by putting in again; so an answer is the table put in last, or else what the file
gave when the key was first asked for. Asking for one key does nothing to another.
-/

namespace ScanTool

open Trouble (CodeTable)

namespace BrandTables

/-- What is known of the table of a key. -/
def known? (t : BrandTables) (key : BrandKey) : Option CodeTable := t.known.lookup key

variable {t : BrandTables} {files : Files} {key k : BrandKey} {table : CodeTable} {brand : String}

/-! ## Asking and putting in -/

theorem table_of_known (h : t.known? key = some table) : t.table files key = (table, t) := by
  unfold known? at h
  simp [BrandTables.table, h]

theorem table_of_unknown (h : t.known? key = none) : t.table files key =
    (load files t.dir key, { t with known := (key, load files t.dir key) :: t.known }) := by
  unfold known? at h
  simp [BrandTables.table, h]

theorem known?_table : (t.table files key).2.known? key = some (t.table files key).1 := by
  cases h : t.known? key with
  | some table =>
    rw [table_of_known h]
    exact h
  | none =>
    rw [table_of_unknown h]
    simp [known?]

theorem known?_table_of_ne (ne : key ≠ k) : (t.table files key).2.known? k = t.known? k := by
  cases h : t.known? key with
  | some table => rw [table_of_known h]
  | none =>
    rw [table_of_unknown h]
    exact lookup_cons_of_ne ne.symm

/-- A table that is known stays, whatever is asked for. -/
theorem known?_table_of_known (h : t.known? k = some table) :
    (t.table files key).2.known? k = some table := by
  by_cases same : key = k
  · subst same
    rw [known?_table, table_of_known h]
  · rw [known?_table_of_ne same]
    exact h

theorem dir_table : (t.table files key).2.dir = t.dir := by
  cases h : t.known? key with
  | some table => rw [table_of_known h]
  | none => rw [table_of_unknown h]

theorem table_again (later : Files) :
    ((t.table files key).2.table later key).1 = (t.table files key).1 := by
  rw [table_of_known known?_table]

theorem table_after_other (later : Files) (ne : key ≠ k) :
    ((t.table files key).2.table later k).1 = (t.table later k).1 := by
  have same : (t.table files key).2.known? k = t.known? k := known?_table_of_ne ne
  cases h : t.known? k with
  | some table => rw [table_of_known h, table_of_known (same.trans h)]
  | none => rw [table_of_unknown h, table_of_unknown (same.trans h), dir_table]

theorem known?_insert : (t.insert brand table).known? (.ofName brand) = some table := by
  simp [insert, known?]

theorem known?_insert_of_ne (ne : BrandKey.ofName brand ≠ k) :
    (t.insert brand table).known? k = t.known? k :=
  lookup_cons_of_ne ne.symm

/-! ## What a file gives -/

/-- The table that the file of a key gives: the table in it if it can be read and holds an object,
and otherwise none. There is no file for the empty key. -/
inductive Gives (files : Files) (dir : String) (key : BrandKey) : CodeTable → Prop
  | parsed {text : String} {v : Json} {table : CodeTable} (named : key.isEmpty = false)
    (read : files.read (Files.join dir key.fileName) = .ok text) (json : Json.read? text = some v)
    (object : CodeTable.ofJson? v.canonical = some table) : Gives files dir key table
  | nameless (empty : key.isEmpty = true) : Gives files dir key .empty
  | unreadable {fault : FileFault}
    (read : files.read (Files.join dir key.fileName) = .error fault) : Gives files dir key .empty
  | malformed {text : String} (read : files.read (Files.join dir key.fileName) = .ok text)
    (json : Json.read? text = none) : Gives files dir key .empty
  | notAnObject {text : String} {v : Json}
    (read : files.read (Files.join dir key.fileName) = .ok text) (json : Json.read? text = some v)
    (other : ∀ members, v.canonical ≠ .object members) : Gives files dir key .empty

theorem ofJson?_eq_none_iff {v : Json} :
    CodeTable.ofJson? v = none ↔ ∀ members, v ≠ .object members := by
  cases v <;> simp [CodeTable.ofJson?]

theorem gives_load (files : Files) (dir : String) (key : BrandKey) :
    Gives files dir key (load files dir key) := by
  unfold load CodeTable.ofFile
  cases empty : key.isEmpty with
  | true => exact .nameless empty
  | false =>
    cases read : files.read (Files.join dir key.fileName) with
    | error fault => exact .unreadable read
    | ok text =>
      cases json : Json.read? text with
      | none =>
        simp only [json]
        exact .malformed read json
      | some v =>
        cases object : CodeTable.ofJson? v.canonical with
        | none =>
          simp only [json, object]
          exact .notAnObject read json (ofJson?_eq_none_iff.mp object)
        | some table =>
          simp only [json, object]
          exact .parsed empty read json object

end BrandTables

/-! ## Histories -/

/-- Tables together with the files as they are. -/
structure Shelf where
  /-- The files. -/
  files : Files
  /-- The tables. -/
  tables : BrandTables

namespace Shelf

/-- Something that happens to tables and files. -/
inductive Event where
  /-- The table of a key is asked for. -/
  | ask (key : BrandKey)
  /-- A table is put in for a brand. -/
  | insert (brand : String) (table : CodeTable)
  /-- Files are written or deleted; these are there from now on. -/
  | change (files : Files)

/-- The shelf after an event. -/
def meet (s : Shelf) : Event → Shelf
  | .ask key => { s with tables := (s.tables.table s.files key).2 }
  | .insert brand table => { s with tables := s.tables.insert brand table }
  | .change files => { s with files := files }

/-- The shelf after events one after the other. -/
def after (s : Shelf) (events : List Event) : Shelf := events.foldl meet s

/-- The table that is given when a key is asked for. -/
def answer (s : Shelf) (key : BrandKey) : CodeTable := (s.tables.table s.files key).1

/-- No table is put in for a key. -/
def NoInsert (key : BrandKey) (events : List Event) : Prop :=
  ∀ brand table, .insert brand table ∈ events → BrandKey.ofName brand ≠ key

/-- The last table put in for a key is `table`. -/
def LastInsert (key : BrandKey) (events : List Event) (table : CodeTable) : Prop :=
  ∃ before brand after, events = before ++ .insert brand table :: after ∧
    BrandKey.ofName brand = key ∧ NoInsert key after

/-- The key is first asked for after the events `before`. -/
def FirstAsk (key : BrandKey) (events before : List Event) : Prop :=
  .ask key ∉ before ∧ ∃ after, events = before ++ .ask key :: after

variable {s s' : Shelf} {key k other : BrandKey} {brand : String} {table : CodeTable}
  {event : Event} {events before : List Event}

/-! ## What is known after events -/

theorem dir_meet : (s.meet event).tables.dir = s.tables.dir := by
  cases event with
  | ask key => exact BrandTables.dir_table
  | insert brand table => rfl
  | change files => rfl

theorem dir_after : (s.after events).tables.dir = s.tables.dir := by
  induction events generalizing s with
  | nil => rfl
  | cons event rest ih => exact (ih (s := s.meet event)).trans dir_meet

theorem known?_meet_ask : (s.meet (.ask key)).tables.known? k =
    if key = k then some (s.answer k) else s.tables.known? k := by
  by_cases own : key = k
  · subst own
    rw [if_pos rfl]
    exact BrandTables.known?_table
  · rw [if_neg own]
    exact BrandTables.known?_table_of_ne own

theorem known?_meet_insert : (s.meet (.insert brand table)).tables.known? k =
    if BrandKey.ofName brand = k then some table else s.tables.known? k := by
  by_cases own : BrandKey.ofName brand = k
  · subst own
    rw [if_pos rfl]
    exact BrandTables.known?_insert
  · rw [if_neg own]
    exact BrandTables.known?_insert_of_ne own

theorem answer_of_known (h : s.tables.known? k = some table) : s.answer k = table := by
  unfold answer
  rw [BrandTables.table_of_known h]

theorem answer_of_unknown (h : s.tables.known? k = none) :
    s.answer k = BrandTables.load s.files s.tables.dir k := by
  unfold answer
  rw [BrandTables.table_of_unknown h]

theorem noInsert_append {first rest : List Event} :
    NoInsert k (first ++ rest) ↔ NoInsert k first ∧ NoInsert k rest := by
  unfold NoInsert
  constructor
  · intro no
    exact ⟨fun brand table mem => no brand table (List.mem_append_left rest mem),
      fun brand table mem => no brand table (List.mem_append_right first mem)⟩
  · rintro ⟨no, no'⟩ brand table mem
    exact (List.mem_append.mp mem).elim (no brand table) (no' brand table)

theorem noInsert_cons : NoInsert k (event :: events) ↔
    (∀ brand table, event = .insert brand table → BrandKey.ofName brand ≠ k) ∧
      NoInsert k events := by
  unfold NoInsert
  constructor
  · intro no
    exact ⟨fun brand table same => no brand table (same ▸ List.mem_cons_self),
      fun brand table mem => no brand table (List.mem_cons_of_mem event mem)⟩
  · rintro ⟨no, no'⟩ brand table mem
    exact (List.mem_cons.mp mem).elim (fun same => no brand table same.symm) (no' brand table)

theorem after_append (first rest : List Event) :
    s.after (first ++ rest) = (s.after first).after rest :=
  List.foldl_append

/-- What is known of a key stays while no table is put in for it. -/
theorem known?_after_of_some (h : s.tables.known? k = some table) (no : NoInsert k events) :
    (s.after events).tables.known? k = some table := by
  induction events generalizing s with
  | nil => exact h
  | cons event rest ih =>
    obtain ⟨noNow, noLater⟩ := noInsert_cons.mp no
    refine ih (s := s.meet event) ?_ noLater
    cases event with
    | ask key =>
      rw [known?_meet_ask, answer_of_known h, h, ite_self]
    | insert brand other =>
      rw [known?_meet_insert, if_neg (noNow brand other rfl), h]
    | change files => exact h

/-- Nothing is known of a key until it is asked for or a table is put in for it. -/
theorem known?_after_of_none (h : s.tables.known? k = none) (unasked : .ask k ∉ events)
    (no : NoInsert k events) : (s.after events).tables.known? k = none := by
  induction events generalizing s with
  | nil => exact h
  | cons event rest ih =>
    obtain ⟨noNow, noLater⟩ := noInsert_cons.mp no
    obtain ⟨notNow, notLater⟩ := not_or.mp (List.mem_cons.not.mp unasked)
    refine ih (s := s.meet event) ?_ notLater noLater
    cases event with
    | ask key =>
      have ne : key ≠ k := fun same => notNow (congrArg Event.ask same.symm)
      rw [known?_meet_ask, if_neg ne, h]
    | insert brand other =>
      rw [known?_meet_insert, if_neg (noNow brand other rfl), h]
    | change files => exact h

/-! ## What is answered -/

theorem answer_of_lastInsert (last : LastInsert k events table) :
    (s.after events).answer k = table := by
  obtain ⟨before, brand, rest, rfl, rfl, no⟩ := last
  have put : ((s.after before).meet (.insert brand table)).tables.known? (.ofName brand) =
      some table := BrandTables.known?_insert
  have kept := known?_after_of_some put no
  rw [after_append]
  exact answer_of_known kept

/-- A key without a table of its own has the one that its file gave when it was first asked for. -/
theorem answer_of_firstAsk (h : s.tables.known? k = none) (no : NoInsert k events)
    (first : FirstAsk k (events ++ [.ask k]) before) :
    (s.after events).answer k =
      BrandTables.load (s.after before).files s.tables.dir k := by
  obtain ⟨unasked, rest, split⟩ := first
  have noneLast : NoInsert k [.ask k] := by simp [NoInsert]
  have all : NoInsert k (before ++ .ask k :: rest) := split ▸ noInsert_append.mpr ⟨no, noneLast⟩
  obtain ⟨noBefore, noRest⟩ := noInsert_append.mp all
  -- the answer is known once it is given, and so it is what became known after `before`
  have given : (s.after (events ++ [.ask k])).tables.known? k = some ((s.after events).answer k) := by
    rw [after_append]
    exact BrandTables.known?_table
  have asked : (s.after (before ++ .ask k :: rest)).tables.known? k =
      some ((s.after before).answer k) := by
    have known : ((s.after before).meet (.ask k)).tables.known? k = some ((s.after before).answer k) :=
      BrandTables.known?_table
    have kept := known?_after_of_some known (noInsert_cons.mp noRest).2
    rw [after_append]
    exact kept
  have unknown : (s.after before).tables.known? k = none := known?_after_of_none h unasked noBefore
  calc (s.after events).answer k = (s.after before).answer k :=
        Option.some.inj (given.symm.trans (split ▸ asked))
    _ = BrandTables.load (s.after before).files (s.after before).tables.dir k :=
        answer_of_unknown unknown
    _ = BrandTables.load (s.after before).files s.tables.dir k := by rw [dir_after]

theorem exists_lastInsert (h : ¬ NoInsert k events) : ∃ table, LastInsert k events table := by
  induction events with
  | nil => exact absurd (fun brand table mem => by cases mem) h
  | cons event rest ih =>
    by_cases later : NoInsert k rest
    · unfold NoInsert at h
      push Not at h
      obtain ⟨brand, table, mem, own⟩ := h
      have now : .insert brand table = event :=
        (List.mem_cons.mp mem).resolve_right fun mem => later brand table mem own
      exact ⟨table, [], brand, rest, by rw [now]; rfl, own, later⟩
    · obtain ⟨table, before, brand, after, rfl, own, none⟩ := ih later
      exact ⟨table, event :: before, brand, after, rfl, own, none⟩

/-- Two shelves on which a key has the same table, now and later. -/
structure SameFor (k : BrandKey) (s s' : Shelf) : Prop where
  files : s.files = s'.files
  dir : s.tables.dir = s'.tables.dir
  known : s.tables.known? k = s'.tables.known? k

theorem SameFor.answer (same : SameFor k s s') : s.answer k = s'.answer k := by
  cases h : s.tables.known? k with
  | some table => rw [answer_of_known h, answer_of_known (same.known.symm.trans h)]
  | none =>
    rw [answer_of_unknown h, answer_of_unknown (same.known.symm.trans h), same.files, same.dir]

theorem SameFor.meet (same : SameFor k s s') (event : Event) :
    SameFor k (s.meet event) (s'.meet event) := by
  have dir : (s.meet event).tables.dir = (s'.meet event).tables.dir :=
    (dir_meet.trans same.dir).trans dir_meet.symm
  cases event with
  | ask key =>
    refine ⟨same.files, dir, ?_⟩
    rw [known?_meet_ask, known?_meet_ask, same.answer, same.known]
  | insert brand table =>
    refine ⟨same.files, dir, ?_⟩
    rw [known?_meet_insert, known?_meet_insert, same.known]
  | change files => exact ⟨rfl, dir, same.known⟩

theorem SameFor.after (same : SameFor k s s') (events : List Event) :
    SameFor k (s.after events) (s'.after events) := by
  induction events generalizing s s' with
  | nil => exact same
  | cons event rest ih => exact ih (same.meet event)

theorem sameFor_ask (ne : other ≠ k) : SameFor k s (s.meet (.ask other)) where
  files := rfl
  dir := dir_meet.symm
  known := (BrandTables.known?_table_of_ne ne).symm

/-- The answer for a key after any history of the tables of a directory that starts with none known.
It is the table that was last put in for the key, if one was; otherwise it is what the file of the key
gave when the key was first asked for, which may be now. Leaving out a question for another key
changes no answer. -/
theorem answer_settled (dir : String) (files : Files) (events : List Event) (key : BrandKey) :
    let start : Shelf := ⟨files, .ofDir dir⟩
    let answer := (start.after events).answer key
    (LastInsert key events answer ∨
      NoInsert key events ∧ ∃ before, FirstAsk key (events ++ [.ask key]) before ∧
        BrandTables.Gives (start.after before).files dir key answer) ∧
    ∀ before rest other, other ≠ key → events = before ++ .ask other :: rest →
      (start.after (before ++ rest)).answer key = answer := by
  intro start answer
  refine ⟨?_, ?_⟩
  · by_cases no : NoInsert key events
    · obtain ⟨before, rest, split, unasked⟩ :=
        List.eq_append_cons_of_mem (List.mem_append_right events (List.mem_singleton_self (.ask key)))
      have first : FirstAsk key (events ++ [.ask key]) before := ⟨unasked, rest, split⟩
      have loaded : answer = BrandTables.load (start.after before).files dir key :=
        answer_of_firstAsk rfl no first
      refine Or.inr ⟨no, before, first, ?_⟩
      rw [loaded]
      exact BrandTables.gives_load _ dir key
    · obtain ⟨table, last⟩ := exists_lastInsert no
      have put : answer = table := answer_of_lastInsert last
      exact Or.inl (put ▸ last)
  · rintro before rest other ne rfl
    have same : SameFor key (start.after before) ((start.after before).meet (.ask other)) :=
      sameFor_ask ne
    have result := (same.after rest).answer
    rw [after_append]
    show _ = (start.after (before ++ .ask other :: rest)).answer key
    rw [after_append]
    exact result

/-- The file of a brand is deleted after it was read: the brand keeps its table, and the question for
another brand before does not matter. -/
theorem answer_settled_without_file :
    let present : Files := fun path =>
      if path = "tables/bmw.json" then .ok (.text "\x7b\"P1188\": 42\x7d") else .error .missing
    let gone : Files := fun _ => .error .missing
    let bmw := BrandKey.ofName "BMW"
    let audi := BrandKey.ofName "Audi"
    let start : Shelf := ⟨present, .ofDir "tables"⟩
    let later : List Event := [.ask bmw, .change gone, .insert "Audi" .empty]
    audi ≠ bmw ∧ (start.after later).answer bmw = (start.after (.ask audi :: later)).answer bmw ∧
      ((start.after later).answer bmw).get? "P1188" = some "42" := by
  intro present gone bmw audi start later
  have ne : audi ≠ bmw := by decide +kernel
  have same := (answer_settled "tables" present (.ask audi :: later) bmw).2 [] later audi ne rfl
  refine ⟨ne, same, ?_⟩
  decide +kernel +zetaReduce

end Shelf

end ScanTool
