import ScanTool.Proofs.JsonReadBack
import ScanTool.Proofs.KnownTables
import ScanTool.Proofs.TableUpdates

/-!
# Tables written to files

A table is written as a JSON object of strings, and read from such an object or from one that stands
under the name `codes`. The two layouts are told apart by what stands under that name, so that a table
is read back also if it has a code of that name, and an object means the same in both layouts whatever
its values are.
-/

namespace ScanTool.Trouble.CodeTable

open Json (Textual Writes)

variable {members codes : List (String × Json)} {v : Json} {text : String}

/-! ## The two layouts -/

/-- Where no object stands under `codes`, all members are entries, in their order. -/
theorem membersOf_flat (ascending : Ascending members)
    (flat : ∀ codes, members.lookup "codes" ≠ some (.object codes)) : membersOf members = members := by
  cases found : members.lookup "codes" with
  | none =>
    unfold membersOf
    rw [found]
    exact removeBinding_of_unbound found
  | some v =>
    have back : membersOf members = putSorted "codes" v (removeBinding "codes" members) := by
      unfold membersOf
      rw [found]
      cases v with
      | object codes => exact absurd found (flat codes)
      | _ => rfl
    rw [back]
    exact putSorted_removeBinding ascending found

theorem membersOf_nested (nested : members.lookup "codes" = some (.object codes)) :
    membersOf members = codes := by
  unfold membersOf
  rw [nested]

theorem ofJson?_flat (ascending : Ascending members)
    (flat : ∀ codes, members.lookup "codes" ≠ some (.object codes)) :
    ofJson? (.object members) = some (ofList (members.map fun m => (m.1, descriptionOf m.2))) := by
  show some (ofList ((membersOf members).map _)) = _
  rw [membersOf_flat ascending flat]

theorem ofJson?_nested (nested : members.lookup "codes" = some (.object codes)) :
    ofJson? (.object members) = some (ofList (codes.map fun m => (m.1, descriptionOf m.2))) := by
  show some (ofList ((membersOf members).map _)) = _
  rw [membersOf_nested nested]

/-- The table of an ascending list of members describes each code as its value says. -/
theorem get?_ofList_members (ascending : Ascending members) (code : String) :
    (ofList (members.map fun m => (m.1, descriptionOf m.2))).get? code =
      (members.lookup code).map descriptionOf := by
  unfold get?
  rw [entries_ofList_of_ascending (ascending.map_values descriptionOf), lookup_map_values]

theorem codes_ofList_members (ascending : Ascending members) :
    (ofList (members.map fun m => (m.1, descriptionOf m.2))).codes = members.map (·.1) := by
  unfold CodeTable.codes
  rw [entries_ofList_of_ascending (ascending.map_values descriptionOf), List.map_map]
  rfl

theorem descriptionOf_of_ne_text (h : ∀ s, v ≠ .text s) : descriptionOf v = v.compact := by
  cases v with
  | text s => exact absurd rfl (h s)
  | _ => rfl

/-- The flat and the nested layout mean the same. The members of an object that is read ascend. If what
stands under `codes`, if anything, is no object, then an object and any object that is extended by the
first under `codes` give the same table: its codes are the names of the first object, and they are
described by the strings there and by the JSON texts of all other values. No table is given exactly by
what is no object. -/
theorem layouts_agree :
    (∀ members others : List (String × Json), Ascending members →
      (∀ codes, members.lookup "codes" ≠ some (.object codes)) →
      ∃ table, ofJson? (.object members) = some table ∧
        ofJson? (.object (putSorted "codes" (.object members) others)) = some table ∧
        table.codes = members.map (·.1) ∧
        (∀ code s, (code, .text s) ∈ members → table.get? code = some s) ∧
        ∀ code v, (code, v) ∈ members → (∀ s, v ≠ .text s) → table.get? code = some v.compact) ∧
    ∀ v, ofJson? v = none ↔ ∀ members, v ≠ .object members := by
  refine ⟨?_, fun v => BrandTables.ofJson?_eq_none_iff⟩
  intro members others ascending flat
  have extended : (putSorted "codes" (.object members) others).lookup "codes" =
      some (.object members) := by
    rw [lookup_putSorted, if_pos rfl]
  have described (code : String) (v : Json) (mem : (code, v) ∈ members) :
      (ofList (members.map fun m => (m.1, descriptionOf m.2))).get? code = some (descriptionOf v) := by
    rw [get?_ofList_members ascending, ascending.namesOnce.lookup_eq_some_iff.mpr mem]
    rfl
  refine ⟨_, ofJson?_flat ascending flat, ofJson?_nested extended, codes_ofList_members ascending,
    ?_, ?_⟩
  · intro code s mem
    exact described code (.text s) mem
  · intro code v mem other
    rw [described code v mem, descriptionOf_of_ne_text other]

/-- A flat object with a code named `codes`, by itself and beside a note. -/
theorem layouts_agree_on_code_named_codes :
    let members : List (String × Json) := [("P1188", .int 42), ("codes", .text "all of them")]
    Ascending members ∧ (∀ codes, members.lookup "codes" ≠ some (.object codes)) ∧
      ∃ table, ofJson? (.object members) = some table ∧
        ofJson? (.object [("codes", .object members), ("note", .null)]) = some table ∧
        table.codes = ["P1188", "codes"] ∧ table.get? "codes" = some "all of them" ∧
        table.get? "P1188" = some "42" := by
  intro members
  have ascending : Ascending members := by
    unfold Ascending
    decide +kernel
  have flat : ∀ codes, members.lookup "codes" ≠ some (.object codes) := by
    intro codes h
    cases Option.some.inj h
  obtain ⟨table, alone, beside, names, texts, values⟩ := layouts_agree.1 members
    [("note", .null)] ascending flat
  have order : putSorted "codes" (Json.object members) [("note", Json.null)] =
      [("codes", Json.object members), ("note", Json.null)] := by
    have before : "codes" < "note" := by decide +kernel
    exact if_pos before
  have number : (Json.int 42).compact = "42" := by decide +kernel
  refine ⟨ascending, flat, table, alone, order ▸ beside, names, texts _ _ (by simp [members]), ?_⟩
  rw [← number]
  exact values _ _ List.mem_cons_self (fun s => nofun)

/-! ## Written tables -/

theorem textual_toJson (t : CodeTable) (depth : Nat) : Textual (depth + 1) t.toJson := by
  refine .object fun m mem => ?_
  obtain ⟨e, -, rfl⟩ := List.mem_map.mp mem
  exact .text depth e.2

theorem lookup_toJson_ne_object (t : CodeTable) (codes : List (String × Json)) :
    (t.entries.map fun e => (e.1, Json.text e.2)).lookup "codes" ≠ some (.object codes) := by
  rw [lookup_map_values]
  cases t.entries.lookup "codes" with
  | none => nofun
  | some description => nofun

theorem canonicalMembers_texts (entries : List (String × String)) :
    Json.canonicalMembers (entries.map fun e => (e.1, .text e.2)) =
      entries.map fun e => (e.1, .text e.2) := by
  induction entries with
  | nil => rfl
  | cons e rest ih =>
    have text : (Json.text e.2).canonical = .text e.2 := by simp [Json.canonical]
    rw [List.map_cons, Json.canonicalMembers, ih, text]

theorem canonical_toJson (t : CodeTable) : t.toJson.canonical = t.toJson := by
  unfold toJson
  rw [Json.canonical, canonicalMembers_texts,
    sortBindings_of_ascending (t.ascending.map_values Json.text)]

theorem map_descriptionOf_texts (entries : List (String × String)) :
    (entries.map fun e => (e.1, Json.text e.2)).map (fun m => (m.1, descriptionOf m.2)) = entries := by
  rw [List.map_map]
  exact List.map_id entries

theorem ofJson?_toJson (t : CodeTable) : ofJson? t.toJson = some t := by
  unfold toJson
  rw [ofJson?_flat (t.ascending.map_values Json.text) (lookup_toJson_ne_object t),
    map_descriptionOf_texts, ofList_entries]

/-- The object that holds a table under `codes`. -/
def nested (t : CodeTable) : Json := .object [("codes", t.toJson)]

theorem textual_nested (t : CodeTable) (depth : Nat) : Textual (depth + 2) t.nested := by
  refine .object fun m mem => ?_
  obtain rfl := List.mem_singleton.mp mem
  exact textual_toJson t depth

theorem canonical_nested (t : CodeTable) : t.nested.canonical = t.nested := by
  unfold nested
  rw [Json.canonical, Json.canonicalMembers, Json.canonicalMembers, canonical_toJson]
  rfl

theorem ofJson?_nested_toJson (t : CodeTable) : ofJson? t.nested = some t := by
  unfold nested toJson
  rw [ofJson?_nested rfl, map_descriptionOf_texts, ofList_entries]

/-- The text of an object that holds what a text writes under `codes`. -/
def nestedText (text : String) : String := "\x7b\"codes\": " ++ text ++ "\x7d"

theorem writes_nestedText (h : Writes text.toList v) :
    Writes (nestedText text).toList (.object [("codes", v)]) := by
  have chars : (nestedText text).toList =
      '\x7b' :: (Json.writeText "codes" ++ ':' :: ' ' :: text.toList) ++ ['\x7d'] := by
    unfold nestedText
    rw [String.toList_append, String.toList_append]
    rfl
  have bound : Json.Lexes .between (Json.writeText "codes" ++ ':' :: ' ' :: text.toList)
      (.scalar (.text "codes") :: .colon :: Json.tokensOf v) .between :=
    (Json.lexes_writeText "codes").append (.mark rfl (.within rfl h))
  have tokens : Json.tokensOf (.object [("codes", v)]) =
      .openObject :: (.scalar (.text "codes") :: .colon :: Json.tokensOf v) ++ [.closeObject] := by
    simp [Json.tokensOf, Json.memberTokens, Json.separator]
  unfold Writes
  rw [chars, tokens]
  exact .enclosed rfl bound rfl

theorem entriesOf?_texts (entries : List (String × String)) :
    entriesOf? (entries.map fun e => (e.1, .text e.2)) = some entries := by
  induction entries with
  | nil => rfl
  | cons e rest ih =>
    rw [List.map_cons, entriesOf?, ih]
    rfl

/-- A file with the text of a JSON value in canonical form gives the table of the value. -/
theorem ofFile_of_read {files : Files} {path : String} {t : CodeTable}
    (file : files.read path = .ok text) (read : Json.read? text = some v)
    (canonical : v.canonical = v) (table : ofJson? v = some t) : ofFile files path = .ok t := by
  unfold ofFile
  simp only [file, read, canonical, table]

/-- A table is read back from its JSON text, in one line or over several, whatever its codes and
descriptions are: from a file with the text, from a file with an object that holds the text under
`codes`, and from the text as a map of strings. -/
theorem written_table_read_back (t : CodeTable) (text : String)
    (written : text = t.toJson.compact ∨ text = t.toJson.pretty) :
    (∀ (files : Files) (path : String), files.read path = .ok text → ofFile files path = .ok t) ∧
    (∀ (files : Files) (path : String), files.read path = .ok (nestedText text) →
      ofFile files path = .ok t) ∧
    ofText? text = some t := by
  have writes : Writes text.toList t.toJson := by
    rcases written with rfl | rfl
    · exact Json.writes_compact (textual_toJson t 0)
    · exact Json.writes_pretty (textual_toJson t 0)
  have read : Json.read? text = some t.toJson := (textual_toJson t 126).read? writes
  have readNested : Json.read? (nestedText text) = some t.nested :=
    (textual_nested t 125).read? (writes_nestedText writes)
  refine ⟨fun files path file => ?_, fun files path file => ?_, ?_⟩
  · exact ofFile_of_read file read (canonical_toJson t) (ofJson?_toJson t)
  · exact ofFile_of_read file readNested (canonical_nested t) (ofJson?_nested_toJson t)
  · unfold ofText?
    rw [read]
    show (entriesOf? (t.entries.map fun e => (e.1, Json.text e.2))).map ofList = some t
    rw [entriesOf?_texts, Option.map_some, ofList_entries]

/-- A table with a code named `codes`, quotes, a control character and a character outside the basic
plane. -/
theorem written_table_read_back_with_code_named_codes :
    let t := ofList [("codes", "say \"all\"\n"), ("P\x01", "😀\\")]
    let text := "\x7b\"P\\u0001\":\"😀\\\\\",\"codes\":\"say \\\"all\\\"\\n\"\x7d"
    let files : Files := fun path => .ok (.text (if path = "flat.json" then text else nestedText text))
    text = t.toJson.compact ∧ files.read "flat.json" = .ok text ∧ ofFile files "flat.json" = .ok t ∧
      files.read "nested.json" = .ok (nestedText text) ∧ ofFile files "nested.json" = .ok t ∧
      ofText? text = some t := by
  intro t text files
  have written : text = t.toJson.compact := by decide +kernel
  have laws := written_table_read_back t text (Or.inl written)
  exact ⟨written, rfl, laws.1 files "flat.json" rfl, rfl, laws.2.1 files "nested.json" rfl, laws.2.2⟩

end ScanTool.Trouble.CodeTable
