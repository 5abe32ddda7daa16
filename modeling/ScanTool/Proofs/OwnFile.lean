import ScanTool.Brand.Resolver
import ScanTool.Files.Tree
import ScanTool.Proofs.KeyNormalForm
import ScanTool.Proofs.TextCutting

/-!
# A brand reads its own file

The name of a brand is free text and becomes part of a path. It cannot lead anywhere: no character of
a key separates the parts of a path or is a dot, so the path of a brand is the path of the table
directory and one name more. The table of a brand, and with it every reading of the brand, depends on
what stands under this one path.
-/

namespace ScanTool

open ScanTool.Text
open Trouble (CodeTable)

/-! ## Paths -/

namespace Tree

theorem components_slash (a b : List Char) : components (String.ofList (a ++ '/' :: b)) =
    components (String.ofList a) ++ components (String.ofList b) := by
  unfold components
  rw [String.toList_ofList, String.toList_ofList, String.toList_ofList,
    splitWhen_append (by decide), List.map_append, List.filter_append]

/-- A name without separators is a path of one component. -/
theorem components_name {name : String} (slash : '/' ∉ name.toList) (ne : name ≠ "")
    (dot : name ≠ ".") : components name = [name] := by
  have whole : splitWhen (· == '/') name.toList = [name.toList] := by
    refine splitWhen_of_forall_not ?_
    intro c mem
    refine beq_eq_false_iff_ne.mpr ?_
    rintro rfl
    exact slash mem
  unfold components
  rw [whole]
  simp [ne, dot]

/-- A name is joined to a directory by one separator, which the directory may end in already. -/
theorem join_cases (dir name : String) :
    (dir = "" ∧ Files.join dir name = name) ∨
      ∃ front, Files.join dir name = String.ofList (front ++ '/' :: name.toList) ∧
        (dir = String.ofList (front ++ ['/']) ∨ dir = String.ofList front ∧ front ≠ []) := by
  unfold Files.join
  split
  · rename_i empty
    exact Or.inl ⟨String.isEmpty_iff.mp empty, rfl⟩
  · rename_i nonempty
    refine Or.inr ?_
    split
    · rename_i closed
      obtain ⟨front, hfront⟩ := List.getLast?_eq_some_iff.mp closed
      refine ⟨front, String.ext ?_, Or.inl ?_⟩
      · rw [String.toList_append, String.toList_ofList, hfront]
        simp
      · rw [← hfront, String.ofList_toList]
    · refine ⟨dir.toList, String.ext ?_, Or.inr ⟨String.ofList_toList.symm, ?_⟩⟩
      · rw [String.toList_append, String.toList_append, String.toList_ofList]
        simp
      · intro nil
        rw [String.toList_eq_nil_iff.mp nil] at nonempty
        exact nonempty rfl

/-- The path of a name in a directory is the path of the directory and the name. -/
theorem components_join (dir : String) {name : String} (slash : '/' ∉ name.toList) (ne : name ≠ "")
    (dot : name ≠ ".") : components (Files.join dir name) = components dir ++ [name] := by
  have single : components (String.ofList name.toList) = [name] := by
    rw [String.ofList_toList]
    exact components_name slash ne dot
  have nothing : components (String.ofList []) = [] := rfl
  rcases join_cases dir name with ⟨rfl, join⟩ | ⟨front, join, rfl | ⟨rfl, -⟩⟩
  · rw [join, components_name slash ne dot]
    rfl
  · rw [join, components_slash, components_slash, single, nothing, List.append_nil]
  · rw [join, components_slash, single]

/-- A name in a directory is walked to from where the directory is. -/
theorem start_join (dir : String) {name : String} (slash : '/' ∉ name.toList) :
    start (Files.join dir name) = start dir := by
  have inner : start name = [] := by
    refine if_neg fun first => slash ?_
    exact List.mem_of_mem_head? first
  have first {a b : List Char} (same : a.head? = b.head?) :
      start (String.ofList a) = start (String.ofList b) := by
    unfold start
    rw [String.toList_ofList, String.toList_ofList, same]
  rcases join_cases dir name with ⟨rfl, join⟩ | ⟨front, join, rfl | ⟨rfl, ne⟩⟩
  · rw [join, inner]
    rfl
  · rw [join]
    refine first ?_
    cases front <;> rfl
  · rw [join]
    refine first ?_
    cases front with
    | nil => exact absurd rfl ne
    | cons c front => rfl

theorem walk_append (t : Tree) (place : List String) (cs ds : List String) :
    t.walk place (cs ++ ds) = (t.walk place cs).bind fun p => t.walk p ds := by
  induction cs generalizing place with
  | nil => rfl
  | cons c cs ih =>
    simp only [List.cons_append, walk]
    split
    · split
      · exact ih _
      · split
        · rfl
        · split
          · exact ih _
          · rfl
    · rfl
    · rfl

/-- Where a path leads to is where its components lead to. -/
theorem walk_of_resolve {t : Tree} {path : String} {place : List String}
    (h : t.resolve path = .ok place) : t.walk (start path) (components path) = .ok place := by
  unfold resolve at h
  split at h
  · cases h
  · split at h
    · cases h
    · split at h
      · cases h
      · cases walked : t.walk (start path) (components path) with
        | error fault =>
          rw [walked] at h
          cases h
        | ok place' =>
          rw [walked] at h
          simp only at h
          split at h
          · cases h
          · exact h

/-- What a name in a directory leads to is the entry of that name in the directory. -/
theorem resolve_join {t : Tree} {dir name : String} {place : List String}
    (slash : '/' ∉ name.toList) (ne : name ≠ "") (dot : name ≠ ".") (up : name ≠ "..")
    (h : t.resolve (Files.join dir name) = .ok place) :
    ∃ parent, t.walk (start dir) (components dir) = .ok parent ∧
      t.at? parent = some .directory ∧ place = parent ++ [name] := by
  have walked := walk_of_resolve h
  rw [components_join dir slash ne dot, start_join dir slash, walk_append] at walked
  cases hdir : t.walk (start dir) (components dir) with
  | error fault =>
    rw [hdir] at walked
    cases walked
  | ok parent =>
    rw [hdir] at walked
    have last : t.walk parent [name] = .ok place := walked
    refine ⟨parent, rfl, ?_⟩
    simp only [walk, if_neg up] at last
    split at last
    · rename_i directory
      split at last
      · cases last
      · split at last
        · exact ⟨directory, (Except.ok.inj last).symm⟩
        · cases last
    · cases last
    · cases last

end Tree

/-! ## The file of a key -/

namespace BrandKey

/-- The characters that have a meaning in paths. -/
def pathCharacters : List Char := ['/', '\\', '.', '\x00']

theorem not_mem_pathCharacters {brand : String} {c : Char} (mem : c ∈ (ofName brand).text.toList) :
    c ∉ pathCharacters := by
  have plain : (pathCharacters.all fun d => !isAlphanumeric d && d != '\u0307') = true := by
    decide +kernel
  intro special
  have other := List.all_eq_true.mp plain c special
  rcases mem_text_ofName mem with letter | dot
  · simp [letter] at other
  · simp [dot] at other

theorem slash_not_mem_fileName (brand : String) : '/' ∉ (ofName brand).fileName.toList := by
  unfold fileName
  rw [String.toList_append, List.mem_append]
  rintro (mem | mem)
  · exact not_mem_pathCharacters mem (by decide)
  · exact absurd mem (by decide)

theorem fileName_ne_of_short (k : BrandKey) {name : String} (short : name.length < 5) :
    k.fileName ≠ name := by
  rintro rfl
  have length : k.fileName.length = k.text.length + 5 := String.length_append _ _
  omega

end BrandKey

namespace BrandTables

/-- The path of the file of a key. -/
def filePath (t : BrandTables) (key : BrandKey) : String := Files.join t.dir key.fileName

variable {files files' : Files} {t : BrandTables} {key : BrandKey}

theorem load_congr
    (agree : key.isEmpty = false → files (t.filePath key) = files' (t.filePath key)) :
    load files t.dir key = load files' t.dir key := by
  unfold load
  split
  · rfl
  · rename_i named
    have same : files (Files.join t.dir key.fileName) = files' (Files.join t.dir key.fileName) :=
      agree (Bool.eq_false_iff.mpr named)
    unfold CodeTable.ofFile Files.read
    rw [same]

theorem table_congr
    (agree : key.isEmpty = false → files (t.filePath key) = files' (t.filePath key)) :
    t.table files key = t.table files' key := by
  unfold BrandTables.table
  rw [load_congr agree]

end BrandTables

/-- A brand reads its own file only. Its key holds no character with a meaning in paths. The path of
its file is that of the table directory and one name more, and what it leads to is the entry of that
name in the directory. Any two file systems that agree on this path, or any two at all if the key is
empty, give the same table and the same readings of the brand, in simulation and over any channel.
This is so for every resolver, a fresh one among them. -/
theorem own_file_only {σ : Type} [Channel σ] (r : Resolver) (brand : String) :
    let dir := r.tables.dir
    let key := BrandKey.ofName brand
    let path := r.tables.filePath key
    (∀ c ∈ key.text.toList, c ≠ '/' ∧ c ≠ '\\' ∧ c ≠ '.' ∧ c ≠ '\x00') ∧
    Tree.components path = Tree.components dir ++ [key.fileName] ∧
    (∀ (tree : Tree) place, tree.resolve path = .ok place →
      ∃ parent, tree.walk (Tree.start dir) (Tree.components dir) = .ok parent ∧
        tree.at? parent = some .directory ∧ place = parent ++ [key.fileName]) ∧
    ∀ files files' : Files, (key.isEmpty = false → files path = files' path) →
      r.table files brand = r.table files' brand ∧
      r.readSimulated files brand = r.readSimulated files' brand ∧
      ∀ c : σ, r.readLive files brand c = r.readLive files' brand c := by
  intro dir key path
  have slash : '/' ∉ key.fileName.toList := BrandKey.slash_not_mem_fileName brand
  have ne : key.fileName ≠ "" := key.fileName_ne_of_short (by decide)
  have dot : key.fileName ≠ "." := key.fileName_ne_of_short (by decide)
  have up : key.fileName ≠ ".." := key.fileName_ne_of_short (by decide)
  refine ⟨?_, Tree.components_join dir slash ne dot, ?_, ?_⟩
  · intro c mem
    have plain := BrandKey.not_mem_pathCharacters mem
    simpa [BrandKey.pathCharacters] using plain
  · intro tree place found
    exact Tree.resolve_join slash ne dot up found
  · intro files files' agree
    have table : r.table files brand = r.table files' brand := by
      unfold Resolver.table
      rw [BrandTables.table_congr agree]
    refine ⟨table, ?_, fun c => ?_⟩
    · unfold Resolver.readSimulated
      rw [table]
    · unfold Resolver.readLive
      rw [table]

/-- Two file systems that differ in a file beside the table directory. A brand that is spelled like the
way to this file is read alike in both. -/
theorem own_file_only_of_way_out :
    let bare := Tree.empty.write "tables" .directory
    let full := bare.write "secret.json" (.file [0x7b, 0x7d])
    let brand := "../secret"
    let r := Resolver.ofParts (.ofDir "tables") (.ofSeed 0)
    let path := r.tables.filePath (.ofName brand)
    full.files "tables/../secret.json" = .ok (.text "\x7b\x7d") ∧
      bare.files "tables/../secret.json" = .error .missing ∧
      full.files path = bare.files path ∧
      r.readSimulated full.files brand = r.readSimulated bare.files brand ∧
      ∀ c : Script, r.readLive full.files brand c = r.readLive bare.files brand c := by
  intro bare full brand r path
  have inside : path = "tables/secret.json" := by decide +kernel
  have agree : full.files path = bare.files path := by
    rw [inside]
    rfl
  refine ⟨rfl, rfl, agree, ?_⟩
  exact ((own_file_only r brand).2.2.2 full.files bare.files fun _ => agree).2

end ScanTool
