import ScanTool.Brand.Tables
import ScanTool.Proofs.Bindings
import ScanTool.Proofs.KeyNormalForm

/-!
# Brands that are listed and tables that are found

The listing goes from the files of the directory to names of brands, the table of a brand from its
name to one file. The listing reads the key of any file name, and so it also names brands whose file
is called otherwise than their key. The main statement says which names are listed: that of a brand
whose file is there, unless `İ` occurs in it, and that of any other stem with the same name for
people.
-/

namespace ScanTool

open ScanTool.Text

/-! ## File names -/

namespace BrandTables

theorem bne_dot_of_not_mem {cs : List Char} (h : '.' ∉ cs) :
    ∀ c ∈ cs.reverse, (c != '.') = true := by
  intro c hc
  simp only [bne_iff_ne]
  rintro rfl
  exact h (List.mem_reverse.mp hc)

/-- A name with a dot is cut at its last one, unless nothing stands before it. -/
theorem splitExtension_dot {stem ext : List Char} (h : '.' ∉ ext) :
    splitExtension (stem ++ '.' :: ext) =
      if stem.isEmpty then (stem ++ '.' :: ext, none) else (stem, some ext) := by
  have hext : ((stem ++ '.' :: ext).reverse.takeWhile (· != '.')).reverse = ext := by
    rw [List.reverse_append, List.reverse_cons, List.append_assoc, List.singleton_append,
      List.takeWhile_append_of_pos (bne_dot_of_not_mem h), List.takeWhile_cons_of_neg (by simp),
      List.append_nil, List.reverse_reverse]
  have hstem : (stem ++ '.' :: ext).take ((stem ++ '.' :: ext).length - ext.length - 1) = stem := by
    refine List.take_left' ?_
    simp
    omega
  unfold splitExtension
  rw [hext]
  simp only [hstem]
  have hlen : ext.length ≠ (stem ++ '.' :: ext).length := by
    simp
    omega
  simp only [hlen, false_or]

/-- A name without a dot has no extension. -/
theorem splitExtension_of_not_mem {name : List Char} (h : '.' ∉ name) :
    splitExtension name = (name, none) := by
  have whole : name.reverse.takeWhile (· != '.') = name.reverse := by
    have hrev : (name.reverse ++ []).takeWhile (· != '.') = name.reverse ++ [] :=
      List.takeWhile_append_of_pos (bne_dot_of_not_mem h)
    rwa [List.append_nil] at hrev
  unfold splitExtension
  rw [whole, List.reverse_reverse]
  simp

theorem splitExtension_eq_some_iff {name stem ext : List Char} :
    splitExtension name = (stem, some ext) ↔
      stem ≠ [] ∧ '.' ∉ ext ∧ name = stem ++ '.' :: ext := by
  constructor
  · intro h
    by_cases dot : '.' ∈ name
    · obtain ⟨after, before, hname, hafter⟩ := List.eq_append_cons_of_mem (List.mem_reverse.mpr dot)
      have hname' : name = before.reverse ++ '.' :: after.reverse := by
        rw [← List.reverse_reverse name, hname]
        simp
      have hafter' : '.' ∉ after.reverse := fun hm => hafter (List.mem_reverse.mp hm)
      rw [hname', splitExtension_dot hafter'] at h
      split at h
      · cases h
      · rename_i ne
        obtain ⟨rfl, rfl⟩ : before.reverse = stem ∧ after.reverse = ext := by simpa using h
        exact ⟨by simpa using ne, hafter', hname'⟩
    · rw [splitExtension_of_not_mem dot] at h
      cases h
  · rintro ⟨ne, dot, rfl⟩
    rw [splitExtension_dot dot]
    simp [ne]

/-- A file name stands for a brand if it ends in `.json` with something before that. -/
theorem brandOf?_eq_some_iff {fileName x : String} :
    brandOf? fileName = some x ↔
      ∃ stem, stem ≠ "" ∧ fileName = stem ++ ".json" ∧ (BrandKey.ofName stem).displayName = x := by
  constructor
  · intro h
    unfold brandOf? at h
    split at h
    · rename_i stem hsplit
      obtain ⟨ne, -, hname⟩ := splitExtension_eq_some_iff.mp hsplit
      refine ⟨String.ofList stem, by simpa using ne, String.ext ?_, Option.some.inj h⟩
      rw [hname, String.toList_append, String.toList_ofList]
      rfl
    · cases h
  · rintro ⟨stem, ne, rfl, rfl⟩
    have hsplit : splitExtension (stem ++ ".json").toList =
        (stem.toList, some ['j', 's', 'o', 'n']) := by
      refine splitExtension_eq_some_iff.mpr ⟨by simpa using ne, by decide, ?_⟩
      rw [String.toList_append]
      rfl
    unfold brandOf?
    rw [hsplit]
    simp

/-- What is listed is what is read from the stems of the files. -/
theorem mem_available_iff_stem {files : Files} {t : BrandTables} {x : String} :
    x ∈ t.available files ↔
      ∃ stem, stem ≠ "" ∧ stem ++ ".json" ∈ files.list t.dir ∧
        (BrandKey.ofName stem).displayName = x := by
  unfold available
  rw [mem_names_sortBindings]
  simp only [List.map_map, List.mem_map, Function.comp_apply, exists_eq_right, List.mem_filterMap,
    brandOf?_eq_some_iff]
  constructor
  · rintro ⟨_, hmem, stem, ne, rfl, rfl⟩
    exact ⟨stem, ne, hmem, rfl⟩
  · rintro ⟨stem, ne, hmem, rfl⟩
    exact ⟨_, hmem, stem, ne, rfl, rfl⟩

end BrandTables

/-! ## Names for people -/

theorem Text.upperChar_ne_nil (c : Char) : upperChar c ≠ [] := by
  unfold upperChar mapCase
  split
  · rename_i codes hcodes
    obtain ⟨before, after, hsplit, -⟩ := List.lookup_eq_some_iff.mp hcodes
    have all : ∀ e ∈ upperExpansions, e.2 ≠ [] := by decide
    have := all (c.toNat, codes) (by rw [hsplit]; simp)
    simpa using this
  · split <;> simp

namespace BrandKey

theorem displayName_eq_empty_iff {k : BrandKey} : k.displayName = "" ↔ k.isEmpty = true := by
  rw [isEmpty, String.isEmpty_iff, displayName, ← String.toList_eq_nil_iff (b := k.text)]
  cases k.text.toList with
  | nil => simp
  | cons first rest => simp [upperChar_ne_nil]

/-- A key is called for people what its name is called, unless `İ` occurs in the name: the dot that
it leaves behind is lost when the key is read again. -/
theorem displayName_text_iff {b : String} (ne : (ofName b).isEmpty = false) :
    (ofName (ofName b).text).displayName = (ofName b).displayName ↔ 'İ' ∉ b.toList := by
  have text := toList_text_ofName b
  rw [← all_isAlphanumeric_normalize_iff]
  cases hk : normalize b.toList with
  | nil =>
    rw [hk, String.toList_eq_nil_iff] at text
    rw [isEmpty, text] at ne
    cases ne
  | cons first rest =>
    have hfirst := isAlphanumeric_of_normalize hk
    have again : (ofName (ofName b).text).text.toList = first :: rest.filter isAlphanumeric := by
      rw [toList_text_ofName_text, text, hk, List.filter_cons_of_pos hfirst]
    rw [hk] at text
    rw [displayName, displayName, again, text]
    simp [hfirst, String.ofList_inj, List.filter_eq_self]

end BrandKey

namespace BrandTables

/-- Which names are listed, for the key `k` of a brand: the name of `k` is listed if the file of `k`
is there and `İ` does not occur in the brand, or if any other stem of a file has the key of that
name; and the empty name is listed if some stem has the empty key. -/
theorem mem_available_iff (files : Files) (t : BrandTables) (b : String)
    (ne : (BrandKey.ofName b).isEmpty = false) :
    let k := BrandKey.ofName b
    let names := files.list t.dir
    (k.displayName ∈ t.available files ↔
      (k.fileName ∈ names ∧ 'İ' ∉ b.toList) ∨
        ∃ stem, stem ≠ k.text ∧ stem ≠ "" ∧ stem ++ ".json" ∈ names ∧
          (BrandKey.ofName stem).displayName = k.displayName) ∧
    ("" ∈ t.available files ↔
      ∃ stem, stem ≠ "" ∧ stem ++ ".json" ∈ names ∧ (BrandKey.ofName stem).isEmpty = true) := by
  intro k names
  refine ⟨?_, ?_⟩
  · rw [mem_available_iff_stem]
    constructor
    · rintro ⟨stem, hstem, hmem, hname⟩
      by_cases own : stem = k.text
      · subst own
        exact Or.inl ⟨hmem, (BrandKey.displayName_text_iff ne).mp hname⟩
      · exact Or.inr ⟨stem, own, hstem, hmem, hname⟩
    · rintro (⟨hmem, dotted⟩ | ⟨stem, -, hstem, hmem, hname⟩)
      · have htext : k.text ≠ "" := fun h => by
          rw [← String.isEmpty_iff] at h
          exact absurd h (Bool.eq_false_iff.mp ne)
        exact ⟨k.text, htext, hmem, (BrandKey.displayName_text_iff ne).mpr dotted⟩
      · exact ⟨stem, hstem, hmem, hname⟩
  · simp only [mem_available_iff_stem, BrandKey.displayName_eq_empty_iff, names]

/-- A directory in which the only file is called otherwise than the key of its brand: the brand is
listed, and the file from which its table would be read is not there. -/
theorem mem_available_of_other_stem :
    let files : Files := fun path =>
      if path = "tables" then .ok (.directory ["Mercedes-Benz.json"]) else .error .missing
    let k := BrandKey.ofName "Mercedes-Benz"
    k.isEmpty = false ∧ k.displayName ∈ (ofDir "tables").available files ∧
      k.fileName ∉ files.list "tables" := by
  intro files k
  have ne : k.isEmpty = false := by decide +kernel
  refine ⟨ne, ?_, by decide +kernel⟩
  refine (mem_available_iff files (ofDir "tables") "Mercedes-Benz" ne).1.mpr (Or.inr ?_)
  exact ⟨"Mercedes-Benz", by decide +kernel, by decide, by decide +kernel, rfl⟩

end BrandTables

end ScanTool
