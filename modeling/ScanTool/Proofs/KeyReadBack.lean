import ScanTool.Brand.Operation
import ScanTool.Proofs.KeyNormalForm

/-!
# Keys that are written out and read back

A key is written as the name of a file, in a listing or in the settings, and what was written is read
as a name again. The keys are meant to be in normal form: letters and digits that are their own key.
That is so for all names but those with `İ`, whose lower case ends in a combining dot that is no
letter. Where it is so, the written key stands for the brand in every operation, because the
operations know a brand by its key alone.
-/

namespace ScanTool

open ScanTool.Text

/-! ## Operations know a brand by its key -/

namespace Resolver

/-- The brand that an operation is about. -/
def Operation.brand {ι : Type} : Operation ι → String
  | table brand => brand
  | readSimulated brand => brand
  | clearSimulated brand => brand
  | isActive brand => brand
  | readLive brand _ => brand
  | clearLive brand _ => brand
  | readCodes brand _ => brand
  | clear brand _ => brand

/-- The same operation with the brand spelled otherwise. -/
def Operation.spelled {ι : Type} (name : String) : Operation ι → Operation ι
  | table _ => table name
  | readSimulated _ => readSimulated name
  | clearSimulated _ => clearSimulated name
  | isActive _ => isActive name
  | readLive _ channel => readLive name channel
  | clearLive _ channel => clearLive name channel
  | readCodes _ channel => readCodes name channel
  | clear _ channel => clear name channel

variable {name brand : String} (files : Files) (r : Resolver)

theorem table_of_same_key (same : BrandKey.ofName name = BrandKey.ofName brand) :
    r.table files name = r.table files brand := by
  unfold Resolver.table
  rw [same]

theorem query_of_same_key (same : BrandKey.ofName name = BrandKey.ofName brand) :
    r.query name = r.query brand := by
  unfold query
  rw [same]

theorem readSimulated_of_same_key (same : BrandKey.ofName name = BrandKey.ofName brand) :
    r.readSimulated files name = r.readSimulated files brand := by
  unfold readSimulated
  rw [table_of_same_key files r same, same]

theorem clearSimulated_of_same_key (same : BrandKey.ofName name = BrandKey.ofName brand) :
    r.clearSimulated name = r.clearSimulated brand := by
  unfold clearSimulated
  rw [same]

theorem isActive_of_same_key (same : BrandKey.ofName name = BrandKey.ofName brand) :
    r.isActive name = r.isActive brand := by
  unfold isActive
  rw [same]

theorem readLive_of_same_key {σ : Type} [Channel σ] (c : σ)
    (same : BrandKey.ofName name = BrandKey.ofName brand) :
    r.readLive files name c = r.readLive files brand c := by
  unfold readLive
  rw [table_of_same_key files r same, query_of_same_key r same]

/-- An operation does the same under every spelling with the key of its brand. -/
theorem perform_spelled {ι σ : Type} [DecidableEq ι] [Channel σ] (w : Workshop ι σ)
    (op : Operation ι) (same : BrandKey.ofName name = BrandKey.ofName op.brand) :
    w.perform files (op.spelled name) = w.perform files op := by
  cases op with
  | table brand =>
    simp only [Operation.spelled, Operation.brand, Workshop.perform, table_of_same_key files w.resolver same]
  | readSimulated brand =>
    simp only [Operation.spelled, Operation.brand, Workshop.perform, readSimulated_of_same_key files w.resolver same]
  | clearSimulated brand =>
    simp only [Operation.spelled, Operation.brand, Workshop.perform, clearSimulated_of_same_key w.resolver same]
  | isActive brand =>
    simp only [Operation.spelled, Operation.brand, Workshop.perform,
      isActive_of_same_key w.resolver same]
  | readLive brand i =>
    simp only [Operation.spelled, Operation.brand, Workshop.perform,
      readLive_of_same_key files w.resolver (w.channels i) same]
  | clearLive brand i => rfl
  | readCodes brand i? =>
    cases i? with
    | none =>
      simp only [Operation.spelled, Operation.brand, Workshop.perform, Option.map_none, readCodes,
        readSimulated_of_same_key files w.resolver same]
    | some i =>
      simp only [Operation.spelled, Operation.brand, Workshop.perform, Option.map_some, readCodes,
        readLive_of_same_key files w.resolver (w.channels i) same]
  | clear brand i? =>
    cases i? with
    | none =>
      simp only [Operation.spelled, Operation.brand, Workshop.perform, Option.map_none, clear,
        clearSimulated_of_same_key w.resolver same]
    | some i => rfl

end Resolver

/-! ## The normal form -/

namespace BrandKey

/-- The key of a key is the key if that holds letters and digits only. -/
theorem ofName_text_eq_iff (name : String) :
    ofName (ofName name).text = ofName name ↔
      ∀ c ∈ (ofName name).text.toList, isAlphanumeric c = true := by
  have again := toList_text_ofName_text name
  constructor
  · intro same
    rw [same] at again
    exact List.filter_eq_self.mp again.symm
  · intro letters
    rw [List.filter_eq_self.mpr letters] at again
    exact congrArg BrandKey.mk (String.ext again)

/-- `İ` is no character of a key. -/
theorem dotted_not_mem_text (name : String) : 'İ' ∉ (ofName name).text.toList := by
  intro dotted
  rw [toList_text_ofName] at dotted
  rcases mem_normalize dotted with letter | ⟨dot, -⟩
  · have lower := letter.lower
    rw [lowerChar_dotted] at lower
    simp at lower
  · exact absurd dot (by decide)

end BrandKey

/-- The keys that are in normal form. A key holds letters and digits only, and is its own key, exactly
if `İ` does not occur in the name; then the written key stands for the brand in every operation. In
any case the only other character of a key is the combining dot, and the key of a key is in normal
form. -/
theorem key_normal_iff {ι σ : Type} [DecidableEq ι] [Channel σ] (name : String) :
    let key := BrandKey.ofName name
    let again := BrandKey.ofName key.text
    ((∀ c ∈ key.text.toList, isAlphanumeric c = true) ↔ 'İ' ∉ name.toList) ∧
    (again = key ↔ 'İ' ∉ name.toList) ∧
    (∀ c ∈ key.text.toList, isAlphanumeric c = true ∨ c = '\u0307') ∧
    ((∀ c ∈ again.text.toList, isAlphanumeric c = true) ∧ BrandKey.ofName again.text = again) ∧
    ('İ' ∉ name.toList → ∀ (files : Files) (w : Resolver.Workshop ι σ) (op : Resolver.Operation ι),
      op.brand = name → w.perform files (op.spelled key.text) = w.perform files op) := by
  intro key again
  have letters : (∀ c ∈ key.text.toList, isAlphanumeric c = true) ↔ 'İ' ∉ name.toList := by
    rw [BrandKey.toList_text_ofName]
    exact BrandKey.all_isAlphanumeric_normalize_iff
  have own : again = key ↔ 'İ' ∉ name.toList :=
    (BrandKey.ofName_text_eq_iff name).trans letters
  have letters' : ∀ c ∈ again.text.toList, isAlphanumeric c = true := by
    rw [BrandKey.toList_text_ofName]
    exact BrandKey.all_isAlphanumeric_normalize_iff.mpr (BrandKey.dotted_not_mem_text name)
  have own' : BrandKey.ofName again.text = again :=
    (BrandKey.ofName_text_eq_iff key.text).mpr letters'
  refine ⟨letters, own, fun c mem => BrandKey.mem_text_ofName mem, ⟨letters', own'⟩, ?_⟩
  intro undotted files w op about
  refine Resolver.perform_spelled files w op ?_
  rw [about]
  exact own.mpr undotted

/-- The key of `İ` holds a combining dot, which is lost when the key is read back; the key of `Škoda`
stands for the brand. -/
theorem key_normal_but_for_dotted :
    let dotted := BrandKey.ofName "İ"
    (¬ (∀ c ∈ dotted.text.toList, isAlphanumeric c = true) ∧ BrandKey.ofName dotted.text ≠ dotted) ∧
      'İ' ∉ "Škoda".toList ∧
      ∀ (files : Files) (w : Resolver.Workshop Unit Script),
        w.perform files (.readSimulated (BrandKey.ofName "Škoda").text) =
          w.perform files (.readSimulated "Škoda") := by
  intro dotted
  have mem : 'İ' ∈ "İ".toList := by decide
  have letter : 'İ' ∉ "Škoda".toList := by decide
  have normal := key_normal_iff (ι := Unit) (σ := Script) "İ"
  refine ⟨⟨fun h => normal.1.mp h mem, fun h => normal.2.1.mp h mem⟩, letter, fun files w => ?_⟩
  exact (key_normal_iff "Škoda").2.2.2.2 letter files w (.readSimulated "Škoda") rfl

end ScanTool
