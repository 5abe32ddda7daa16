import ScanTool.Proofs.TextCutting

/-!
# Parts of a text by the places of their octets

`between?` takes the part of a text between two places that are counted in octets. It is found
where the text can be written as what stands before the part, the part and what stands behind it. On
the cells of a text an ASCII part shows at the same place, so groups of four cells are the parts
between places that are multiples of four.
-/

namespace ScanTool.Text

/-- The part of a text from octet `start` up to octet `stop`, if the text has as many and neither
cut falls inside a character. -/
def between? (start stop : Nat) (cs : List Char) : Option (List Char) :=
  if start ≤ stop then (dropOctets? start cs).bind (takeOctets? (stop - start)) else none

theorem between?_eq_some_iff {start stop : Nat} {cs part : List Char} :
    between? start stop cs = some part ↔
      ∃ front back, cs = front ++ (part ++ back) ∧ octetCount front = start ∧
        start + octetCount part = stop := by
  unfold between?
  constructor
  · intro h
    split at h
    · obtain ⟨rest, hrest, hpart⟩ := Option.bind_eq_some_iff.mp h
      obtain ⟨front, rfl, hfront⟩ := dropOctets?_eq_some_iff.mp hrest
      obtain ⟨back, rfl, hcount⟩ := takeOctets?_eq_some_iff.mp hpart
      exact ⟨front, back, rfl, hfront, by omega⟩
    · cases h
  · rintro ⟨front, back, rfl, rfl, rfl⟩
    rw [if_pos (Nat.le_add_right _ _), dropOctets?_append, Option.bind_some,
      Nat.add_sub_cancel_left, takeOctets?_append]

/-! ## Characters of one octet -/

theorem octetCount_of_forall {cs : List Char} (h : ∀ c ∈ cs, c.utf8Size = 1) :
    octetCount cs = cs.length := by
  induction cs with
  | nil => rfl
  | cons c cs ih =>
    rw [List.forall_mem_cons] at h
    rw [octetCount, h.1, ih h.2, List.length_cons, Nat.add_comm]

theorem utf8Size_of_ascii {c : Char} (h : c.toNat ≤ 127) : c.utf8Size = 1 := by
  rw [Char.utf8Size_eq_one_iff, UInt32.le_iff_toNat_le]
  exact h

theorem utf8Size_of_isHexDigit {c : Char} (h : isHexDigit c = true) : c.utf8Size = 1 := by
  have hupper := utf8Size_of_mem_upperDigits _ (upper_of_isHexDigit h).1
  rcases toUpper_cases c with same | ⟨-, high, -⟩
  · rwa [same] at hupper
  · exact utf8Size_of_ascii (by omega)

theorem utf8Size_of_forall_isHexDigit {cs : List Char} (h : ∀ c ∈ cs, isHexDigit c = true) :
    ∀ c ∈ cs, c.utf8Size = 1 := fun c hc => utf8Size_of_isHexDigit (h c hc)

/-! ## Cells -/

theorem cells_append (a b : List Char) : cells (a ++ b) = cells a ++ cells b :=
  List.flatMap_append

theorem cells_cons (c : Char) (cs : List Char) :
    cells (c :: cs) =
      (if c.utf8Size = 1 then [some c] else List.replicate c.utf8Size none) ++ cells cs :=
  List.flatMap_cons

theorem length_cells (cs : List Char) : (cells cs).length = octetCount cs := by
  induction cs with
  | nil => rfl
  | cons c cs ih =>
    rw [cells_cons, List.length_append, ih, octetCount]
    split
    · rename_i hone
      rw [hone, List.length_singleton]
    · rw [List.length_replicate]

theorem cells_of_forall {cs : List Char} (h : ∀ c ∈ cs, c.utf8Size = 1) :
    cells cs = cs.map some := by
  induction cs with
  | nil => rfl
  | cons c cs ih =>
    rw [List.forall_mem_cons] at h
    rw [cells_cons, if_pos h.1, ih h.2, List.map_cons, List.singleton_append]

/-- A cell that shows a character is that character of the text. -/
theorem exists_of_cells_eq_cons {cs : List Char} {xs ys : List (Option Char)} {c : Char}
    (h : cells cs = xs ++ some c :: ys) :
    ∃ front back, cs = front ++ c :: back ∧ cells front = xs ∧ cells back = ys ∧
      c.utf8Size = 1 := by
  induction cs generalizing xs with
  | nil =>
    have hlen := congrArg List.length h
    simp [cells] at hlen
  | cons d cs ih =>
    rw [cells_cons] at h
    rcases List.append_eq_append_iff.mp h with ⟨zs, rfl, hrest⟩ | ⟨zs, hfirst, hrest⟩
    · obtain ⟨front, back, rfl, rfl, hback, hone⟩ := ih hrest
      exact ⟨d :: front, back, rfl, cells_cons d front, hback, hone⟩
    · cases zs with
      | nil =>
        -- the cells of `d` end where the cell of `c` begins
        have hcs : cells cs = [] ++ some c :: ys := hrest.symm
        obtain ⟨front, back, rfl, hfront, hback, hone⟩ := ih hcs
        refine ⟨d :: front, back, rfl, ?_, hback, hone⟩
        rw [cells_cons, hfront, hfirst]
        simp
      | cons z zs =>
        obtain ⟨rfl, hys⟩ := List.cons.inj hrest
        split at hfirst
        · rename_i hone
          -- the only cell of `d` is that of `c`
          cases xs with
          | nil =>
            obtain ⟨hd, rfl⟩ := List.cons.inj hfirst
            obtain rfl := Option.some.inj hd
            exact ⟨[], cs, rfl, rfl, hys.symm, hone⟩
          | cons x xs =>
            have hlen := congrArg List.length hfirst
            simp at hlen
        · have hmem : some c ∈ List.replicate d.utf8Size (none : Option Char) :=
            hfirst ▸ List.mem_append_right _ List.mem_cons_self
          cases List.eq_of_mem_replicate hmem

/-- Cells that show characters are a part of the text. -/
theorem exists_of_cells_eq {cs : List Char} {xs ys : List (Option Char)} {part : List Char}
    (hne : part ≠ []) (h : cells cs = xs ++ (part.map some ++ ys)) :
    ∃ front back, cs = front ++ (part ++ back) ∧ cells front = xs ∧ cells back = ys ∧
      ∀ c ∈ part, c.utf8Size = 1 := by
  induction part generalizing cs xs with
  | nil => exact absurd rfl hne
  | cons c part ih =>
    obtain ⟨front, rest, rfl, hfront, hrest, hone⟩ := exists_of_cells_eq_cons h
    cases part with
    | nil => exact ⟨front, rest, rfl, hfront, hrest, by simpa using hone⟩
    | cons d part =>
      have hcells : cells rest = [] ++ ((d :: part).map some ++ ys) := hrest
      obtain ⟨between, back, rfl, hbetween, hback, hones⟩ := ih (by simp) hcells
      -- nothing stands between the first character and the others, since each takes a cell
      obtain rfl : between = [] := by
        rw [← List.length_eq_zero_iff]
        have hcount := length_cells between
        rw [hbetween, List.length_nil] at hcount
        cases between with
        | nil => rfl
        | cons b between =>
          have hb := b.utf8Size_pos
          rw [octetCount] at hcount
          omega
      exact ⟨front, back, rfl, hfront, hback, List.forall_mem_cons.mpr ⟨hone, hones⟩⟩

/-! ## Groups of four by their places -/

section quads

variable {α : Type}

theorem length_lt_of_forall_ne {xs : List α} (h : ∀ a b c d rest, xs ≠ a :: b :: c :: d :: rest) :
    xs.length < 4 := by
  rcases xs with _ | ⟨a, _ | ⟨b, _ | ⟨c, _ | ⟨d, rest⟩⟩⟩⟩
  case cons.cons.cons.cons => exact absurd rfl (h a b c d rest)
  all_goals simp

theorem quads_of_short {xs : List α} (h : xs.length < 4) : quads xs = [] := by
  unfold quads
  split
  · simp only [List.length_cons] at h
    omega
  · rfl

theorem quads_eq_range (xs : List α) :
    quads xs = (List.range (xs.length / 4)).map fun i => (xs.drop (4 * i)).take 4 := by
  fun_induction quads xs with
  | case1 a b c d rest ih =>
    have hlen : (a :: b :: c :: d :: rest).length / 4 = rest.length / 4 + 1 := by
      simp only [List.length_cons]
      omega
    rw [hlen, List.range_succ_eq_map, List.map_cons, List.map_map, ih]
    rfl
  | case2 xs h =>
    rw [Nat.div_eq_of_lt (length_lt_of_forall_ne h)]
    rfl

theorem quads_append {xs : List α} (aligned : 4 ∣ xs.length) (ys : List α) :
    quads (xs ++ ys) = quads xs ++ quads ys := by
  fun_induction quads xs with
  | case1 a b c d rest ih =>
    have hrest : 4 ∣ rest.length := by
      simp only [List.length_cons] at aligned
      omega
    simp [quads, ih hrest]
  | case2 xs h =>
    have hshort := length_lt_of_forall_ne h
    obtain rfl : xs = [] := by
      rw [← List.length_eq_zero_iff]
      omega
    rfl

end quads

theorem mapM_id_eq_some_iff {xs : List (Option Char)} {cs : List Char} :
    xs.mapM id = some cs ↔ xs = cs.map some := by
  refine ⟨fun h => ?_, fun h => h ▸ mapM_id_map_some cs⟩
  induction xs generalizing cs with
  | nil =>
    obtain rfl : [] = cs := by simpa using h
    rfl
  | cons x xs ih =>
    cases x with
    | none => simp at h
    | some c =>
      cases hrest : xs.mapM id with
      | none => simp [hrest] at h
      | some rest =>
        obtain rfl : c :: rest = cs := by simpa [hrest] using h
        rw [ih hrest, List.map_cons]

/-- Four cells show a group of characters exactly where the group is the part of the text there and
has no character outside ASCII. -/
theorem mapM_cells_eq_some_iff {cs : List Char} {n : Nat} {group : List Char}
    (hlen : group.length = 4) :
    (((cells cs).drop n).take 4).mapM id = some group ↔
      between? n (n + 4) cs = some group ∧ ∀ c ∈ group, c.utf8Size = 1 := by
  rw [mapM_id_eq_some_iff, between?_eq_some_iff]
  constructor
  · intro h
    have hne : group ≠ [] := List.ne_nil_of_length_pos (by omega)
    have hlong : n + 4 ≤ (cells cs).length := by
      have hfour := congrArg List.length h
      rw [List.length_take, List.length_drop, List.length_map, hlen] at hfour
      omega
    have hcells : cells cs =
        (cells cs).take n ++ (group.map some ++ ((cells cs).drop n).drop 4) := by
      rw [← h, List.take_append_drop, List.take_append_drop]
    obtain ⟨front, back, hcs, hfront, -, hones⟩ := exists_of_cells_eq hne hcells
    refine ⟨⟨front, back, hcs, ?_, by rw [octetCount_of_forall hones, hlen]⟩, hones⟩
    rw [← length_cells, hfront, List.length_take]
    omega
  · rintro ⟨⟨front, back, rfl, rfl, -⟩, hones⟩
    have hgroup : (group.map some).length = 4 := by rw [List.length_map, hlen]
    rw [cells_append, cells_append, cells_of_forall hones, ← length_cells, List.drop_left, ← hgroup,
      List.take_left]

end ScanTool.Text
