/-!
# Operations left out of a run

A run carries operations out one after the other and takes down what each of them gives. Operations
can be left out of a run without being missed if there is a relation between the states of the two
runs, the one without and the one with them, that every operation keeps and under which the replies
that are looked at are the same. The relation may also speak of the operations that are still to come.
-/

namespace ScanTool

variable {α ω ρ : Type}

/-- Carries operations out one after the other: each with what it gives, and the state in the end. -/
def carryOut (step : α → ω → ρ × α) (s : α) : List ω → List (ω × ρ) × α
  | [] => ([], s)
  | op :: rest =>
    let (reply, s) := step s op
    let (replies, last) := carryOut step s rest
    ((op, reply) :: replies, last)

variable {step : α → ω → ρ × α} {s s' : α} {op : ω} {ops : List ω}

theorem carryOut_cons_fst : (carryOut step s (op :: ops)).1 =
    (op, (step s op).1) :: (carryOut step (step s op).2 ops).1 := rfl

theorem map_fst_carryOut : (carryOut step s ops).1.map (·.1) = ops := by
  induction ops generalizing s with
  | nil => rfl
  | cons op rest ih => rw [carryOut_cons_fst, List.map_cons, ih]

/-- Every operation that was carried out can be looked at. -/
theorem filter_carryOut {seen : ω → Bool} (all : ∀ op ∈ ops, seen op = true) :
    (carryOut step s ops).1.filter (fun r => seen r.1) = (carryOut step s ops).1 := by
  refine List.filter_eq_self.mpr ?_
  intro r mem
  have done : r.1 ∈ (carryOut step s ops).1.map (·.1) := List.mem_map_of_mem mem
  rw [map_fst_carryOut] at done
  exact all r.1 done

/-- The operations that are not kept are not missed where some of the others are looked at. `Same`
relates the state of the run without them to the state of the run with them, given the operations
that are still to come. -/
structure Unmissed (step : α → ω → ρ × α) (kept seen : ω → Bool)
    (Same : List ω → α → α → Prop) : Prop where
  /-- An operation that is left out keeps the relation. -/
  skip {op : ω} {rest : List ω} {s s' : α} (same : Same (op :: rest) s s')
    (out : kept op = false) : Same rest s (step s' op).2
  /-- An operation that is carried out in both runs keeps the relation. -/
  take {op : ω} {rest : List ω} {s s' : α} (same : Same (op :: rest) s s')
    (kept : kept op = true) : Same rest (step s op).2 (step s' op).2
  /-- What is looked at is kept, and gives the same in both runs. -/
  look {op : ω} {rest : List ω} {s s' : α} (same : Same (op :: rest) s s')
    (seen : seen op = true) : kept op = true ∧ (step s op).1 = (step s' op).1

variable {kept seen : ω → Bool} {Same : List ω → α → α → Prop}

theorem Unmissed.states (h : Unmissed step kept seen Same) (same : Same ops s s') :
    Same [] (carryOut step s (ops.filter kept)).2 (carryOut step s' ops).2 := by
  induction ops generalizing s s' with
  | nil => exact same
  | cons op rest ih =>
    cases hk : kept op with
    | false =>
      rw [List.filter_cons_of_neg (by simp [hk])]
      exact ih (h.skip same hk)
    | true =>
      rw [List.filter_cons_of_pos hk]
      exact ih (h.take same hk)

theorem Unmissed.replies (h : Unmissed step kept seen Same) (same : Same ops s s') :
    (carryOut step s (ops.filter kept)).1.filter (fun r => seen r.1) =
      (carryOut step s' ops).1.filter (fun r => seen r.1) := by
  induction ops generalizing s s' with
  | nil => rfl
  | cons op rest ih =>
    cases hk : kept op with
    | false =>
      have unseen : seen op = false := by
        cases hs : seen op with
        | false => rfl
        | true =>
          have taken := (h.look same hs).1
          rw [hk] at taken
          cases taken
      rw [List.filter_cons_of_neg (by simp [hk]), carryOut_cons_fst, List.filter_cons, unseen]
      exact ih (h.skip same hk)
    | true =>
      have later := ih (h.take same hk)
      rw [List.filter_cons_of_pos hk, carryOut_cons_fst, carryOut_cons_fst, List.filter_cons,
        List.filter_cons, later]
      cases hs : seen op with
      | false => rfl
      | true => rw [(h.look same hs).2]

end ScanTool
