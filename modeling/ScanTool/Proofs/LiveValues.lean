import Mathlib.Tactic.IntervalCases
import ScanTool.Live.Parameter
import ScanTool.Proofs.FrameLayout

/-!
# Live values read back

The data of a parameter is looked for behind the first place on a line where its echo stands,
wherever that is. `Precedes` lists what may stand before the echo: nothing, a header with an
identifier of eleven or of twenty-nine bits, or any six digits behind which the echo has its first
place. In none of them does the echo begin earlier, across the digits of identifiers, addresses and
lengths; so the bytes that were written are the bytes that are read, for every parameter of the
catalog. `Measures` says what they mean, parameter by parameter, in plain arithmetic.
-/

namespace ScanTool.Frame

open ScanTool.Text

variable {marker : List Char} {count : Nat}

/-! ## Looking for a marker -/

/-- The bytes of two answers, one after the other, are those of the first that has any. -/
theorem bytesAfter?_append {c : Char} (hc : isLineBreak c = true) (a b : List Char) :
    bytesAfter? marker count (a ++ c :: b) =
      (bytesAfter? marker count a).or (bytesAfter? marker count b) := by
  rw [bytesAfter?, compactLines_append hc, List.findSome?_append]
  rfl

/-- No bytes are found in a text in which the marker does not stand, once it is compacted. -/
theorem bytesAfter?_eq_none {text : List Char} (h : ¬ marker <:+: compact text) :
    bytesAfter? marker count text = none := by
  rw [bytesAfter?, List.findSome?_eq_none_iff]
  intro line hline
  have hmarker : ¬ marker <:+: line := fun hi => h (hi.trans (infix_of_mem_compactLines hline))
  rw [afterFirst?_eq_none hmarker, Option.bind_none]

/-- The bytes behind the first place of the marker on a line, as it is once it is compacted. -/
theorem bytesAfter?_of_compact {line front more : List Char} {bytes : List UInt8}
    (hline : ∀ c ∈ line, isLineBreak c = false) (hne : marker ≠ [])
    (hcompact : compact line = front ++ (marker ++ (bytes.flatMap hexPair ++ more)))
    (first : FirstBehind front marker) :
    bytesAfter? marker bytes.length line = some bytes := by
  have hfilled : compact line ≠ [] := by simp [hcompact, hne]
  rw [bytesAfter?, compactLines_of_line hline hfilled, hcompact, List.findSome?_singleton,
    first.afterFirst?, Option.bind_some, bytesOfPairs?_flatMap]

/-- The bytes behind the first place of the marker on a line of digits. -/
theorem bytesAfter?_line {front more : List Char} (hfront : Digits front) (hmarker : Digits marker)
    (hne : marker ≠ []) (first : FirstBehind front marker) (bytes : List UInt8)
    (hmore : Digits more) :
    bytesAfter? marker bytes.length (front ++ (marker ++ (bytes.flatMap hexPair ++ more))) =
      some bytes := by
  have hbytes : Digits (bytes.flatMap hexPair) := by
    rw [List.flatMap_def]
    refine Digits.flatten fun pair hpair => ?_
    obtain ⟨b, -, rfl⟩ := List.mem_map.mp hpair
    exact digits_hexPair b
  have hline : Digits (front ++ (marker ++ (bytes.flatMap hexPair ++ more))) :=
    hfront.append (hmarker.append (hbytes.append hmore))
  exact bytesAfter?_of_compact (fun c hc => isLineBreak_of_mem_upperDigits c (hline c hc)) hne
    (compact_digits hline) first

/-! ## The first place of an echo -/

/-- Behind an identifier of eleven bits an echo does not begin early: it would have to begin with
the last two digits before it, and then the number behind `41` with `4`. -/
theorem firstBehind_short {unit a b : Char} {size : List Char} (hunit : unit ∈ unitDigits)
    (hlen : size.length = 2) (ha : a ≠ '4') :
    FirstBehind ('7' :: 'E' :: unit :: size) ['4', '1', a, b] := by
  have hunit4 : '4' ≠ unit := fun e => absurd (e ▸ hunit) (by decide)
  match size, hlen with
  | [x, y], _ =>
    intro n hn hpre
    simp only [List.length_cons, List.length_nil] at hn
    interval_cases n
    · simp at hpre
    · simp at hpre
    · simp [hunit4] at hpre
    · simp [ha] at hpre
    · simp at hpre

/-- Behind an identifier of twenty-nine bits an echo does not begin early: if it began with the
address of the sender, the length would be the number behind `41`. -/
theorem firstBehind_long {low a b : Char} {sender : List Char} (hlen : sender.length = 2)
    (hlength : ['0', low] ≠ [a, b]) :
    FirstBehind (longId ++ sender ++ ['0', low]) ['4', '1', a, b] := by
  match sender, hlen with
  | [x, y], _ =>
    intro n hn hpre
    simp only [longId, List.length_append, List.length_cons, List.length_nil] at hn
    interval_cases n
    case «6» =>
      have hsender : ['4', '1', a, b] <+: x :: y :: '0' :: low :: ['4', '1', a, b] := hpre
      obtain ⟨-, -, hnumber⟩ := by simpa only [List.cons_prefix_cons] using hsender
      exact hlength (by rw [hnumber.1, hnumber.2.1])
    all_goals simp [longId] at hpre

/-! ## Lines before and behind -/

/-- Pieces of text, each followed by the character that ends it. -/
def ended (pieces : List (List Char × Char)) : List Char := pieces.flatMap fun p => p.1 ++ [p.2]

/-- Lines without the marker are passed over. -/
theorem bytesAfter?_ended {pieces : List (List Char × Char)} (text : List Char)
    (breaks : ∀ p ∈ pieces, isLineBreak p.2 = true)
    (unmarked : ∀ p ∈ pieces, ¬ marker <:+: compact p.1) :
    bytesAfter? marker count (ended pieces ++ text) = bytesAfter? marker count text := by
  induction pieces with
  | nil => rfl
  | cons p rest ih =>
    rw [List.forall_mem_cons] at breaks unmarked
    have hcons : ended (p :: rest) ++ text = p.1 ++ p.2 :: (ended rest ++ text) := by simp [ended]
    rw [hcons, bytesAfter?_append breaks.1, bytesAfter?_eq_none unmarked.1, Option.none_or,
      ih breaks.2 unmarked.2]

/-- What comes on later lines does not matter once bytes are found. -/
theorem bytesAfter?_of_first {text later : List Char} {bytes : List UInt8}
    (h : bytesAfter? marker count text = some bytes)
    (hlater : ∀ c ∈ later.head?, isLineBreak c = true) :
    bytesAfter? marker count (text ++ later) = some bytes := by
  cases later with
  | nil => rwa [List.append_nil]
  | cons c rest =>
    have hc : isLineBreak c = true := hlater c rfl
    rw [bytesAfter?_append hc, h, Option.some_or]

end ScanTool.Frame

namespace ScanTool.Live

open ScanTool.Text ScanTool.Frame

/-! ## The catalog -/

theorem parameter?_of_mem {p : Parameter} (h : p ∈ catalog) : parameter? p.pid = some p := by
  simp only [catalog, List.mem_cons, List.not_mem_nil, or_false] at h
  rcases h with rfl | rfl | rfl | rfl | rfl | rfl | rfl | rfl | rfl | rfl | rfl | rfl <;> rfl

/-- A formula gives a value for as many bytes as it consumes. -/
theorem Formula.exists_value {f : Formula} {bytes : List UInt8} (h : bytes.length = f.byteCount) :
    ∃ value, f.value? bytes = some value := by
  cases f with
  | ofByte value =>
    match bytes, h with
    | [a], _ => exact ⟨value a, rfl⟩
  | ofWord value =>
    match bytes, h with
    | [a, b], _ => exact ⟨value a b, rfl⟩

/-- What data bytes say of a parameter, by its number. Whole quantities are computed in whole numbers,
the others in doubles. -/
inductive Measures : Pid → List UInt8 → Float → Prop where
  | engineLoad (a : UInt8) : Measures 0x04 [a] (Float.ofNat a.toNat * 100.0 / 255.0)
  | coolantTemperature (a : UInt8) : Measures 0x05 [a] (Float.ofInt (a.toNat - 40))
  | shortFuelTrim (a : UInt8) : Measures 0x06 [a] ((Float.ofNat a.toNat - 128.0) * 100.0 / 128.0)
  | longFuelTrim (a : UInt8) : Measures 0x07 [a] ((Float.ofNat a.toNat - 128.0) * 100.0 / 128.0)
  | fuelPressure (a : UInt8) : Measures 0x0A [a] (Float.ofNat (3 * a.toNat))
  | manifoldPressure (a : UInt8) : Measures 0x0B [a] (Float.ofNat a.toNat)
  | engineSpeed (a b : UInt8) : Measures 0x0C [a, b] (Float.ofNat ((256 * a.toNat + b.toNat) / 4))
  | vehicleSpeed (a : UInt8) : Measures 0x0D [a] (Float.ofNat a.toNat)
  | intakeTemperature (a : UInt8) : Measures 0x0F [a] (Float.ofInt (a.toNat - 40))
  | airFlow (a b : UInt8) :
    Measures 0x10 [a, b] ((Float.ofNat a.toNat * 256.0 + Float.ofNat b.toNat) / 100.0)
  | throttlePosition (a : UInt8) : Measures 0x11 [a] (Float.ofNat a.toNat * 100.0 / 255.0)
  | oxygenVoltage (a : UInt8) : Measures 0x14 [a] (Float.ofNat a.toNat / 200.0)

/-- Whatever the data bytes are, the formula computes what they say of a parameter. -/
def Formula.Computes (pid : Pid) : Formula → Prop
  | .ofByte value => ∀ a, Measures pid [a] (value a)
  | .ofWord value => ∀ a b, Measures pid [a, b] (value a b)

theorem Formula.Computes.measures {f : Formula} {pid : Pid} {bytes : List UInt8} {value : Float}
    (computes : f.Computes pid) (h : f.value? bytes = some value) : Measures pid bytes value := by
  cases f with
  | ofByte g =>
    match bytes, h with
    | [a], rfl => exact computes a
  | ofWord g =>
    match bytes, h with
    | [a, b], rfl => exact computes a b

/-- Every parameter of the catalog has the formula of what its bytes say. -/
theorem computes_of_mem {p : Parameter} (h : p ∈ catalog) : p.formula.Computes p.pid := by
  simp only [catalog, List.mem_cons, List.not_mem_nil, or_false] at h
  rcases h with rfl | rfl | rfl | rfl | rfl | rfl | rfl | rfl | rfl | rfl | rfl | rfl
  · exact Measures.engineSpeed
  · exact Measures.vehicleSpeed
  · exact Measures.coolantTemperature
  · exact Measures.throttlePosition
  · exact Measures.intakeTemperature
  · exact Measures.airFlow
  · exact Measures.fuelPressure
  · exact Measures.oxygenVoltage
  · exact Measures.engineLoad
  · exact Measures.shortFuelTrim
  · exact Measures.longFuelTrim
  · exact Measures.manifoldPressure

theorem Measures.exists_parameter {pid : Pid} {bytes : List UInt8} {value : Float}
    (h : Measures pid bytes value) :
    ∃ p, parameter? pid = some p ∧ p.formula.value? bytes = some value := by
  cases h <;> exact ⟨_, rfl, rfl⟩

/-- Bytes say no more than one thing of a parameter. -/
theorem Measures.unique {pid : Pid} {bytes : List UInt8} {value value' : Float}
    (h : Measures pid bytes value) (h' : Measures pid bytes value') : value = value' := by
  obtain ⟨p, hp, hvalue⟩ := h.exists_parameter
  obtain ⟨p', hp', hvalue'⟩ := h'.exists_parameter
  obtain rfl : p = p' := Option.some.inj (hp.symm.trans hp')
  exact Option.some.inj (hvalue.symm.trans hvalue')

/-- A value is computed from the bytes if and only if it is what they say. -/
theorem value?_eq_some_iff {p : Parameter} (h : p ∈ catalog) {bytes : List UInt8} {value : Float} :
    p.formula.value? bytes = some value ↔ Measures p.pid bytes value := by
  constructor
  · exact (computes_of_mem h).measures
  · intro measured
    obtain ⟨q, hq, hvalue⟩ := measured.exists_parameter
    obtain rfl : p = q := Option.some.inj ((parameter?_of_mem h).symm.trans hq)
    exact hvalue

/-- The length byte in front of the echo and the data: the bytes that follow it. -/
def lengthPair (p : Parameter) : List Char := hexPair (UInt8.ofNat (2 + p.formula.byteCount))

/-- The digits of a number and of a length in the catalog: no number begins like an echo, and no
number is the length of its own answer. -/
theorem catalog_digits {p : Parameter} (h : p ∈ catalog) :
    hexDigit (p.pid.toNat / 16) ≠ '4' ∧ lengthPair p ≠ hexPair p.pid ∧
      (lengthPair p).head? = some '0' := by
  have hall : ∀ p ∈ catalog, hexDigit (p.pid.toNat / 16) ≠ '4' ∧ lengthPair p ≠ hexPair p.pid ∧
      (lengthPair p).head? = some '0' := forall_mem_of_all (by decide)
  exact hall p h

theorem digits_echo (pid : Pid) : Digits (echo pid) :=
  Digits.append (a := ['4', '1']) (by decide) (digits_hexPair pid)

/-! ## What stands before the echo -/

/-- What stands before the echo of a parameter on a line of digits. -/
inductive Precedes (p : Parameter) : List Char → Prop where
  /-- Nothing. -/
  | bare : Precedes p []
  /-- An identifier of eleven bits and two digits. -/
  | short {unit : Char} {size : List Char} (hunit : unit ∈ unitDigits) (hsize : Digits size)
    (length_size : size.length = 2) : Precedes p ('7' :: 'E' :: unit :: size)
  /-- An identifier of twenty-nine bits with the address of the sender, and the length. -/
  | long {sender : List Char} (hsender : Digits sender) (length_sender : sender.length = 2) :
    Precedes p (longId ++ sender ++ lengthPair p)
  /-- Six digits behind which the echo has its first place. -/
  | bytes {header : List Char} (hheader : Digits header) (length_header : header.length = 6)
    (first : FirstBehind header (echo p.pid)) : Precedes p header

theorem Precedes.digits {p : Parameter} {header : List Char} (h : Precedes p header) :
    Digits header := by
  cases h with
  | bare => simp [Digits]
  | short hunit hsize _ => exact digits_short hunit hsize
  | long hsender _ => exact (digits_longId.append hsender).append (digits_hexPair _)
  | bytes hheader _ _ => exact hheader

/-- The echo has its first place behind whatever may precede it: no number begins like an echo, and
no number is the length of its own answer. -/
theorem Precedes.firstBehind {p : Parameter} (hp : p ∈ catalog) {header : List Char}
    (h : Precedes p header) : FirstBehind header (echo p.pid) := by
  obtain ⟨hfour, hlength, hzero⟩ := catalog_digits hp
  cases h with
  | bare => exact fun n hn => absurd hn (Nat.not_lt_zero n)
  | short hunit _ hlen => exact firstBehind_short hunit hlen hfour
  | long _ hlen =>
    obtain ⟨low, hpair⟩ : ∃ low, lengthPair p = ['0', low] := by
      unfold lengthPair hexPair at hzero ⊢
      exact ⟨_, by rw [Option.some.inj hzero]⟩
    rw [hpair] at hlength ⊢
    exact firstBehind_long hlen hlength
  | bytes _ _ first => exact first

/-! ## The whole answer -/

/-- A live value is read back from any way to write it: the data bytes in pairs of digits behind the
echo of their parameter and whatever may precede it, more digits on the line, lines before it on
which the echo does not stand, and any lines after it. It is what the bytes say of the parameter. -/
theorem decode?_written {p : Parameter} (hp : p ∈ catalog) (bytes : List UInt8)
    (hcount : bytes.length = p.formula.byteCount) {header more : List Char}
    (hheader : Precedes p header) (hmore : Digits more) {earlier : List (List Char × Char)}
    {later : List Char} (breaks : ∀ line ∈ earlier, isLineBreak line.2 = true)
    (noEcho : ∀ line ∈ earlier, ¬ echo p.pid <:+: compact line.1)
    (hlater : ∀ c ∈ later.head?, isLineBreak c = true) :
    ∃ value, Measures p.pid bytes value ∧
      decode? p.pid (String.ofList (ended earlier ++
        (header ++ (echo p.pid ++ (bytes.flatMap hexPair ++ more)) ++ later))) =
        some ⟨p.pid, p.label, p.unit, value, bytes⟩ := by
  obtain ⟨value, hvalue⟩ := Formula.exists_value hcount
  refine ⟨value, (value?_eq_some_iff hp).mp hvalue, ?_⟩
  have hline := bytesAfter?_line hheader.digits (digits_echo p.pid) (by simp [echo])
    (hheader.firstBehind hp) bytes hmore
  have hfound : bytesAfter? (echo p.pid) p.formula.byteCount (ended earlier ++
      (header ++ (echo p.pid ++ (bytes.flatMap hexPair ++ more)) ++ later)) = some bytes := by
    rw [bytesAfter?_ended _ breaks noEcho, ← hcount]
    exact bytesAfter?_of_first hline hlater
  rw [decode?, parameter?_of_mem hp, Option.bind_some, Parameter.decode?, String.toList_ofList,
    hfound, Option.bind_some, Parameter.reading?, hvalue, Option.map_some]

/-- The engine speed behind an identifier of twenty-nine bits whose sender has the address `41`, as
an echo begins, after a line of progress and before a line that is cut off. -/
theorem decode?_written_by_sender_41 :
    let p : Parameter := ⟨0x0C, "RPM", "rpm", .ofWord fun a b => Float.ofNat (engineSpeed a b)⟩
    let earlier := [(['S', 'E', 'A', 'R', 'C', 'H', 'I', 'N', 'G'], '\r')]
    let header := longId ++ ['4', '1'] ++ lengthPair p
    p ∈ catalog ∧ Precedes p header ∧
      (∀ line ∈ earlier, isLineBreak line.2 = true) ∧
      (∀ line ∈ earlier, ¬ echo p.pid <:+: compact line.1) ∧
      decode? p.pid (String.ofList (ended earlier ++
        (header ++ (echo p.pid ++ ([0x1A, 0xF8].flatMap hexPair ++ ['5', '5'])) ++
          ['\r', '4', '1', '0']))) =
        some ⟨0x0C, "RPM", "rpm", Float.ofNat 1726, [0x1A, 0xF8]⟩ := by
  intro p earlier header
  have hp : p ∈ catalog := List.mem_cons_self
  have hheader : Precedes p header := .long (by decide) rfl
  have breaks : ∀ line ∈ earlier, isLineBreak line.2 = true := by decide
  have noEcho : ∀ line ∈ earlier, ¬ echo p.pid <:+: compact line.1 := by decide
  have atEnd : ∀ c ∈ ['\r', '4', '1', '0'].head?, isLineBreak c = true := by
    rintro _ ⟨⟩
    rfl
  have hmore : Digits ['5', '5'] := by decide
  obtain ⟨value, measured, decoded⟩ :=
    decode?_written hp [0x1A, 0xF8] rfl hheader hmore breaks noEcho atEnd
  have speed : value = Float.ofNat 1726 := measured.unique (.engineSpeed 0x1A 0xF8)
  exact ⟨hp, hheader, breaks, noEcho, speed ▸ decoded⟩

end ScanTool.Live
