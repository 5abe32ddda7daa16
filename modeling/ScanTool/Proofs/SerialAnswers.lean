import ScanTool.Adapter.Bench
import ScanTool.Proofs.CarriedOut

/-!
# Answers over a serial line

The bytes of an answer arrive in reads of any size, and a read may end anywhere, also inside a
character or before the prompt. The line puts the reads together before it looks for the prompt and
before it decodes, so an exchange depends on the bytes alone. `Brings` says that reads bring certain
bytes, however they are cut; what an exchange makes of them is shown for a line over any port, and
from that what a whole conversation comes to.
-/

namespace ScanTool

open ScanTool.Text

variable {π : Type}

/-- The reads bring the bytes in one piece or in several, none of them empty, and leave the port
`after`. What could be read later does not matter. -/
inductive Brings : List (Arrival × π) → List UInt8 → π → Prop
  | last {piece : List UInt8} {p : π} {later : List (Arrival × π)} (ne : piece ≠ []) :
    Brings ((.bytes piece, p) :: later) piece p
  | more {piece bytes : List UInt8} {p after : π} {reads : List (Arrival × π)} (ne : piece ≠ [])
    (rest : Brings reads bytes after) : Brings ((.bytes piece, p) :: reads) (piece ++ bytes) after

/-- The reads come to the end of the line without having brought a prompt, and leave the port
`after`. -/
inductive HangsUp : List (Arrival × π) → π → Prop
  | now {p : π} {later : List (Arrival × π)} : HangsUp ((.ended, p) :: later) p
  | more {piece : List UInt8} {p after : π} {reads : List (Arrival × π)} (no : prompt ∉ piece)
    (rest : HangsUp reads after) : HangsUp ((.bytes piece, p) :: reads) after

/-! ## One exchange -/

variable {reads : List (Arrival × π)} {bytes text sofar : List UInt8} {after last : π} {timeout : Nat}

theorem Brings.ne_nil (h : Brings reads bytes after) : bytes ≠ [] := by
  cases h with
  | last ne => exact ne
  | more ne rest => exact List.append_ne_nil_of_left_ne_nil ne _

/-- If a piece and something after it end in the first prompt, the piece lies before the prompt. -/
theorem split_before_prompt {piece rest : List UInt8} (ne : rest ≠ [])
    (h : piece ++ rest = text ++ [prompt]) :
    ∃ text', text = piece ++ text' ∧ rest = text' ++ [prompt] := by
  have split : rest.dropLast ++ [rest.getLast ne] = rest := List.dropLast_concat_getLast ne
  rw [← split, ← List.append_assoc] at h
  obtain ⟨front, byte⟩ := List.append_inj' h rfl
  refine ⟨rest.dropLast, front.symm, ?_⟩
  rw [← split, byte, List.dropLast_concat]

theorem takeWhile_to_prompt (no : prompt ∉ text) :
    (text ++ [prompt]).takeWhile (· != prompt) = text := by
  have all : ∀ b ∈ text, (b != prompt) = true := fun b mem => bne_iff_ne.mpr fun e => no (e ▸ mem)
  rw [List.takeWhile_append_of_pos all]
  simp

/-- The bytes before the prompt are collected from the pieces, whatever the cut. -/
theorem collect_of_brings (h : Brings reads bytes after) (hbytes : bytes = text ++ [prompt])
    (no : prompt ∉ sofar ++ text) :
    collect timeout sofar last reads = (.ok (sofar ++ text), after) := by
  -- every piece moves from what is to come into what was read so far
  induction h generalizing sofar text with
  | @last piece p later ne =>
    have found : (sofar ++ piece).contains prompt = true := by simp [hbytes]
    unfold collect
    rw [if_pos found, hbytes, ← List.append_assoc, takeWhile_to_prompt no]
  | @more piece bytes p after reads ne rest ih =>
    obtain ⟨text', rfl, hrest⟩ := split_before_prompt rest.ne_nil hbytes
    rw [← List.append_assoc] at no
    have missing : (sofar ++ piece).contains prompt = false := by
      have none : prompt ∉ sofar ++ piece := fun mem => no (List.mem_append_left _ mem)
      simpa using none
    unfold collect
    rw [missing]
    have later := ih hrest no
    rw [List.append_assoc] at later
    exact later

/-- A line that ends before the prompt is gone, whatever was read. -/
theorem collect_of_hangsUp (h : HangsUp reads after) (no : prompt ∉ sofar) :
    collect timeout sofar last reads = (.error .disconnected, after) := by
  induction h generalizing sofar with
  | now => rfl
  | @more piece p after reads unprompted rest ih =>
    have none : prompt ∉ sofar ++ piece := by
      simp [no, unprompted]
    have missing : (sofar ++ piece).contains prompt = false := by simpa using none
    unfold collect
    rw [missing]
    exact ih none

/-! ## A conversation -/

/-- One exchange of a conversation: what is asked, and what the adapter says before its prompt, unless
it hangs up before that. -/
structure Turn where
  /-- The request. -/
  request : String
  /-- The bytes before the prompt, if the prompt comes. -/
  answer : Option (List UInt8)

/-- What an exchange of the turn gives. -/
def Turn.result (t : Turn) : Except AdapterError String :=
  match t.answer with
  | some text => .ok (utf8Lossy text)
  | none => .error .disconnected

variable [Port π]

/-- The adapter behind a port has its turns: each request can be written, and after the wait for the
answer the reads within the time allowed bring the answer with the only prompt at its end, in whatever
pieces, or come to the end of the line before a prompt. -/
inductive Serves (settleDelay readTimeout : Nat) : π → List Turn → Prop
  | nothing {p : π} : Serves settleDelay readTimeout p []
  | answered {p written after : π} {request : String} {text : List UInt8} {rest : List Turn}
    (once : prompt ∉ text) (writes : Port.write (requestBytes request) p = (.ok (), written))
    (brings : Brings (Port.reads readTimeout (Port.pause settleDelay written)).1 (text ++ [prompt])
      after)
    (later : Serves settleDelay readTimeout after rest) :
    Serves settleDelay readTimeout p (⟨request, some text⟩ :: rest)
  | hungUp {p written after : π} {request : String} {rest : List Turn}
    (writes : Port.write (requestBytes request) p = (.ok (), written))
    (ends : HangsUp (Port.reads readTimeout (Port.pause settleDelay written)).1 after)
    (later : Serves settleDelay readTimeout after rest) :
    Serves settleDelay readTimeout p (⟨request, none⟩ :: rest)

namespace SerialLine

/-- An exchange over an open line gives what is collected from the reads. -/
theorem exchange_of_collect {line : SerialLine π} {request : String} {written after : π}
    {result : Except AdapterError (List UInt8)} (isOpen : line.isOpen = true)
    (writes : Port.write (requestBytes request) line.port = (.ok (), written))
    (collected : collect line.readTimeout []
      (Port.reads line.readTimeout (Port.pause line.settleDelay written)).2
      (Port.reads line.readTimeout (Port.pause line.settleDelay written)).1 = (result, after)) :
    Channel.exchange request line = (result.map utf8Lossy, { line with port := after }) := by
  show line.exchange request = _
  unfold exchange
  rw [if_pos isOpen, writes]
  simp only [collected]
  cases result with
  | error e => rfl
  | ok bytes => rfl

theorem carryOut_of_serves {p : π} {settleDelay readTimeout : Nat} {turns : List Turn}
    (h : Serves settleDelay readTimeout p turns) (device : String) :
    (carryOut (fun line request => Channel.exchange request line)
      (⟨device, p, true, settleDelay, readTimeout⟩ : SerialLine π) (turns.map (·.request))).1 =
      turns.map fun t => (t.request, t.result) := by
  induction h with
  | nothing => rfl
  | @answered p written after request text rest once writes brings later ih =>
    have collected : collect readTimeout [] (Port.reads readTimeout (Port.pause settleDelay written)).2
        (Port.reads readTimeout (Port.pause settleDelay written)).1 = (.ok text, after) :=
      collect_of_brings brings rfl once
    rw [List.map_cons, carryOut_cons_fst, exchange_of_collect rfl writes collected, ih]
    rfl
  | @hungUp p written after request rest writes ends later ih =>
    have collected : collect readTimeout [] (Port.reads readTimeout (Port.pause settleDelay written)).2
        (Port.reads readTimeout (Port.pause settleDelay written)).1 = (.error .disconnected, after) :=
      collect_of_hangsUp ends List.not_mem_nil
    rw [List.map_cons, carryOut_cons_fst, exchange_of_collect rfl writes collected, ih]
    rfl

/-- Answers do not depend on the cuts of the bytes. Over an open line, every exchange of a conversation
gives the reading of the bytes before the prompt, in whatever pieces they came, and an exchange in which
the line ends before the prompt finds it gone, whatever was read. -/
theorem exchanges_answered (line : SerialLine π) (isOpen : line.isOpen = true) (turns : List Turn)
    (serves : Serves line.settleDelay line.readTimeout line.port turns) :
    (carryOut (fun line request => Channel.exchange request line) line (turns.map (·.request))).1 =
      turns.map fun t => (t.request, t.result) := by
  obtain ⟨device, port, opened, settleDelay, readTimeout⟩ := line
  obtain rfl : opened = true := isOpen
  exact carryOut_of_serves serves device

/-- On the bench, an answer is cut inside a character and before the prompt, and the adapter hangs up
in the middle of the next. -/
theorem exchanges_answered_on_bench :
    let answers := [("AT@1", [[75, 0xC3], [0xA4, 102], [62]]), ("ATDP", [[65, 85]])]
    let adapter (received : List String) (queue : List UInt8) (plan : List (Nat × BenchEvent))
      (freeAt now : Nat) (listens isUp : Bool) : Bench :=
      ⟨answers, [], some "ATDP", queue, plan, freeAt, listens, isUp, [], received, now⟩
    let line : SerialLine Bench := ⟨"ttyUSB0", adapter [] [] [] 0 0 true true, true, 0, 3000⟩
    let turns : List Turn := [⟨"AT@1", some [75, 0xC3, 0xA4, 102]⟩, ⟨"ATDP", none⟩]
    Serves line.settleDelay line.readTimeout line.port turns ∧
      (carryOut (fun line request => Channel.exchange request line) line ["AT@1", "ATDP"]).1 =
        [("AT@1", .ok "Käf"), ("ATDP", .error .disconnected)] := by
  intro answers adapter line turns
  have bytes : requestBytes "AT@1" = [65, 84, 64, 49, 13] := by decide +kernel
  have asked : Port.write (requestBytes "AT@1") (adapter [] [] [] 0 0 true true) =
      (.ok (), adapter ["AT@1"] [75, 0xC3] [(4, .send [0xA4, 102]), (8, .send [62])] 8 0 true true) := by
    rw [bytes]
    rfl
  have pieces : (Port.reads 3000 (Port.pause 0 (adapter ["AT@1"] [75, 0xC3]
      [(4, .send [0xA4, 102]), (8, .send [62])] 8 0 true true))).1 =
      [(.bytes [75, 0xC3], adapter ["AT@1"] []
          [(4, .send [0xA4, 102]), (8, .send [62])] 8 0 true true),
        (.bytes [0xA4, 102], adapter ["AT@1"] [] [(8, .send [62])] 8 4 true true),
        (.bytes [62], adapter ["AT@1"] [] [] 8 8 true true)] := rfl
  have nextBytes : requestBytes "ATDP" = [65, 84, 68, 80, 13] := by decide +kernel
  have askedNext : Port.write (requestBytes "ATDP") (adapter ["AT@1"] [] [] 8 8 true true) =
      (.ok (), adapter ["ATDP", "AT@1"] [65, 85] [(16, .hangUp)] 8 8 false true) := by
    rw [nextBytes]
    rfl
  have cutOff : (Port.reads 3000 (Port.pause 0 (adapter ["ATDP", "AT@1"] [65, 85] [(16, .hangUp)] 8 8
      false true))).1 =
      [(.bytes [65, 85], adapter ["ATDP", "AT@1"] [] [(16, .hangUp)] 8 8 false true),
        (.ended, adapter ["ATDP", "AT@1"] [] [] 8 16 false false)] := rfl
  have hungUp : Serves 0 3000 (adapter ["AT@1"] [] [] 8 8 true true) [⟨"ATDP", none⟩] := by
    have ends : HangsUp [(.bytes [65, 85], adapter ["ATDP", "AT@1"] [] [(16, .hangUp)] 8 8 false true),
        (.ended, adapter ["ATDP", "AT@1"] [] [] 8 16 false false)]
        (adapter ["ATDP", "AT@1"] [] [] 8 16 false false) := .more (by decide) .now
    exact .hungUp askedNext (cutOff ▸ ends) .nothing
  have serves : Serves 0 3000 line.port turns := by
    refine .answered (by decide) asked ?_ hungUp
    rw [pieces]
    exact .more (by decide) (.more (by decide) (.last (by decide)))
  exact ⟨serves, exchanges_answered line rfl turns serves⟩

end SerialLine

end ScanTool
