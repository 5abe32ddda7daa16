import ScanTool.Json.Printer
import ScanTool.Json.Reader

/-!
# Written JSON is read back

A value made of strings, arrays and objects is read back from its written form, in one line or over
several. Between the two stands the list of its tokens: the writer's characters pass the tokenizer
from between tokens to between tokens and complete exactly these, whatever the indentation; and where a
value is awaited, these tokens deliver it to the container around it. Numbers and words are left out,
because they end only with the character that follows them.
-/

namespace ScanTool.Json

open ScanTool.Text (hexValue?)

/-! ## Runs of the tokenizer -/

/-- The characters take the tokenizer from one state to another and complete the tokens. -/
inductive Lexes : Mode → List Char → List Token → Mode → Prop where
  | nil (mode : Mode) : Lexes mode [] [] mode
  | cons {mode mode' mode'' : Mode} {c : Char} {cs : List Char} {ts ts' : List Token}
    (first : step mode c = some (ts, mode')) (rest : Lexes mode' cs ts' mode'') :
    Lexes mode (c :: cs) (ts ++ ts') mode''

section

variable {mode mode' mode'' : Mode} {c : Char} {cs cs' : List Char} {ts ts' : List Token}

theorem Lexes.char (h : step mode c = some (ts, mode')) : Lexes mode [c] ts mode' := by
  have run := Lexes.cons h (.nil mode')
  rwa [List.append_nil] at run

theorem Lexes.append (h : Lexes mode cs ts mode') (h' : Lexes mode' cs' ts' mode'') :
    Lexes mode (cs ++ cs') (ts ++ ts') mode'' := by
  induction h with
  | nil mode => exact h'
  | cons first _ ih =>
    rw [List.append_assoc]
    exact .cons first (ih h')

/-- A character that completes no token. -/
theorem Lexes.within (h : step mode c = some ([], mode')) (rest : Lexes mode' cs ts mode'') :
    Lexes mode (c :: cs) ts mode'' := .cons h rest

/-- A character that is a token. -/
theorem Lexes.mark {t : Token} (h : step mode c = some ([t], mode'))
    (rest : Lexes mode' cs ts mode'') : Lexes mode (c :: cs) (t :: ts) mode'' := .cons h rest

/-- Characters between two that are tokens. -/
theorem Lexes.enclosed {left right : Char} {t t' : Token}
    (hleft : step .between left = some ([t], .between)) (inside : Lexes .between cs ts .between)
    (hright : step .between right = some ([t'], .between)) :
    Lexes .between (left :: cs ++ [right]) (t :: ts ++ [t']) .between :=
  (Lexes.mark hleft inside).append (.char hright)

theorem Lexes.tokensFrom (h : Lexes mode cs ts mode') :
    tokensFrom mode cs = (finish mode').map (ts ++ ·) := by
  induction h with
  | nil mode =>
    unfold Json.tokensFrom
    simp
  | @cons mode mode' mode'' c cs ts ts' first _ ih =>
    unfold Json.tokensFrom
    rw [first]
    simp [ih, Function.comp_def]

theorem Lexes.tokens? (h : Lexes .between cs ts .between) : tokens? cs = some ts := by
  unfold Json.tokens?
  rw [h.tokensFrom]
  show some (ts ++ []) = some ts
  rw [List.append_nil]

end

/-! ## Strings -/

theorem hexValue?_digitChar {n : Nat} (h : n < 16) : hexValue? (Nat.digitChar n) = some n := by
  have all : ∀ n < 16, hexValue? (Nat.digitChar n) = some n := by decide
  exact all n h

/-- A character is read from a backslash and the letter that stands for it. -/
theorem lexes_shortEscape (done : List Char) {c letter : Char} (short : shortEscape? letter = some c) :
    Lexes (.text done) ['\\', letter] [] (.text (c :: done)) := by
  have named : letter ≠ 'u' := by
    rintro rfl
    have unnamed : shortEscape? 'u' = none := by decide
    exact Option.some_ne_none c (short.symm.trans unnamed)
  have next : step (.escape done) letter = some ([], .text (c :: done)) := by
    simp only [step, if_neg named, short, Option.map_some]
  exact .within rfl (.char next)

/-- A control character is read from the two digits of its code point. -/
theorem lexes_control (done : List Char) {c : Char} (control : c.toNat < 0x20) :
    Lexes (.text done)
      ['\\', 'u', '0', '0', Nat.digitChar (c.toNat / 16), Nat.digitChar (c.toNat % 16)] []
      (.text (c :: done)) := by
  have high := hexValue?_digitChar (n := c.toNat / 16) (by omega)
  have low := hexValue?_digitChar (n := c.toNat % 16) (by omega)
  have whole : 16 * (c.toNat / 16) + c.toNat % 16 = c.toNat := by omega
  have finished : finishUnit done none c.toNat = some (.text (c :: done)) := by
    unfold finishUnit
    rw [if_neg (by omega), if_neg (by omega), Char.ofNat_toNat]
  have first : step (.unit done none 2 0) (Nat.digitChar (c.toNat / 16)) =
      some ([], .unit done none 3 (c.toNat / 16)) := by
    simp [step, high]
  have second : step (.unit done none 3 (c.toNat / 16)) (Nat.digitChar (c.toNat % 16)) =
      some ([], .text (c :: done)) := by
    simp [step, low, whole, finished]
  exact .within rfl (.within rfl (.within rfl (.within rfl (.within first (.char second)))))

/-- A character of a string is read from its written form. -/
theorem lexes_escapeChar (done : List Char) (c : Char) :
    Lexes (.text done) (escapeChar c) [] (.text (c :: done)) := by
  unfold escapeChar
  split
  · subst c
    exact lexes_shortEscape done rfl
  split
  · subst c
    exact lexes_shortEscape done rfl
  split
  · subst c
    exact lexes_shortEscape done rfl
  split
  · subst c
    exact lexes_shortEscape done rfl
  split
  · subst c
    exact lexes_shortEscape done rfl
  split
  · subst c
    exact lexes_shortEscape done rfl
  split
  · subst c
    exact lexes_shortEscape done rfl
  split
  · rename_i control
    exact lexes_control done control
  · rename_i quote backslash _ _ _ _ _ plain
    refine .char ?_
    simp only [step, if_neg quote, if_neg backslash, if_neg plain]

theorem lexes_escaped (done cs : List Char) :
    Lexes (.text done) (cs.flatMap escapeChar) [] (.text (cs.reverse ++ done)) := by
  induction cs generalizing done with
  | nil => exact .nil _
  | cons c cs ih =>
    have rest := ih (c :: done)
    rw [List.flatMap_cons, List.reverse_cons, List.append_assoc]
    exact (lexes_escapeChar done c).append rest

theorem lexes_writeText (s : String) :
    Lexes .between (writeText s) [.scalar (.text s)] .between := by
  have close : step (.text (s.toList.reverse ++ [])) '"' =
      some ([.scalar (.text s)], .between) := by
    simp [step]
  have body := (lexes_escaped [] s.toList).append (.char close)
  exact .within rfl body

/-! ## Values -/

/-- A value made of strings, arrays and objects, with containers at most `depth` deep. -/
inductive Textual : Nat → Json → Prop where
  | text (depth : Nat) (s : String) : Textual depth (.text s)
  | list {depth : Nat} {items : List Json} (each : ∀ v ∈ items, Textual depth v) :
    Textual (depth + 1) (.list items)
  | object {depth : Nat} {members : List (String × Json)}
    (each : ∀ m ∈ members, Textual depth m.2) : Textual (depth + 1) (.object members)

/-- The comma before each item or member but the first. -/
def separator (first : Bool) : List Token := if first then [] else [.comma]

mutual

/-- The tokens of a value. -/
def tokensOf : Json → List Token
  | .list items => .openList :: itemTokens true items ++ [.closeList]
  | .object members => .openObject :: memberTokens true members ++ [.closeObject]
  | v => [.scalar v]

/-- The tokens of the items of an array. -/
def itemTokens (first : Bool) : List Json → List Token
  | [] => []
  | v :: rest => separator first ++ tokensOf v ++ itemTokens false rest

/-- The tokens of the members of an object. -/
def memberTokens (first : Bool) : List (String × Json) → List Token
  | [] => []
  | (k, v) :: rest =>
    separator first ++ .scalar (.text k) :: .colon :: tokensOf v ++ memberTokens false rest

end

/-- The characters are a value that stands between tokens. -/
def Writes (cs : List Char) (v : Json) : Prop := Lexes .between cs (tokensOf v) .between

section

variable {depth : Nat} {v : Json} {items : List Json} {members : List (String × Json)}

theorem lexes_separator (first : Bool) :
    Lexes .between (if first then [] else [',']) (separator first) .between := by
  cases first with
  | true => exact .nil _
  | false => exact .char rfl

theorem lexes_blanks {cs : List Char} (h : ∀ c ∈ cs, c = ' ' ∨ c = '\n' ∨ c = '\r' ∨ c = '\t') :
    Lexes .between cs [] .between := by
  induction cs with
  | nil => exact .nil _
  | cons c cs ih =>
    have blank : step .between c = some ([], .between) := if_pos (h c List.mem_cons_self)
    exact .within blank (ih fun d hd => h d (List.mem_cons_of_mem c hd))

theorem lexes_newLine (level : Nat) : Lexes .between (newLine level) [] .between := by
  refine lexes_blanks fun c mem => ?_
  rcases List.mem_cons.mp mem with rfl | mem
  · exact Or.inr (Or.inl rfl)
  · exact Or.inl (List.eq_of_mem_replicate mem)

/-! ### In one line -/

theorem lexes_writeItems (first : Bool) (each : ∀ v ∈ items, Writes (write v) v) :
    Lexes .between (writeItems first items) (itemTokens first items) .between := by
  induction items generalizing first with
  | nil => exact .nil _
  | cons v rest ih =>
    have head := each v List.mem_cons_self
    have tail := ih false fun w mem => each w (List.mem_cons_of_mem v mem)
    exact ((lexes_separator first).append head).append tail

theorem lexes_writeMembers (first : Bool) (each : ∀ m ∈ members, Writes (write m.2) m.2) :
    Lexes .between (writeMembers first members) (memberTokens first members) .between := by
  induction members generalizing first with
  | nil => exact .nil _
  | cons m rest ih =>
    obtain ⟨k, v⟩ := m
    have value : Writes (write v) v := each (k, v) List.mem_cons_self
    have tail := ih false fun w mem => each w (List.mem_cons_of_mem _ mem)
    have bound : Lexes .between (writeText k ++ ':' :: write v)
        (.scalar (.text k) :: .colon :: tokensOf v) .between :=
      (lexes_writeText k).append (.mark rfl value)
    have all := ((lexes_separator first).append bound).append tail
    rwa [← List.append_assoc] at all

theorem writes_write (h : Textual depth v) : Writes (write v) v := by
  induction h with
  | text depth s => exact lexes_writeText s
  | list _ ih => exact .enclosed rfl (lexes_writeItems true ih) rfl
  | object _ ih => exact .enclosed rfl (lexes_writeMembers true ih) rfl

/-! ### Over several lines -/

theorem lexes_writeTallItems (level : Nat) (first : Bool)
    (each : ∀ v ∈ items, ∀ level, Writes (writeTall level v) v) :
    Lexes .between (writeTallItems level first items) (itemTokens first items) .between := by
  induction items generalizing first with
  | nil => exact .nil _
  | cons v rest ih =>
    have head := each v List.mem_cons_self level
    have tail := ih false fun w mem => each w (List.mem_cons_of_mem v mem)
    have all := (((lexes_separator first).append (lexes_newLine level)).append head).append tail
    rwa [List.append_nil] at all

theorem lexes_writeTallMembers (level : Nat) (first : Bool)
    (each : ∀ m ∈ members, ∀ level, Writes (writeTall level m.2) m.2) :
    Lexes .between (writeTallMembers level first members) (memberTokens first members) .between := by
  induction members generalizing first with
  | nil => exact .nil _
  | cons m rest ih =>
    obtain ⟨k, v⟩ := m
    have value : Writes (writeTall level v) v := each (k, v) List.mem_cons_self level
    have tail := ih false fun w mem => each w (List.mem_cons_of_mem _ mem)
    have bound : Lexes .between (newLine level ++ writeText k ++ ':' :: ' ' :: writeTall level v)
        (.scalar (.text k) :: .colon :: tokensOf v) .between :=
      ((lexes_newLine level).append (lexes_writeText k)).append (.mark rfl (.within rfl value))
    have all := ((lexes_separator first).append bound).append tail
    rwa [← List.append_assoc, ← List.append_assoc] at all

theorem writes_writeTall (h : Textual depth v) (level : Nat) : Writes (writeTall level v) v := by
  induction h generalizing level with
  | text depth s => exact lexes_writeText s
  | @list depth items _ ih =>
    cases items with
    | nil => exact .enclosed rfl (.nil _) rfl
    | cons v rest =>
      have inside := (lexes_writeTallItems (level + 1) true ih).append (lexes_newLine level)
      rw [List.append_nil] at inside
      exact .enclosed rfl inside rfl
  | @object depth members _ ih =>
    cases members with
    | nil => exact .enclosed rfl (.nil _) rfl
    | cons m rest =>
      have inside := (lexes_writeTallMembers (level + 1) true ih).append (lexes_newLine level)
      rw [List.append_nil] at inside
      exact .enclosed rfl inside rfl

theorem writes_compact (h : Textual depth v) : Writes v.compact.toList v := by
  unfold compact
  rw [String.toList_ofList]
  exact writes_write h

theorem writes_pretty (h : Textual depth v) : Writes v.pretty.toList v := by
  unfold pretty
  rw [String.toList_ofList]
  exact writes_writeTall h 0

/-! ## Reading the tokens -/

theorem run_append {s s' : State} {ts ts' : List Token} (h : s.run ts = some s') :
    s.run (ts ++ ts') = s'.run ts' := by
  induction ts generalizing s with
  | nil =>
    obtain rfl : s = s' := Option.some.inj h
    rfl
  | cons t ts ih =>
    unfold State.run at h
    rw [List.cons_append, State.run]
    cases ht : s.take t with
    | none =>
      rw [ht] at h
      cases h
    | some next =>
      rw [ht] at h
      exact ih h

theorem run_single {s s' : State} {t : Token} (h : s.take t = some s') : s.run [t] = some s' := by
  rw [State.run, h]
  rfl

/-- Where a value is awaited the tokens deliver it to the container around it. -/
def Delivers (stack : List Frame) (v : Json) : Prop :=
  (State.value stack).run (tokensOf v) = some (deliver stack v)

theorem run_items {stack : List Frame} (each : ∀ v ∈ items, ∀ done, Delivers (.list done :: stack) v)
    (done : List Json) : (State.listNext stack done).run (itemTokens false items) =
      some (.listNext stack (items.reverse ++ done)) := by
  induction items generalizing done with
  | nil => rfl
  | cons v rest ih =>
    have head : (State.listNext stack done).run (.comma :: tokensOf v) =
        some (.listNext stack (v :: done)) := each v List.mem_cons_self done
    have tail := ih (fun w mem => each w (List.mem_cons_of_mem v mem)) (v :: done)
    rw [List.reverse_cons, List.append_assoc]
    exact (run_append head).trans tail

theorem run_member {stack : List Frame} {done : List (String × Json)} {name : String}
    (h : Delivers (.object done name :: stack) v) :
    (State.name stack done).run (.scalar (.text name) :: .colon :: tokensOf v) =
      some (.objectNext stack ((name, v) :: done)) := h

theorem run_members {stack : List Frame}
    (each : ∀ m ∈ members, ∀ done name, Delivers (.object done name :: stack) m.2)
    (done : List (String × Json)) : (State.objectNext stack done).run (memberTokens false members) =
      some (.objectNext stack (members.reverse ++ done)) := by
  induction members generalizing done with
  | nil => rfl
  | cons m rest ih =>
    obtain ⟨k, v⟩ := m
    have head : (State.objectNext stack done).run (.comma :: .scalar (.text k) :: .colon :: tokensOf v) =
        some (.objectNext stack ((k, v) :: done)) := run_member (each (k, v) List.mem_cons_self done k)
    have tail := ih (fun w mem => each w (List.mem_cons_of_mem _ mem)) ((k, v) :: done)
    rw [List.reverse_cons, List.append_assoc]
    exact (run_append head).trans tail

/-- An array waits for its first item as it waits for any other, except that it may end instead. -/
theorem run_listStart (stack : List Frame) (v : Json) (ts : List Token) :
    (State.listStart stack).run (tokensOf v ++ ts) =
      (State.value (.list [] :: stack)).run (tokensOf v ++ ts) := by
  cases v <;> rfl

theorem delivers_list {stack : List Frame} (room : stack.length < depthLimit)
    (each : ∀ v ∈ items, ∀ done, Delivers (.list done :: stack) v) : Delivers stack (.list items) := by
  have opened : (State.value stack).run [.openList] = some (.listStart stack) :=
    run_single (if_pos room)
  have inside : (State.listStart stack).run (itemTokens true items ++ [.closeList]) =
      some (deliver stack (.list items)) := by
    cases items with
    | nil => rfl
    | cons v rest =>
      have head : (State.value (.list [] :: stack)).run (tokensOf v) = some (.listNext stack [v]) :=
        each v List.mem_cons_self []
      have tail := run_items (fun w mem => each w (List.mem_cons_of_mem v mem)) [v]
      have close : (State.listNext stack (rest.reverse ++ [v])).run [.closeList] =
          some (deliver stack (.list (rest.reverse ++ [v]).reverse)) := rfl
      rw [← List.reverse_cons, List.reverse_reverse] at close
      show (State.listStart stack).run ((tokensOf v ++ itemTokens false rest) ++ [.closeList]) = _
      rw [List.append_assoc, run_listStart, run_append head, run_append tail, ← List.reverse_cons]
      exact close
  exact (run_append opened).trans inside

theorem delivers_object {stack : List Frame} (room : stack.length < depthLimit)
    (each : ∀ m ∈ members, ∀ done name, Delivers (.object done name :: stack) m.2) :
    Delivers stack (.object members) := by
  have opened : (State.value stack).run [.openObject] = some (.objectStart stack) :=
    run_single (if_pos room)
  have inside : (State.objectStart stack).run (memberTokens true members ++ [.closeObject]) =
      some (deliver stack (.object members)) := by
    cases members with
    | nil => rfl
    | cons m rest =>
      obtain ⟨k, v⟩ := m
      have head : (State.objectStart stack).run (.scalar (.text k) :: .colon :: tokensOf v) =
          some (.objectNext stack [(k, v)]) := run_member (each (k, v) List.mem_cons_self [] k)
      have tail := run_members (fun w mem => each w (List.mem_cons_of_mem _ mem)) [(k, v)]
      have close : (State.objectNext stack (rest.reverse ++ [(k, v)])).run [.closeObject] =
          some (deliver stack (.object (rest.reverse ++ [(k, v)]).reverse)) := rfl
      rw [← List.reverse_cons, List.reverse_reverse] at close
      show (State.objectStart stack).run
        ((.scalar (.text k) :: .colon :: tokensOf v ++ memberTokens false rest) ++ [.closeObject]) = _
      rw [List.append_assoc, run_append head, run_append tail, ← List.reverse_cons]
      exact close
  exact (run_append opened).trans inside

/-- The tokens of a value deliver it, if there is room for its containers. -/
theorem Textual.delivers (h : Textual depth v) {stack : List Frame}
    (room : stack.length + depth ≤ depthLimit) : Delivers stack v := by
  induction h generalizing stack with
  | text depth s => rfl
  | @list depth items _ ih =>
    refine delivers_list (by omega) fun v mem done => ih v mem ?_
    rw [List.length_cons]
    omega
  | @object depth members _ ih =>
    refine delivers_object (by omega) fun m mem done name => ih m mem ?_
    rw [List.length_cons]
    omega

/-- A text whose tokens are those of a value reads as the value. -/
theorem Textual.read? (h : Textual depthLimit v) {s : String} (written : Writes s.toList v) :
    read? s = some v := by
  have delivered : (State.value []).run (tokensOf v) = some (.complete v) :=
    h.delivers (by simp)
  unfold Json.read? ofTokens?
  rw [written.tokens?, Option.bind_some, delivered]

end

end ScanTool.Json
