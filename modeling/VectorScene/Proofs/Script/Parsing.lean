import VectorScene.Script.Grammar

/-!
# Reading the tokens of literals

What is read from the front of a row of tokens does not depend on the names and the functions known
so far, as long as it declares and asks for none.

## Main definitions

* `Reads`: what a step of reading makes of a row of tokens
* `IsItem`: the tokens of an expression, whatever mark ends it
* `spacedTokens`: tokens with commas between them

## Main results

* `isItem_constant`, `isItem_unit`, `isItem_array`, `isItem_call`: literals and calls of them
* `ofText_item`: a script that is one expression
-/

namespace VectorScene.Script

open Parse

/-- A step of reading goes from the one row of tokens to the other, and gives this. -/
def Reads {α : Type} (p : Parser α) (before : List Lexeme) (a : α) (after : List Lexeme) : Prop :=
  ∀ names functions, p ⟨before, names, functions⟩ = .ok (a, ⟨after, names, functions⟩)

section Reads

variable {α β : Type} {before mid after rest : List Lexeme} {first : Lexeme} {line : Nat}
  {token : Token} {mark other : Mark}

theorem Reads.bind {p : Parser α} {f : α → Parser β} {a : α} {b : β} (h : Reads p before a mid)
    (h' : Reads (f a) mid b after) : Reads (p >>= f) before b after := by
  intro names functions
  have hbind : (p >>= f) ⟨before, names, functions⟩ =
      p ⟨before, names, functions⟩ >>= fun s => f s.1 s.2 := rfl
  rw [hbind, h names functions]
  exact h' names functions

theorem reads_pure (a : α) : Reads (pure a) rest a rest := fun _ _ => rfl

theorem reads_peek : Reads peek (first :: rest) first.token (first :: rest) := fun _ _ => rfl

theorem reads_advance : Reads advance (first :: rest) () rest := fun _ _ => rfl

theorem reads_isAt : Reads (isAt mark) (⟨.mark other, line⟩ :: rest) (other == mark)
    (⟨.mark other, line⟩ :: rest) := fun _ _ => rfl

/-- A mark that is asked for is passed. -/
theorem reads_accept : Reads (accept mark) (⟨.mark mark, line⟩ :: rest) true rest := by
  refine reads_isAt.bind ?_
  rw [beq_self_eq_true]
  exact reads_advance.bind (reads_pure true)

/-- A mark that is not there is not passed. -/
theorem reads_accept_other (h : first.token ≠ .mark mark) :
    Reads (accept mark) (first :: rest) false (first :: rest) := by
  have hat : Reads (isAt mark) (first :: rest) false (first :: rest) := by
    refine reads_peek.bind ?_
    split
    · rename_i m heq
      have hm : (m == mark) = false := beq_eq_false_iff_ne.2 fun hm => h (hm ▸ heq)
      rw [hm]
      exact reads_pure false
    · exact reads_pure false
  exact hat.bind (reads_pure false)

theorem reads_require {isRight : Bool} (h : isRight = true) :
    Reads (require isRight) rest () rest := by
  subst h
  exact reads_pure ()

theorem reads_expect : Reads (expect mark) (⟨.mark mark, line⟩ :: rest) () rest :=
  reads_accept.bind (reads_require rfl)

end Reads

/-! ### Items -/

/-- The marks that end an expression. -/
def endMarks : List Mark := [.comma, .closeParen, .closeBracket, .semicolon]

/-- The tokens that an operand without signs starts with. -/
def StartsPrimary (token : Token) : Prop :=
  token ≠ .operator .subtract ∧ token ≠ .operator .add ∧ token ≠ .mark .negation

/-- **An operand** in front of a mark that ends it is an expression. -/
theorem reads_expression {n : Nat} {loop : Bool} {first : Lexeme} {before rest : List Lexeme}
    {e : Expression} {m : Mark} {line : Nat} (hstart : StartsPrimary first.token)
    (hm : m ∈ endMarks)
    (h : Reads (primary (n + 1) loop) (first :: before) e (⟨.mark m, line⟩ :: rest)) :
    Reads (expression (n + 3) loop) (first :: before) e (⟨.mark m, line⟩ :: rest) := by
  -- the mark is neither an access to the operand nor an operator behind it
  have hmarks : m ≠ .point ∧ m ≠ .openBracket := by
    constructor <;> rintro rfl <;> revert hm <;> decide
  have haccesses : Reads (accesses (n + 1) loop e) (⟨.mark m, line⟩ :: rest) e
      (⟨.mark m, line⟩ :: rest) := by
    rw [accesses]
    refine (reads_accept_other (by simpa using hmarks.1)).bind ?_
    exact (reads_accept_other (by simpa using hmarks.2)).bind (reads_pure e)
  have hoperand : Reads (operand (n + 2) loop) (first :: before) e (⟨.mark m, line⟩ :: rest) := by
    rw [operand]
    refine reads_peek.bind ?_
    obtain ⟨hminus, hplus, hnot⟩ := hstart
    split
    · contradiction
    · contradiction
    · contradiction
    · exact h.bind haccesses
  rw [expression]
  refine hoperand.bind ?_
  rw [operators]
  exact reads_peek.bind (reads_pure e)

/-- The tokens of an expression: what comes behind them does not matter, as long as it is a mark
that ends the expression. -/
structure IsItem (tokens : List Lexeme) (e : Expression) : Prop where
  /-- No item is empty, and none starts with a mark that closes a list. -/
  start : ∃ first rest, tokens = first :: rest ∧ first.token ≠ .mark .closeParen ∧
    first.token ≠ .mark .closeBracket
  read (n : Nat) (loop : Bool) (m : Mark) (line : Nat) (rest : List Lexeme) :
    3 * tokens.length ≤ n → m ∈ endMarks →
    Reads (expression n loop) (tokens ++ ⟨.mark m, line⟩ :: rest) e (⟨.mark m, line⟩ :: rest)

theorem IsItem.length_pos {tokens : List Lexeme} {e : Expression} (h : IsItem tokens e) :
    0 < tokens.length := by
  obtain ⟨first, rest, rfl, -⟩ := h.start
  exact Nat.succ_pos _

/-- The tokens that are constants. -/
inductive IsConstant : Token → Value → Prop
  | bool (b : Bool) : IsConstant (.keyword (if b then .yes else .no)) (.bool b)
  | integer (i : Int64) : IsConstant (.integer i) (.integer i)
  | float (x : Float) : IsConstant (.float x) (.float x)
  | string (s : String) : IsConstant (.string s) (.string s)

theorem reads_constant {token : Token} {v : Value} (h : IsConstant token v) (n line : Nat)
    (loop : Bool) (rest : List Lexeme) :
    Reads (primary (n + 1) loop) (⟨token, line⟩ :: rest) (.literal v) rest := by
  rw [primary]
  refine reads_peek.bind ?_
  cases h with
  | bool b => cases b <;> exact reads_advance.bind (reads_pure _)
  | _ => exact reads_advance.bind (reads_pure _)

/-- **A constant** that is one token. -/
theorem isItem_constant {token : Token} {v : Value} (h : IsConstant token v) (line : Nat) :
    IsItem [⟨token, line⟩] (.literal v) where
  start := ⟨_, [], rfl, by cases h <;> simp, by cases h <;> simp⟩
  read n loop m _ _ hn hm := by
    obtain ⟨n, rfl⟩ : ∃ k, n = k + 3 := ⟨n - 3, by simp at hn; omega⟩
    refine reads_expression ?_ hm (reads_constant h _ _ _ _)
    cases h <;> exact ⟨by simp, by simp, by simp⟩

/-- **The empty value.** -/
theorem isItem_unit (line : Nat) :
    IsItem [⟨.mark .openParen, line⟩, ⟨.mark .closeParen, line⟩] (.literal .unit) where
  start := ⟨_, _, rfl, by simp, by simp⟩
  read n loop m _ _ hn hm := by
    obtain ⟨n, rfl⟩ : ∃ k, n = k + 3 := ⟨n - 3, by simp at hn; omega⟩
    refine reads_expression ⟨by simp, by simp, by simp⟩ hm ?_
    rw [primary]
    refine reads_peek.bind (reads_advance.bind ?_)
    exact reads_accept.bind (reads_pure _)

/-! ### Lists of items -/

/-- Tokens with commas between them. -/
def spacedTokens (line : Nat) : List (List Lexeme) → List Lexeme
  | [] => []
  | [one] => one
  | one :: others => one ++ ⟨.mark .comma, line⟩ :: spacedTokens line others

section Items

variable {line : Nat} {close : Mark} {loop : Bool} {all : List (List Lexeme × Expression)}
  (hall : ∀ item ∈ all, IsItem item.1 item.2)

include hall

theorem IsItem.length_spaced (line : Nat) {item : List Lexeme × Expression}
    (h : IsItem item.1 item.2) :
    (spacedTokens line (all.map (·.1))).length + 1 ≤
      (spacedTokens line ((item :: all).map (·.1))).length ∧
    item.1.length ≤ (spacedTokens line ((item :: all).map (·.1))).length := by
  have := h.length_pos
  cases all with
  | nil => simpa [spacedTokens, Nat.succ_le_iff] using this
  | cons next all => simp [spacedTokens]

/-- **Items** up to the mark that closes them. -/
theorem reads_items (hclose : close = .closeParen ∨ close = .closeBracket) {n : Nat}
    (hn : 3 * (spacedTokens line (all.map (·.1))).length < n) (rest : List Lexeme) :
    Reads (items n loop close)
      (spacedTokens line (all.map (·.1)) ++ ⟨.mark close, line⟩ :: rest) (all.map (·.2)) rest := by
  have hend : close ∈ endMarks := by rcases hclose with rfl | rfl <;> decide
  have hcomma : close ≠ .comma := by rcases hclose with rfl | rfl <;> decide
  induction all generalizing n with
  | nil =>
    obtain ⟨n, rfl⟩ : ∃ k, n = k + 1 := ⟨n - 1, by omega⟩
    rw [items]
    exact reads_accept.bind (reads_pure _)
  | cons item others ih =>
    obtain ⟨hitem, hothers⟩ := List.forall_mem_cons.1 hall
    obtain ⟨hlonger, hlong⟩ := hitem.length_spaced hothers line
    obtain ⟨n, rfl⟩ : ∃ k, n = k + 1 := ⟨n - 1, by omega⟩
    rw [items]
    obtain ⟨tokens, e⟩ := item
    obtain ⟨first, more, htokens, hparen, hbracket⟩ := hitem.start
    have hfirst : first.token ≠ .mark close := by
      rcases hclose with rfl | rfl <;> assumption
    simp only at hlong htokens
    -- the last item is closed at once, another one is read behind a comma
    cases others with
    | nil =>
      have hread := hitem.read n loop close line rest (by simp only; omega) hend
      simp only [List.map_cons, List.map_nil, spacedTokens, htokens] at hread ⊢
      refine (reads_accept_other hfirst).bind (hread.bind ?_)
      exact reads_accept.bind (reads_pure _)
    | cons next others =>
      have hread := hitem.read n loop .comma line
        (spacedTokens line ((next :: others).map (·.1)) ++ ⟨.mark close, line⟩ :: rest)
        (by simp only; omega) (by decide)
      have hrest := ih hothers (n := n) (by omega)
      simp only [List.map_cons, spacedTokens, htokens, List.append_assoc, List.cons_append]
        at hread hrest ⊢
      refine (reads_accept_other hfirst).bind (hread.bind ?_)
      refine (reads_accept_other (by simpa using hcomma.symm)).bind ?_
      exact reads_expect.bind (hrest.bind (reads_pure _))

/-- **An array.** -/
theorem isItem_array (line : Nat) : IsItem
    (⟨.mark .openBracket, line⟩ ::
      (spacedTokens line (all.map (·.1)) ++ [⟨.mark .closeBracket, line⟩]))
    (.array (all.map (·.2))) where
  start := ⟨_, _, rfl, by simp, by simp⟩
  read n loop m _ rest hn hm := by
    simp only [List.length_append, List.length_cons, List.length_nil] at hn
    obtain ⟨n, rfl⟩ : ∃ k, n = k + 3 := ⟨n - 3, by omega⟩
    simp only [List.cons_append, List.append_assoc, List.nil_append]
    refine reads_expression ⟨by simp, by simp, by simp⟩ hm ?_
    rw [primary]
    refine reads_peek.bind (reads_advance.bind ?_)
    refine Reads.bind ?_ (reads_pure _)
    exact reads_items hall (.inr rfl) (by omega) _

/-- **A call.** -/
theorem isItem_call (line : Nat) (name : String) : IsItem
    (⟨.name name, line⟩ :: ⟨.mark .openParen, line⟩ ::
      (spacedTokens line (all.map (·.1)) ++ [⟨.mark .closeParen, line⟩]))
    (.call name (all.map (·.2))) where
  start := ⟨_, _, rfl, by simp, by simp⟩
  read n loop m _ rest hn hm := by
    simp only [List.length_append, List.length_cons, List.length_nil] at hn
    obtain ⟨n, rfl⟩ : ∃ k, n = k + 3 := ⟨n - 3, by omega⟩
    simp only [List.cons_append, List.append_assoc, List.nil_append]
    refine reads_expression ⟨by simp, by simp, by simp⟩ hm ?_
    rw [primary]
    refine reads_peek.bind (reads_advance.bind ?_)
    refine reads_accept.bind ?_
    refine Reads.bind ?_ (reads_pure _)
    exact reads_items hall (.inl rfl) (by omega) _

end Items

/-! ### Scripts of one expression -/

/-- The end of a script behind a semicolon. -/
theorem reads_end {n line last : Nat} : Reads (script (n + 2))
    [⟨.mark .semicolon, line⟩, ⟨.finish, last⟩] [] [⟨.finish, last⟩] := by
  rw [script]
  refine reads_peek.bind (reads_advance.bind ?_)
  rw [script]
  exact reads_peek.bind (reads_pure _)

/-- **A script** that is one expression, which starts with a name. -/
theorem reads_script {name : String} {e : Expression} {more : List Lexeme} {n line last : Nat}
    (h : IsItem (⟨.name name, line⟩ :: more) e) (hn : 3 * more.length + 5 ≤ n) :
    Reads (script n) (⟨.name name, line⟩ :: more ++ [⟨.mark .semicolon, line⟩, ⟨.finish, last⟩])
      [.expression e] [⟨.finish, last⟩] := by
  obtain ⟨n, rfl⟩ : ∃ k, n = k + 3 := ⟨n - 3, by omega⟩
  have hread := h.read (n + 1) false .semicolon line [⟨.finish, last⟩]
    (by rw [List.length_cons]; omega) (by decide)
  have hstatement : Reads (statement (n + 2) false)
      (⟨.name name, line⟩ :: more ++ [⟨.mark .semicolon, line⟩, ⟨.finish, last⟩])
      (.expression e) [⟨.mark .semicolon, line⟩, ⟨.finish, last⟩] := by
    rw [statement]
    refine reads_peek.bind (hread.bind ?_)
    exact reads_peek.bind (reads_pure _)
  rw [script]
  refine reads_peek.bind (hstatement.bind ?_)
  refine (reads_peek.bind (reads_pure true)).bind ?_
  refine (reads_require rfl).bind (reads_end.bind (reads_pure _))

/-- **The program** of a text with such tokens. -/
theorem ofText_item {text name : String} {e : Expression} {more : List Lexeme} {line last : Nat}
    (h : IsItem (⟨.name name, line⟩ :: more) e)
    (htext : lexemes text =
      ⟨.name name, line⟩ :: more ++ [⟨.mark .semicolon, line⟩, ⟨.finish, last⟩]) :
    Program.ofText? text = .ok ⟨[], [.expression e], more.length + 3⟩ := by
  have hlength : (lexemes text).length = more.length + 3 := by rw [htext]; simp
  have hread : Reads (script (depthPerToken * ((lexemes text).length + 1))) (lexemes text)
      [.expression e] [⟨.finish, last⟩] := by
    rw [htext] at hlength ⊢
    exact reads_script h (by unfold depthPerToken; omega)
  have := hread [] []
  simp only [Program.ofText?, StateT.run, this, ← hlength]
  rfl

end VectorScene.Script
