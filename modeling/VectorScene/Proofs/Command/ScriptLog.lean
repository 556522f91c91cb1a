import VectorScene.Proofs.Command.Bindings
import VectorScene.Proofs.Command.Literals
import VectorScene.Proofs.Command.Positions

/-!
# Scripts in a log

The script that a log holds for a call makes this call again. Its text is one line, which is kept as
it is, scanned and read as a call of literals, and run as one call by position.

## Main definitions

* `Callable`: the names that scripts can call commands by

## Main results

* `ofText_callText`: the program of the expression that makes a call
* `Bridge.evaluate_oneCall`: the one call that it makes
* `Bridge.evaluate_unlettered`: commands that no script can call
* `Session.evaluate_callText`: the expression of a call makes that call
-/

namespace VectorScene.Command

open Script (Lexeme Scanned IsItem Kept spacedTokens)
open Value (Literate)

/-! ### Names and floats -/

/-- The floats that stand in the expression of a call are those of its arguments. -/
theorem floats_givenValues {parameters : List Parameter} {args : Args} {x : Float}
    (h : x ∈ Value.floatsOf (givenValues parameters args)) : x ∈ args.floats := by
  obtain ⟨v, hv, hx⟩ := Value.mem_floatsOf.1 h
  obtain ⟨p, -, rfl⟩ := List.mem_map.1 hv
  cases hget : args.get? p.name with
  | none => simp [hget, Value.floats] at hx
  | some v =>
    rw [hget] at hx
    have hmem := (Args.get?_eq_some_iff.1 hget).1
    exact Value.mem_floatsOf.2 ⟨v, List.mem_map.2 ⟨_, hmem, rfl⟩, hx⟩

/-- The names that scripts can call commands by: they have a letter in front of their digits, and
the language has no other use for them. -/
structure Callable (name : String) : Prop where
  letter : Script.isName name.toList = true
  keyword : Script.Keyword.ofText? name = none
  unreserved : name ∉ Script.reservedWords
  printer : name ∉ Script.functionWords

theorem Callable.ofWord {name : String} (h : Callable name) :
    Script.Token.ofWord name.toList = .name name := by
  simp [Script.Token.ofWord, h.keyword, h.letter, h.unreserved]

/-- The characters of an identifier. -/
theorem chars_of_identifier {name : String} (h : Text.isIdentifier name = true) :
    (∃ c more, name.toList = c :: more ∧ Text.isIdentifierStart c = true) ∧
      ∀ c ∈ name.toList, Text.isIdentifierPart c = true := by
  unfold Text.isIdentifier at h
  split at h
  · cases h
  · rename_i c more heq
    rw [heq]
    obtain ⟨hc, hmore⟩ := Bool.and_eq_true_iff.1 h
    refine ⟨⟨c, more, rfl, hc⟩, List.forall_mem_cons.2 ⟨?_, List.all_eq_true.1 hmore⟩⟩
    simp [Text.isIdentifierPart, hc]

/-! ### The text of a call -/

/-- The last line is empty, and the script ends in it. -/
theorem lexemesFrom_end {steps : Nat} (h : 0 < steps) :
    Script.lexemesFrom steps (.inLine 1 true ['\n']) = [⟨.finish, 2⟩] := by
  obtain ⟨steps, rfl⟩ : ∃ n, steps = n + 1 := ⟨steps - 1, by omega⟩
  rfl

section Call

variable {name : String} {parameters : List Parameter} {args : Args}
  (hname : Text.isIdentifier name = true)

include hname

/-- No comment starts in the expression of a call. -/
theorem kept_callChars : Kept (callChars name parameters args) := by
  obtain ⟨-, hparts⟩ := chars_of_identifier hname
  have hitems := Value.kept_spaced (Value.kept_literals (givenValues parameters args))
  rw [Value.literals_eq_map] at hitems
  rw [callChars_givenValues]
  refine Kept.append (Kept.append ?_ ?_) (Script.kept_char (by decide))
  · exact Script.kept_chars fun c hc => Script.isOrdinary_part (hparts c hc)
  · exact (Script.kept_char (c := '(') (by decide)).append hitems

/-- The expression of a call is a statement: it ends in a parenthesis. -/
theorem isStatement_callChars : Script.IsStatement (callChars name parameters args) :=
  ⟨kept_callChars hname, _, ')', rfl, by decide, by decide, by decide⟩

/-- **Preparing** the expression of a call only ends the statement. -/
theorem prepareChars_callChars : Script.prepareChars (callChars name parameters args) =
    callChars name parameters args ++ [';', '\n'] := by
  have hline := oneLine_callChars (Text.oneLine_of_isIdentifier hname) parameters args
  exact Script.prepareChars_statement (isStatement_callChars hname) fun hbreak =>
    (hline _ hbreak).1 rfl

variable (hcallable : Callable name)
  (hfloats : Literate (Value.floatsOf (givenValues parameters args)))

include hcallable hfloats

/-- The tokens of the expression of a call. -/
theorem scanned_callChars : Scanned (.inLine 1 true (callChars name parameters args ++ [';', '\n']))
    (⟨.name name, 1⟩ :: ⟨.mark .openParen, 1⟩ ::
      (spacedTokens 1 ((givenValues parameters args).map Value.tokens) ++
        [⟨.mark .closeParen, 1⟩]))
    (.inLine 1 false [';', '\n']) := by
  obtain ⟨hstart, hparts⟩ := chars_of_identifier hname
  have hitems := Value.scanned_enclosed (Value.scans_literals _ hfloats) .round
    (show [';', '\n'].head? ≠ some '*' by decide) false
  have hopen : ∀ c ∈ ('(' :: Value.spaced ((givenValues parameters args).map Value.literalChars) ++
      ')' :: [';', '\n']).head?, Text.isIdentifierPart c = false := by
    intro c hc
    cases hc
    decide
  have hword := Script.scanned_word hcallable.ofWord (by simp) (by simp) hstart hparts hopen 1 true
  -- no operand is expected behind a name, so the parenthesis opens a row of arguments
  have hbehind : (Script.Token.name name).expectsOperand = false := rfl
  rw [List.map_map, List.map_map] at hitems
  rw [hbehind] at hword
  have := hword.append hitems
  rw [callChars_givenValues]
  simpa [Function.comp_def] using this

theorem lexemes_callText : Script.lexemes (Script.prepare (callText name parameters args)) =
    ⟨.name name, 1⟩ :: ⟨.mark .openParen, 1⟩ ::
      (spacedTokens 1 ((givenValues parameters args).map Value.tokens) ++
        [⟨.mark .closeParen, 1⟩]) ++ [⟨.mark .semicolon, 1⟩, ⟨.finish, 2⟩] := by
  have hcall := scanned_callChars hname hcallable hfloats
  have hend := Script.scanned_mark (show (';', .semicolon) ∈ Script.callMarks by decide)
    (show ['\n'].head? ≠ some '*' by decide) 1 false
  obtain ⟨left, hleft, hlexemes⟩ := (hcall.append hend).lexemesFrom (Nat.lt_succ_self _)
  rw [Script.prepare, callText, String.toList_ofList,
    prepareChars_callChars hname]
  unfold Script.lexemes
  rw [String.toList_ofList]
  refine hlexemes.trans ?_
  have hfinish : Script.lexemesFrom left (.inLine 1 (Script.Token.mark .semicolon).expectsOperand
      ['\n']) = [⟨.finish, 2⟩] := lexemesFrom_end (Nat.zero_lt_of_lt hleft)
  rw [hfinish, List.append_assoc]
  rfl

/-- **The program** of the expression that makes a call. -/
theorem ofText_callText : Script.Program.ofText? (Script.prepare (callText name parameters args)) =
    .ok ⟨[], [.expression (.call name (Value.expressions (givenValues parameters args)))],
      (spacedTokens 1 (Value.tokenRows (givenValues parameters args))).length + 5⟩ := by
  have hitem := Script.isItem_call (Value.isItem_expressions (givenValues parameters args)) 1 name
  rw [List.map_map, List.map_map] at hitem
  have hprogram := Script.ofText_item hitem (lexemes_callText hname hcallable hfloats)
  rw [Value.tokenRows_eq_map, Value.expressions_eq_map]
  simpa [Function.comp_def] using hprogram

end Call

/-! ### Scripts on the bridge -/

section Host

variable {σ : Type} {b : Bridge} {name : String} {functions : Functions σ} {values : List Value}
  {s s' : σ}

/-- The host passes a call on that a bound function answers. -/
theorem Bridge.host_call_ok (hbound : b.isBound name = true)
    (hfew : ¬parameterLimit < (Value.toScripts values).length) {v : Value}
    (hcall : functions.call name values s = (.ok v, s')) :
    (b.host functions).call name (Value.toScripts values) (s, none) =
      some (.ok v.toScript, (s', none)) := by
  simp only [Bridge.host, hbound, Bool.not_true, Bool.false_or, decide_eq_true_eq, if_neg hfew,
    Value.ofScripts_toScripts, hcall]

/-- The host keeps the error of a call that fails. -/
theorem Bridge.host_call_error (hbound : b.isBound name = true)
    (hfew : ¬parameterLimit < (Value.toScripts values).length) {e : Error}
    (hcall : functions.call name values s = (.error e, s')) :
    (b.host functions).call name (Value.toScripts values) (s, none) =
      some (.error (.string e.message), (s', some e)) := by
  simp only [Bridge.host, hbound, Bool.not_true, Bool.false_or, decide_eq_true_eq, if_neg hfew,
    Value.ofScripts_toScripts, hcall]

end Host

/-- **The expression of a call**, evaluated as a script, makes one call by position. What it gives
is what the call gives. -/
theorem Bridge.evaluate_oneCall {σ : Type} {b : Bridge} {name : String}
    {parameters : List Parameter} {args : Args} (hname : Text.isIdentifier name = true)
    (hcallable : Callable name) (hbound : b.isBound name = true)
    (hlimit : parameters.length ≤ parameterLimit)
    (hcommon : Script.commonFunction? name
      (Value.toScripts (givenValues parameters args)) = none)
    (hfloats : Literate (Value.floatsOf (givenValues parameters args)))
    (functions : Functions σ) (s : σ) :
    b.evaluate functions (callText name parameters args) s =
      ((functions.call name (givenValues parameters args) s).1, b,
        (functions.call name (givenValues parameters args) s).2) := by
  have hprogram := ofText_callText hname hcallable hfloats
  have hfew : ¬parameterLimit < (Value.toScripts (givenValues parameters args)).length := by
    rw [Value.toScripts_eq_map, List.length_map]
    exact Nat.not_lt_of_le ((length_givenValues_le parameters args).trans hlimit)
  generalize givenValues parameters args = values at hcommon hfew hprogram ⊢
  -- the literals need no more steps than they have tokens
  generalize hlength : (spacedTokens 1 (Value.tokenRows values)).length = length at hprogram
  have harguments : Script.evaluateAll (b.host functions) [] (Script.stepLimit + length + 2) 0
      (Value.expressions values) ⟨(s, none), b.scope⟩ =
        (.ok (Value.toScripts values), ⟨(s, none), b.scope⟩) :=
    Value.evaluateAll_expressions values (by unfold Script.stepLimit; omega)
  have hsteps : Script.stepLimit + (length + 5) = Script.stepLimit + length + 3 + 2 := by omega
  unfold Bridge.evaluate
  rw [hprogram]
  rcases hresult : functions.call name values s with ⟨e | v, s'⟩
  · have hcall := Bridge.host_call_error hbound hfew hresult
    have hrun := Script.evaluate_call harguments hcallable.printer hcommon hcall
    simp only [Script.Program.run_call hsteps hrun]
    rfl
  · have hcall := Bridge.host_call_ok hbound hfew hresult
    have hrun := Script.evaluate_call harguments hcallable.printer hcommon hcall
    simp only [Script.Program.run_call hsteps hrun]
    simp [Except.mapError, conclude, Value.ofScript_toScript]

/-! ### Names without a letter -/

theorem isName_keyword {word : String} {k : Script.Keyword}
    (h : Script.Keyword.ofText? word = some k) : Script.isName word.toList = true := by
  have hall : ∀ k ∈ Script.Keyword.all, Script.isName k.text.toList = true := by decide
  obtain rfl : k.text = word := by simpa using List.find?_some h
  exact hall k (List.mem_of_find?_eq_some h)

theorem ofWord_unlettered {name : String} (h : Script.isName name.toList = false) :
    Script.Token.ofWord name.toList = .unusable := by
  have hkeyword : Script.Keyword.ofText? name = none := by
    cases hname : Script.Keyword.ofText? name with
    | none => rfl
    | some k =>
      rw [isName_keyword hname] at h
      cases h
  simp [Script.Token.ofWord, hkeyword, h]

/-- **A name without a letter** in front of its digits may be an identifier, and so the name of a
command, but no script can call the command by it. -/
theorem Bridge.evaluate_unlettered {σ : Type} {name : String} {parameters : List Parameter}
    {args : Args} (hname : Text.isIdentifier name = true)
    (hletter : Script.isName name.toList = false) (b : Bridge) (functions : Functions σ) (s : σ) :
    b.evaluate functions (callText name parameters args) s = (.error (.script 1), b, s) := by
  obtain ⟨hstart, hparts⟩ := chars_of_identifier hname
  have hlexemes : Script.lexemes (Script.prepare (callText name parameters args)) =
      [⟨.unusable, 1⟩] := by
    rw [Script.prepare, callText, String.toList_ofList, prepareChars_callChars hname,
      callChars, List.append_assoc, List.append_assoc]
    unfold Script.lexemes
    rw [String.toList_ofList]
    generalize hrest : ('(' :: Value.spaced _ ++ _ : List Char) = rest
    have hopen : ∀ c ∈ rest.head?, Text.isIdentifierPart c = false := by
      rw [← hrest]
      intro c hc
      cases hc
      decide
    have hnext : Script.Scan.next { rest := name.toList ++ rest } = ([⟨.unusable, 1⟩], none) := by
      refine (Script.next_word hstart hparts hopen 1 true).trans ?_
      rw [ofWord_unlettered hletter]
      rfl
    rw [Script.lexemesFrom, hnext]
  have hprogram : Script.Program.ofText? (Script.prepare (callText name parameters args)) =
      .error 1 := by
    unfold Script.Program.ofText?
    rw [hlexemes]
    rfl
  unfold Bridge.evaluate
  rw [hprogram]

end VectorScene.Command

/-! ### Sessions -/

namespace VectorScene.Session

open Command

/-- A new session with one more command. -/
def offering (c : Command) : Session :=
  let s := start {} ⟨fun _ => 0, 0⟩ {}
  { s with table := ⟨(s.table.erase c.name).commands ++ [c]⟩, bridge := s.bridge.bind c.name }

theorem reachable_offering {c : Command} (h : c.definition.fault? = none) :
    (offering c).Reachable := by
  refine .register c (.start {} ⟨fun _ => 0, 0⟩ {}) ?_
  unfold Session.register Table.register
  rw [h]
  rfl

theorem get?_offering (c : Command) : (offering c).table.get? c.name = some c :=
  Table.get?_added _ c

/-- A command that takes anything, and gives it. -/
def probe : Command :=
  ⟨{ name := "probe", parameters := [required "value" .any, Command.optional "middle" .float,
      Command.optional "last" .string] },
    Recipe.handler { echo := some "value" }⟩

/-- Arguments in which little is plain; the middle one is not given. -/
def probeArgs : Args :=
  .ofList [("value", .list [.int 1, .float 1.0, .absent, .list [.float (-0.5), .bool true],
      .int Int64.minValue]), ("middle", .absent), ("last", .string "# // \"\\\n\t\x7b'")]

/-- A command with an identifier for its name, but without a letter in it. -/
def unlettered : Command := ⟨{ name := "_1" }, fun _ => .done (.ok (.string "done"))⟩

end VectorScene.Session
