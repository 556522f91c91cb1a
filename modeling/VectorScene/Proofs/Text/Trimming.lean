import Mathlib.Data.List.DropRight
import VectorScene.Text.Blank

/-!
# Trimming

Text is what is left of it when it is trimmed, with blanks around that.

## Main results

* `trimEnd_append_blanks`, `exists_padding`: what trimming takes away
* `trimEnd_eq_self`, `trim_padded`: what trimming leaves
-/

namespace VectorScene.Text

/-! ### Trailing blanks -/

theorem trimEnd_append_blanks (text : List Char) :
    ∃ blanks, text = trimEnd text ++ blanks ∧ ∀ c ∈ blanks, isBlank c = true := by
  refine ⟨text.rtakeWhile isBlank, ?_, fun c hc => List.mem_rtakeWhile_imp hc⟩
  have hsplit := congrArg List.reverse (List.takeWhile_append_dropWhile (p := isBlank)
    (l := text.reverse))
  rw [List.reverse_append, List.reverse_reverse] at hsplit
  exact hsplit.symm

theorem trimEnd_eq_self {text : List Char} (h : ∀ c, text.getLast? = some c → isBlank c = false) :
    trimEnd text = text := by
  refine List.rdropWhile_eq_self_iff.2 fun hne => ?_
  rw [h _ (List.getLast?_eq_some_getLast hne)]
  exact Bool.false_ne_true

theorem not_blank_of_trimEnd {text : List Char} {c : Char}
    (h : (trimEnd text).getLast? = some c) : isBlank c = false := by
  have hne : trimEnd text ≠ [] := by
    intro hnil
    rw [hnil] at h
    cases h
  have hlast := List.rdropWhile_last_not isBlank text hne
  rw [List.getLast?_eq_some_getLast hne, Option.some.injEq] at h
  rw [← h]
  exact Bool.eq_false_iff.2 hlast

/-! ### Blanks at both ends -/

/-- What is trimmed has blanks around it. -/
theorem exists_padding (text : List Char) :
    ∃ front back, text = front ++ trim text ++ back ∧ (∀ c ∈ front, isBlank c = true) ∧
      ∀ c ∈ back, isBlank c = true := by
  obtain ⟨back, hback, hblank⟩ := trimEnd_append_blanks (trimStart text)
  refine ⟨text.takeWhile isBlank, back, ?_, fun c hc => List.mem_takeWhile_imp hc, hblank⟩
  rw [List.append_assoc, trim, ← hback, trimStart, List.takeWhile_append_dropWhile]

/-- Blanks around text without blanks are trimmed. -/
theorem trim_padded {front core back : List Char} (hfront : ∀ c ∈ front, isBlank c = true)
    (hcore : ∀ c ∈ core, isBlank c = false) (hback : ∀ c ∈ back, isBlank c = true) :
    trim (front ++ core ++ back) = core := by
  have hstart : ∀ rest : List Char, (core ++ rest).dropWhile isBlank =
      if core = [] then rest.dropWhile isBlank else core ++ rest := by
    intro rest
    cases core with
    | nil => rfl
    | cons c core => simp [hcore c List.mem_cons_self]
  rw [trim, trimStart, List.append_assoc, List.dropWhile_append_of_pos hfront, hstart]
  split
  · rename_i hnil
    rw [List.dropWhile_eq_nil_iff.2 hback, hnil]
    rfl
  · rw [trimEnd, List.reverse_append,
      List.dropWhile_append_of_pos fun c hc => hback c (List.mem_reverse.1 hc)]
    exact trimEnd_eq_self fun c hc => hcore c (List.mem_of_getLast? hc)

end VectorScene.Text
