import Mathlib.Data.List.TakeWhile
import LeafHub.Text.Blank

namespace LeafHub.Text

/-- `body` is what is left of `cs` without the blank characters around it. -/
structure Trims (cs body : List Char) : Prop where
  around : ∃ front back, cs = front ++ body ++ back ∧ (∀ c ∈ front, isBlank c = true) ∧ ∀ c ∈ back, isBlank c = true
  first : ∀ c, body.head? = some c → isBlank c = false
  last : ∀ c, body.getLast? = some c → isBlank c = false

theorem not_blank_head_dropWhile {cs : List Char} {c : Char} (first : (cs.dropWhile isBlank).head? = some c) :
    isBlank c = false := by
  have kept := List.head?_dropWhile_not isBlank cs
  rw [first] at kept
  simpa using kept

theorem dropWhile_eq_self {cs : List Char} (first : ∀ c, cs.head? = some c → isBlank c = false) :
    cs.dropWhile isBlank = cs := by
  cases cs with
  | nil => rfl
  | cons c cs => rw [List.dropWhile_cons_of_neg (by simp [first c rfl])]

theorem trims_trim (cs : List Char) : Trims cs (trim cs) := by
  have lead := List.takeWhile_append_dropWhile (p := isBlank) (l := cs)
  generalize started : cs.dropWhile isBlank = rest at lead
  have tail := List.takeWhile_append_dropWhile (p := isBlank) (l := rest.reverse)
  have body : trim cs = (rest.reverse.dropWhile isBlank).reverse := by rw [trim, started]
  have parts : rest = trim cs ++ (rest.reverse.takeWhile isBlank).reverse := by
    rw [body, ← List.reverse_append, tail, List.reverse_reverse]
  refine ⟨⟨cs.takeWhile isBlank, (rest.reverse.takeWhile isBlank).reverse, ?_, ?_, ?_⟩, fun c first => ?_, fun c last => ?_⟩
  · rw [List.append_assoc, ← parts, lead]
  · intro c member
    exact List.mem_takeWhile_imp member
  · intro c member
    exact List.mem_takeWhile_imp (List.mem_reverse.mp member)
  · -- What begins the trimmed text begins the text that only the front was dropped of.
    have begins : rest.head? = some c := by
      rw [parts, List.head?_append, first, Option.some_or]
    rw [← started] at begins
    exact not_blank_head_dropWhile begins
  · rw [body, List.getLast?_reverse] at last
    exact not_blank_head_dropWhile last

theorem trim_of_trims {cs body : List Char} (trims : Trims cs body) : trim cs = body := by
  obtain ⟨⟨front, back, rfl, blankFront, blankBack⟩, first, last⟩ := trims
  unfold trim
  rw [List.append_assoc, List.dropWhile_append_of_pos blankFront]
  rcases List.eq_nil_or_concat body with rfl | ⟨init, c, ended⟩
  · have none : (([] : List Char) ++ back).dropWhile isBlank = [] := by
      rw [List.nil_append, List.dropWhile_eq_nil_iff]
      exact blankBack
    rw [none]
    rfl
  · have begins : ∀ d, (body ++ back).head? = some d → isBlank d = false := by
      intro d found
      cases body with
      | nil => simp at ended
      | cons e rest => exact first d found
    rw [dropWhile_eq_self begins, List.reverse_append, List.dropWhile_append_of_pos (by simpa using blankBack),
      dropWhile_eq_self (by simpa using last), List.reverse_reverse]

/-- A text without blank characters is left as it is. -/
theorem trim_eq_self {cs : List Char} (plain : ∀ c ∈ cs, isBlank c = false) : trim cs = cs := by
  refine trim_of_trims ⟨⟨[], [], by simp, by simp, by simp⟩, fun c first => ?_, fun c last => ?_⟩
  · exact plain c (List.mem_of_mem_head? first)
  · exact plain c (List.mem_of_mem_getLast? last)

end LeafHub.Text
