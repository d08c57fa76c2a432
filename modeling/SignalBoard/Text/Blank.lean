/-!
# White space

`isBlank` is the Unicode property `White_Space`, which has 25 members, and `trim` drops white space
from both ends of a text.  Main statements: trimming leaves a text that neither begins nor ends with
white space (`head?_trim`, `getLast?_trim`), and drops nothing but white space (`trim_split`).
-/

namespace SignalBoard.Text

set_option autoImplicit false

/-- The Unicode property `White_Space`. -/
def isBlank (c : Char) : Bool :=
  let n := c.toNat
  (9 ≤ n && n ≤ 13) || n = 0x20 || n = 0x85 || n = 0xa0 || n = 0x1680 ||
    (0x2000 ≤ n && n ≤ 0x200a) || n = 0x2028 || n = 0x2029 || n = 0x202f || n = 0x205f || n = 0x3000

def trimEnd (cs : List Char) : List Char := (cs.reverse.dropWhile isBlank).reverse

def trim (cs : List Char) : List Char := trimEnd (cs.dropWhile isBlank)

/-! ## What trimming leaves and what it drops -/

/-- A dropped run is blank throughout. -/
theorem takeWhile_all (cs : List Char) : ∀ c ∈ cs.takeWhile isBlank, isBlank c = true := by
  intro c hc
  induction cs with
  | nil => simp at hc
  | cons d ds ih =>
    rw [List.takeWhile_cons] at hc
    split at hc
    · rename_i hd
      rcases List.mem_cons.1 hc with rfl | hc
      · exact hd
      · exact ih hc
    · simp at hc

theorem trimEnd_split (cs : List Char) :
    ∃ back, cs = trimEnd cs ++ back ∧ ∀ c ∈ back, isBlank c = true := by
  refine ⟨(cs.reverse.takeWhile isBlank).reverse, ?_, ?_⟩
  · rw [trimEnd, ← List.reverse_append, List.takeWhile_append_dropWhile, List.reverse_reverse]
  · intro c hc
    exact takeWhile_all cs.reverse c (List.mem_reverse.1 hc)

/-- Trimming drops white space only. -/
theorem trim_split (cs : List Char) :
    ∃ front back, cs = front ++ trim cs ++ back ∧
      (∀ c ∈ front, isBlank c = true) ∧ ∀ c ∈ back, isBlank c = true := by
  obtain ⟨back, hback, hblank⟩ := trimEnd_split (cs.dropWhile isBlank)
  refine ⟨cs.takeWhile isBlank, back, ?_, takeWhile_all cs, hblank⟩
  have h : cs.takeWhile isBlank ++ cs.dropWhile isBlank = cs := List.takeWhile_append_dropWhile
  rw [List.append_assoc, trim, ← hback, h]

/-- A text that survives `trimEnd` does not end with white space. -/
theorem getLast?_trimEnd (cs : List Char) {c : Char} (h : (trimEnd cs).getLast? = some c) :
    isBlank c = false := by
  rw [trimEnd, List.getLast?_reverse] at h
  have := List.head?_dropWhile_not isBlank cs.reverse
  rw [h] at this
  simpa using this

/-- A trimmed text does not end with white space. -/
theorem getLast?_trim (cs : List Char) {c : Char} (h : (trim cs).getLast? = some c) :
    isBlank c = false :=
  getLast?_trimEnd _ h

/-- A trimmed text does not begin with white space. -/
theorem head?_trim (cs : List Char) {c : Char} (h : (trim cs).head? = some c) :
    isBlank c = false := by
  obtain ⟨back, hback, -⟩ := trimEnd_split (cs.dropWhile isBlank)
  have hhead : (cs.dropWhile isBlank).head? = some c := by
    rw [hback, List.head?_append]
    rw [trim] at h
    rw [h]
    rfl
  have := List.head?_dropWhile_not isBlank cs
  rw [hhead] at this
  simpa using this

end SignalBoard.Text
