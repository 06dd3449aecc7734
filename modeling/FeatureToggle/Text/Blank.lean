import FeatureToggle.Text.Ranges

/-!
# Blank characters and trimming

A character is blank if Unicode gives it the property `White_Space`: the ASCII controls from tab to
carriage return, the space, and the wider spaces and line separators beyond ASCII.
-/
namespace FeatureToggle.Text

/-- The code points with the property `White_Space`. -/
def blanks : List (Nat × Nat) := [
  (0x9, 0xd), (0x20, 0x20), (0x85, 0x85), (0xa0, 0xa0), (0x1680, 0x1680), (0x2000, 0x200a),
  (0x2028, 0x2029), (0x202f, 0x202f), (0x205f, 0x205f), (0x3000, 0x3000)]

def isBlank (c : Char) : Bool := covers blanks c

def dropBlanks (cs : List Char) : List Char := cs.dropWhile isBlank

/-- Removes the blanks at both ends. -/
def trimChars (cs : List Char) : List Char := (dropBlanks (dropBlanks cs).reverse).reverse

/-- Removes the blanks at both ends. -/
def trim (s : String) : String := String.ofList (trimChars s.toList)

@[simp] theorem toList_trim (s : String) : (trim s).toList = trimChars s.toList := by
  simp [trim]

@[simp] theorem trimChars_nil : trimChars [] = [] := rfl

/-- Trimming leaves nothing exactly of texts that are blank throughout. -/
theorem trimChars_eq_nil_iff {cs : List Char} : trimChars cs = [] ↔ ∀ c ∈ cs, isBlank c = true := by
  have key : ∀ l : List Char, dropBlanks l = [] ↔ ∀ c ∈ l, isBlank c = true := by
    intro l
    induction l with
    | nil => simp [dropBlanks]
    | cons c l ih => by_cases h : isBlank c = true <;> simp_all [dropBlanks]
  rw [trimChars, List.reverse_eq_nil_iff, key]
  constructor
  · intro h c hc
    by_cases hb : dropBlanks cs = []
    · exact (key cs).1 hb c hc
    · obtain ⟨d, l, hd⟩ := List.exists_cons_of_ne_nil hb
      have hd' : isBlank d = true := h d (by simp [hd])
      have := List.head?_dropWhile_not isBlank cs
      simp only [dropBlanks] at hd
      simp [hd, hd'] at this
  · intro h c hc
    exact h c ((List.dropWhile_sublist _).subset (List.mem_reverse.1 hc))

/-- Whether nothing of the text is left after trimming. -/
def isBlankText (s : String) : Bool := (trim s).isEmpty

end FeatureToggle.Text
