import PlumeForm.Text.CodeRange

/-!
# White space

A character is blank when it has the Unicode property White_Space: the controls from tab to
carriage return, the space, NEXT LINE and the spaces and separators beyond ASCII. ZERO WIDTH SPACE
and the byte order mark are not blank. Trimming changes nothing where no blank stands at an end
(`trim_eq_self`).
-/

namespace PlumeForm.Text

/-- The code points with the property White_Space. -/
def blankRanges : List CodeRange :=
  CodeRange.ofPairs
    [(0x9, 0xD), (0x20, 0x20), (0x85, 0x85), (0xA0, 0xA0), (0x1680, 0x1680), (0x2000, 0x200A),
      (0x2028, 0x2029), (0x202F, 0x202F), (0x205F, 0x205F), (0x3000, 0x3000)]

/-- The character is white space. -/
def isBlank (c : Char) : Bool :=
  CodeRange.contains blankRanges c

/-- The text without the white space at its front. -/
def trimStart (cs : List Char) : List Char :=
  cs.dropWhile isBlank

/-- The text without the white space at its end. -/
def trimEnd (cs : List Char) : List Char :=
  (cs.reverse.dropWhile isBlank).reverse

/-- The text without the white space at both ends. -/
def trim (cs : List Char) : List Char :=
  trimEnd (trimStart cs)

/-- The text is empty or white space only. -/
def isBlankText (cs : List Char) : Bool :=
  cs.all isBlank

theorem trimStart_head {cs : List Char} {c : Char} {r : List Char} (h : trimStart cs = c :: r) :
    isBlank c = false := by
  induction cs with
  | nil => simp [trimStart] at h
  | cons d ds ih =>
    by_cases hd : isBlank d = true
    · exact ih (by simpa [trimStart, List.dropWhile, hd] using h)
    · simp only [trimStart, List.dropWhile, Bool.not_eq_true] at h hd
      rw [hd] at h
      obtain ⟨rfl, -⟩ := List.cons.inj h
      exact hd

theorem trimStart_eq_self {cs : List Char} (h : ∀ c r, cs = c :: r → isBlank c = false) :
    trimStart cs = cs := by
  cases cs with
  | nil => rfl
  | cons c r => simp [trimStart, List.dropWhile, h c r rfl]

theorem trimEnd_eq_self {cs : List Char} (h : ∀ c, cs.getLast? = some c → isBlank c = false) :
    trimEnd cs = cs := by
  unfold trimEnd
  rw [show cs.reverse.dropWhile isBlank = cs.reverse from ?_, List.reverse_reverse]
  refine trimStart_eq_self fun c r hr => h c ?_
  rw [← List.head?_reverse, hr]
  rfl

/-- A text with no white space at either end is its own trimmed form. -/
theorem trim_eq_self {cs : List Char} (hs : ∀ c r, cs = c :: r → isBlank c = false)
    (he : ∀ c, cs.getLast? = some c → isBlank c = false) : trim cs = cs := by
  rw [trim, trimStart_eq_self hs, trimEnd_eq_self he]

end PlumeForm.Text
