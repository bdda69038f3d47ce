/-!
# Halves of pairs

A code point beyond the first plane can be given as a pair of surrogates, and a text can hold a half
of such a pair, which is no character. In a text a half has one of the last private-use characters
as its stand-in; one of these characters itself, and the mark, has the mark in front of it. So a
text is a sequence of code points, whichever they are: `codePoints` gives them back. What counts or
compares the parts of a text goes by these.
-/

namespace ShardFleet.Text

def isSurrogate (code : Nat) : Bool := 0xd800 ≤ code && code < 0xe000

/-- The distance from a half to its stand-in. -/
def standInDistance : Nat := 0x102000

/-- The code point of the mark; the stand-ins follow it. -/
def markCode : Nat := 0x10f7ff

/-- How a code point stands in a text. -/
def charsOf (code : Nat) : List Char :=
  if isSurrogate code then [Char.ofNat (code + standInDistance)]
  else if markCode ≤ code then [Char.ofNat markCode, Char.ofNat code]
  else [Char.ofNat code]

/-- The code points of a text. -/
def codePoints : List Char → List Nat
  | [] => []
  | char :: rest =>
      if char.toNat = markCode then
        match rest with
        | [] => [markCode]
        | next :: others => next.toNat :: codePoints others
      else if markCode < char.toNat then (char.toNat - standInDistance) :: codePoints rest
      else char.toNat :: codePoints rest

/-- Characters as they stand in a text. -/
def standing (chars : List Char) : List Char := chars.flatMap fun char => charsOf char.toNat

/-- The code points of a text, each as a text of its own. -/
def parts (text : String) : List String :=
  (codePoints text.toList).map fun code => String.ofList (charsOf code)

/-- Whether a text comes before another one, or is the same, in the order of their code points. -/
def precedes (left right : String) : Bool :=
  !(codePoints right.toList).lex (codePoints left.toList)

theorem toNat_charOfNat {code : Nat} (small : code < 0x110000) (whole : isSurrogate code = false) :
    (Char.ofNat code).toNat = code := by
  have valid : code.isValidChar := by
    simp only [isSurrogate, Bool.and_eq_false_iff, decide_eq_false_iff_not, Nat.not_le,
      Nat.not_lt] at whole
    rcases whole with below | above
    · exact Or.inl below
    · exact Or.inr ⟨by omega, small⟩
  rw [Char.ofNat, dif_pos valid]
  rfl

theorem codePoints_cons_of_high {char : Char} (high : markCode < char.toNat) (rest : List Char) :
    codePoints (char :: rest) = (char.toNat - standInDistance) :: codePoints rest := by
  cases rest <;> simp [codePoints, Nat.ne_of_gt high, high]

theorem codePoints_cons_of_low {char : Char} (low : char.toNat < markCode) (rest : List Char) :
    codePoints (char :: rest) = char.toNat :: codePoints rest := by
  have notHigh : ¬markCode < char.toNat := Nat.not_lt.mpr (Nat.le_of_lt low)
  cases rest <;> simp [codePoints, Nat.ne_of_lt low, notHigh]

theorem codePoints_mark (char : Char) (rest : List Char) :
    codePoints (Char.ofNat markCode :: char :: rest) = char.toNat :: codePoints rest := by
  have mark : (Char.ofNat markCode).toNat = markCode := by decide
  rw [codePoints, if_pos mark]

/-- What stands in a text for code points gives the code points back. -/
theorem codePoints_flatMap_charsOf (codes : List Nat) (small : ∀ code ∈ codes, code < 0x110000) :
    codePoints (codes.flatMap charsOf) = codes := by
  induction codes with
  | nil => rfl
  | cons code rest ih =>
      have bound : code < 0x110000 := small code (by simp)
      have others := ih fun other member => small other (by simp [member])
      by_cases half : isSurrogate code = true
      · have range : 0xd800 ≤ code ∧ code < 0xe000 := by simpa [isSurrogate] using half
        have whole : isSurrogate (code + standInDistance) = false := by
          simp only [isSurrogate, standInDistance, Bool.and_eq_false_iff]
          exact Or.inr (decide_eq_false (by omega))
        have bound : code + standInDistance < 0x110000 := by
          simp only [standInDistance]
          omega
        have value := toNat_charOfNat bound whole
        have high : markCode < (Char.ofNat (code + standInDistance)).toNat := by
          rw [value]
          simp only [markCode, standInDistance]
          omega
        simp only [List.flatMap_cons, charsOf, half, if_true, List.singleton_append]
        rw [codePoints_cons_of_high high, value, others, Nat.add_sub_cancel]
      · have whole : isSurrogate code = false := by simpa using half
        have value := toNat_charOfNat bound whole
        by_cases high : markCode ≤ code
        · simp only [List.flatMap_cons, charsOf, whole, high, Bool.false_eq_true, if_false, if_true,
            List.cons_append, List.nil_append]
          rw [codePoints_mark, value, others]
        · simp only [List.flatMap_cons, charsOf, whole, high, Bool.false_eq_true, if_false,
            List.singleton_append]
          rw [codePoints_cons_of_low (by rw [value]; omega), value, others]

end ShardFleet.Text
