/-
  Tokens of CSS values.

  `tokens` cuts a text into the tokens that values are made of: names, functions, hashes, numbers
  with or without a unit, and symbols.  White space and comments separate tokens and are dropped.

  The tokens are those that a length, a number, a color or a shadow list may hold.  Every other
  character is a `symbol` of its own, and so are the parts of quoted strings and addresses, which
  no such value may hold.
-/
import UtilityStyle.Number.Decimal
import UtilityStyle.Text.Charset

namespace UtilityStyle.Css

open Number Text

/-- A token of a CSS value. -/
inductive Token where
  /-- A name. -/
  | ident (name : String)
  /-- A name with an opening parenthesis. -/
  | function (name : String)
  /-- A name after `#`. -/
  | hash (name : String)
  /-- A number without a unit. -/
  | number (value : Float32)
  /-- A number with a percent sign, as a fraction of one. -/
  | percentage (fraction : Float32)
  /-- A number with a name as its unit. -/
  | dimension (value : Float32) (unit : String)
  /-- Any other character. -/
  | symbol (c : Char)
deriving DecidableEq

/-! ## White space and comments -/

/-- A line break. -/
def isNewline (c : Char) : Bool := c == '\n' || c == '\r' || c == '\x0c'

/-- White space between tokens. -/
def isBlankChar (c : Char) : Bool := c == ' ' || c == '\t' || isNewline c

/-- What follows a comment, given what follows its opening mark. -/
def skipComment : List Char → List Char
  | [] => []
  | '*' :: '/' :: r => r
  | _ :: r => skipComment r

theorem length_skipComment_le (s : List Char) : (skipComment s).length ≤ s.length := by
  fun_induction skipComment s <;> simp_all <;> omega

/-- Drops white space and comments. -/
def skipBlank : List Char → List Char
  | [] => []
  | '/' :: '*' :: r => skipBlank (skipComment r)
  | c :: r => if isBlankChar c then skipBlank r else c :: r
termination_by s => s.length
decreasing_by
  · have := length_skipComment_le r
    simp only [List.length_cons]
    omega
  · simp

theorem length_skipBlank_le (s : List Char) : (skipBlank s).length ≤ s.length := by
  fun_induction skipBlank s with
  | case1 => simp
  | case2 r ih =>
    have := length_skipComment_le r
    simp only [List.length_cons]
    omega
  | case3 c r _ _ ih => exact Nat.le_succ_of_le ih
  | case4 c r _ _ => exact Nat.le_refl _

/-! ## Names -/

/-- What stands for a character that cannot be written. -/
def replacement : Char := '\uFFFD'

/-- Whether a backslash before `r` begins an escape. -/
def isEscape (r : List Char) : Bool := !(r.head?.any isNewline)

/-- A character that may begin a name: an ASCII letter, `_`, NUL or anything beyond ASCII. -/
def isNameStart (c : Char) : Bool :=
  isAsciiLetter c || c == '_' || c == '\x00' || 0x80 ≤ c.toNat

/-- A character that may stand inside a name. -/
def isNameChar (c : Char) : Bool := isNameStart c || c.isDigit || c == '-'

/-- Whether a name begins the text. -/
def startsName : List Char → Bool
  | '\\' :: r => isEscape r
  | '-' :: '\\' :: r => isEscape r
  | '-' :: c :: _ => isNameStart c || c == '-'
  | c :: _ => isNameStart c
  | [] => false

/-- Drops the white space that may end a hexadecimal escape: one character, or a carriage return
    and a line feed. -/
def dropEscapeEnd : List Char → List Char
  | '\r' :: '\n' :: r => r
  | c :: r => if isBlankChar c then r else c :: r
  | [] => []

/-- The character of a hexadecimal escape.  Zero, surrogates and numbers beyond the last code
    point have none of their own. -/
def escapedChar (n : Nat) : Char :=
  if n ≠ 0 ∧ n.isValidChar then Char.ofNat n else replacement

/-- The character that an escape stands for, and what follows it, given what follows its
    backslash. -/
def takeEscape : List Char → Char × List Char
  | [] => (replacement, [])
  | c :: r =>
    let digits := (((c :: r).take 6).takeWhile isHexDigit).filterMap hexValue?
    if digits = [] then (if c = '\x00' then replacement else c, r)
    else
      (escapedChar (digits.foldl (fun n d => 16 * n + d) 0),
        dropEscapeEnd ((c :: r).drop digits.length))

theorem length_takeEscape_le (s : List Char) : (takeEscape s).2.length ≤ s.length := by
  have hend : ∀ t : List Char, (dropEscapeEnd t).length ≤ t.length := fun t => by
    fun_cases dropEscapeEnd t <;> simp; omega
  match s with
  | [] => simp [takeEscape]
  | c :: r =>
    rw [takeEscape]
    split
    · simp
    · exact Nat.le_trans (hend _) (by simp)

/-- The longest name at the front of the text, escapes resolved, and what follows it. -/
def takeName : List Char → List Char × List Char
  | [] => ([], [])
  | '\\' :: r =>
    if isEscape r then
      let (name, rest) := takeName (takeEscape r).2
      ((takeEscape r).1 :: name, rest)
    else ([], '\\' :: r)
  | c :: r =>
    if isNameChar c then
      let (name, rest) := takeName r
      ((if c = '\x00' then replacement else c) :: name, rest)
    else ([], c :: r)
termination_by s => s.length
decreasing_by
  · exact Nat.lt_succ_of_le (length_takeEscape_le r)
  · simp

theorem length_takeName_le (s : List Char) : (takeName s).2.length ≤ s.length := by
  fun_induction takeName s with
  | case1 => simp
  | case2 r _ name rest heq ih =>
    have := length_takeEscape_le r
    simp only [heq, List.length_cons] at ih ⊢
    omega
  | case3 => simp
  | case4 c r _ _ name rest heq ih =>
    simp only [heq, List.length_cons] at ih ⊢
    omega
  | case5 => simp

/-- A name takes at least one character. -/
theorem length_takeName_lt {c : Char} {r : List Char} (h : startsName (c :: r)) :
    (takeName (c :: r)).2.length ≤ r.length := by
  unfold takeName
  split
  · cases ‹c :: r = []›
  · next t heq =>
    obtain ⟨rfl, rfl⟩ := List.cons.inj heq
    rw [startsName] at h
    rw [if_pos h]
    exact Nat.le_trans (length_takeName_le _) (length_takeEscape_le _)
  · next d t hne heq =>
    obtain ⟨rfl, rfl⟩ := List.cons.inj heq
    have hc : isNameChar c := by
      unfold startsName at h
      split at h <;> simp_all [isNameChar]
    rw [if_pos hc]
    exact length_takeName_le _

/-! ## Numbers -/

/-- The value of the digits before a point, one digit after the other. -/
def wholeValue (digits : List Char) : Float :=
  digits.foldl (fun v d => v * 10 + Float.ofNat (digitsValue [d])) 0

/-- The value of the digits after a point: the sum of each digit times its power of a tenth. -/
def fractionValue (digits : List Char) : Float :=
  (digits.foldl (fun (v, factor) d => (v + Float.ofNat (digitsValue [d]) * factor, factor * 0.1))
    ((0, 0.1) : Float × Float)).1

/-- The nearest double precision number to a power of ten. -/
def powerOfTen (k : Int) : Float := Float.ofScientific 1 (k < 0) k.natAbs

/-- The digits after a point at the front of the text; a point without digits is left alone. -/
def takeFraction : List Char → List Char × List Char
  | '.' :: r => if (takeDigits r).1 = [] then ([], '.' :: r) else takeDigits r
  | r => ([], r)

/-- The number at the front of the text, in double precision, and what follows it. -/
def takeNumber (s : List Char) : Float × List Char :=
  let (negative, r) := takeSign s
  let (whole, r) := takeDigits r
  let (fraction, r) := takeFraction r
  let magnitude := wholeValue whole + fractionValue fraction
  let value := if negative then -magnitude else magnitude
  match takeExponent r with
  | (some k, rest) => (value * powerOfTen k, rest)
  | (none, rest) => (value, rest)

theorem length_takeSign_le (s : List Char) : (takeSign s).2.length ≤ s.length := by
  fun_cases takeSign s <;> simp

theorem length_takeDigits_le (s : List Char) : (takeDigits s).2.length ≤ s.length :=
  (List.dropWhile_sublist _).length_le

theorem length_takeFraction_le (s : List Char) : (takeFraction s).2.length ≤ s.length := by
  fun_cases takeFraction s with
  | case1 => simp
  | case2 r _ => exact Nat.le_succ_of_le (length_takeDigits_le r)
  | case3 => simp

theorem length_takeExponent_le (s : List Char) : (takeExponent s).2.length ≤ s.length := by
  match s with
  | [] => simp [takeExponent]
  | c :: r =>
    have := Nat.le_trans (length_takeDigits_le (takeSign r).2) (length_takeSign_le r)
    simp only [takeExponent]
    split
    · exact Nat.le_succ_of_le this
    · simp

/-- Whether a number begins the text. -/
def startsNumber (s : List Char) : Bool :=
  match (takeSign s).2 with
  | '.' :: c :: _ => c.isDigit
  | c :: _ => c.isDigit
  | [] => false

/-- A number takes nothing after its exponent. -/
theorem length_takeNumber_le_takeFraction (s : List Char) :
    (takeNumber s).2.length ≤ (takeFraction (takeDigits (takeSign s).2).2).2.length := by
  have h := length_takeExponent_le (takeFraction (takeDigits (takeSign s).2).2).2
  simp only [takeNumber]
  split <;> simp_all

/-- Digits and a fraction take at least one character, when they begin the text. -/
theorem length_takeFraction_lt {c : Char} {r : List Char}
    (h : c.isDigit ∨ c = '.' ∧ r.head?.any Char.isDigit) :
    (takeFraction (takeDigits (c :: r)).2).2.length ≤ r.length := by
  by_cases hc : c.isDigit
  · refine Nat.le_trans (length_takeFraction_le _) ?_
    simp only [takeDigits, List.dropWhile_cons, hc]
    exact (List.dropWhile_sublist _).length_le
  · obtain ⟨rfl, hd⟩ := h.resolve_left hc
    have hpoint : (takeDigits ('.' :: r)).2 = '.' :: r := by simp [takeDigits, hc]
    have hne : (takeDigits r).1 ≠ [] := by
      cases r with
      | nil => cases hd
      | cons d t => simp_all [takeDigits]
    rw [hpoint, takeFraction, if_neg hne]
    exact length_takeDigits_le r

/-- A number takes at least one character. -/
theorem length_takeNumber_le {c : Char} {r : List Char} (h : startsNumber (c :: r)) :
    (takeNumber (c :: r)).2.length ≤ r.length := by
  refine Nat.le_trans (length_takeNumber_le_takeFraction _) ?_
  have hsign : (takeSign (c :: r)).2 = r ∨ (takeSign (c :: r)).2 = c :: r := by
    unfold takeSign; split <;> simp_all
  rcases hsign with hsign | hsign
  · rw [hsign]
    exact Nat.le_trans (length_takeFraction_le _) (length_takeDigits_le r)
  · rw [startsNumber, hsign] at h
    rw [hsign]
    refine length_takeFraction_lt ?_
    split at h
    · next heq =>
      obtain ⟨rfl, rfl⟩ := List.cons.inj heq
      exact .inr ⟨rfl, h⟩
    · next heq =>
      obtain ⟨rfl, rfl⟩ := List.cons.inj heq
      exact .inl h
    · cases h

/-! ## The token stream -/

/-- A number with the percent sign or unit that follows it directly, and what follows them. -/
def takeNumeric (s : List Char) : Token × List Char :=
  let (value, r) := takeNumber s
  match r with
  | '%' :: rest => (.percentage (toSingle (value / 100)), rest)
  | _ =>
    if startsName r then
      (.dimension (toSingle value) (String.ofList (takeName r).1), (takeName r).2)
    else (.number (toSingle value), r)

theorem length_takeNumeric_le {c : Char} {r : List Char} (h : startsNumber (c :: r)) :
    (takeNumeric (c :: r)).2.length ≤ r.length := by
  have h := length_takeNumber_le h
  simp only [takeNumeric]
  split
  · next heq => rw [heq] at h; exact Nat.le_of_succ_le h
  · split
    · exact Nat.le_trans (length_takeName_le _) h
    · exact h

/-- Whether a hash may begin with the text after its `#`. -/
def startsHash (s : List Char) : Bool :=
  startsName s || s.head?.any fun c => c.isDigit || c == '-'

/-- The name at the front of the text, as a function if a parenthesis follows, and what follows
    it. -/
def takeNamed (s : List Char) : Token × List Char :=
  let name := String.ofList (takeName s).1
  match (takeName s).2 with
  | '(' :: rest => (.function name, rest)
  | rest => (.ident name, rest)

theorem length_takeNamed_le (s : List Char) :
    (takeNamed s).2.length ≤ (takeName s).2.length := by
  simp only [takeNamed]
  split
  · next heq => simp [heq]
  · exact Nat.le_refl _

/-- The token that begins with `c`, and what follows it. -/
def takeToken (c : Char) (r : List Char) : Token × List Char :=
  if startsNumber (c :: r) then takeNumeric (c :: r)
  else if startsName (c :: r) then takeNamed (c :: r)
  else if c = '#' ∧ startsHash r then
    (.hash (String.ofList (takeName r).1), (takeName r).2)
  else (.symbol c, r)

theorem length_takeToken_le (c : Char) (r : List Char) :
    (takeToken c r).2.length ≤ r.length := by
  rw [takeToken]
  split
  · next h => exact length_takeNumeric_le h
  · split
    · next h => exact Nat.le_trans (length_takeNamed_le _) (length_takeName_lt h)
    · split
      · exact length_takeName_le r
      · exact Nat.le_refl _

/-- The tokens of a text. -/
def tokensOf (s : List Char) : List Token :=
  match _heq : skipBlank s with
  | [] => []
  | c :: r => (takeToken c r).1 :: tokensOf (takeToken c r).2
termination_by s.length
decreasing_by
  have h₁ := length_skipBlank_le s
  have h₂ := length_takeToken_le c r
  rw [_heq] at h₁
  simp only [List.length_cons] at h₁
  omega

/-- The tokens of a text. -/
def tokens (s : String) : List Token := tokensOf s.toList

end UtilityStyle.Css
