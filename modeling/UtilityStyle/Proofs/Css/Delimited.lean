/-
  Delimited texts of CSS.

  A reader of CSS has some brackets open, may be in a string, and may have met a backslash that
  escapes the next character.  `Reading.run` takes a reader through a text.  A text is delimited if
  it leaves a reader where it has found it: every bracket is closed by its own kind, nothing closes
  unopened, and every string ends.

  * `IsDelimited.run_outside`: a delimited text does so whatever brackets are open around it;
  * `Inert`: texts that do so in a string as well, and `inert_escapeIdentifier`: an escaped
    identifier is one of them;
  * `StaysQuoted.isDelimited`: a text that does so in a string may be put in quotes;
  * `IsTemplate.substitute`: a delimited text may be put in the place of the marks of a template,
    which stand outside its strings, and `isDelimited_substitute_iff`: a text that does what a mark
    does may be put in the place of any.
-/
import UtilityStyle.Css.Identifier
import UtilityStyle.Proofs.Text.Nesting
import UtilityStyle.Text.Pieces

namespace UtilityStyle.Css

open Text

/-! ## Readers -/

/-- The quotes around strings. -/
inductive Quote where
  | single
  | double
deriving DecidableEq, Repr

/-- The quote that a character is. -/
def Quote.of? : Char → Option Quote
  | '"' => some .double
  | '\x27' => some .single
  | _ => none

/-- Where a reader of CSS stands in a text. -/
structure Reading where
  /-- The brackets that are open, the innermost first. -/
  opened : List Bracket
  /-- The quote of the string that the reader is in. -/
  string : Option Quote
  /-- Whether a backslash escapes the next character. -/
  escaped : Bool
deriving DecidableEq, Repr

namespace Reading

/-- A reader outside all strings. -/
def outside (opened : List Bracket) : Reading := ⟨opened, none, false⟩

/-- What is open after a bracket of a kind is closed, if it is the innermost. -/
def close? (kind : Bracket) : List Bracket → Option (List Bracket)
  | top :: outer => if top = kind then some outer else none
  | [] => none

/-- The reader after a character that no backslash escapes. -/
def stepPlain (r : Reading) (c : Char) : Option Reading :=
  match Quote.of? c, r.string with
  | some quote, none => some { r with string := some quote }
  | some quote, some started => some { r with string := if quote = started then none else started }
  | none, some _ => some r
  | none, none =>
    match Bracket.opened? c, Bracket.closed? c with
    | some kind, _ => some { r with opened := kind :: r.opened }
    | none, some kind => (close? kind r.opened).map ({ r with opened := · })
    | none, none => some r

/-- The reader after a character.  There is none if a bracket closes that is not the innermost. -/
def step (r : Reading) (c : Char) : Option Reading :=
  if r.escaped then some { r with escaped := false }
  else if c = '\\' then some { r with escaped := true }
  else r.stepPlain c

/-- The reader after a text. -/
def run (r : Reading) (s : List Char) : Option Reading := s.foldlM step r

end Reading

/-- A text leaves a reader that starts with it where it was. -/
def IsDelimited (s : String) : Prop := (Reading.outside []).run s.toList = some (.outside [])

instance : DecidablePred IsDelimited := fun s =>
  inferInstanceAs (Decidable ((Reading.outside []).run s.toList = some (.outside [])))

example : IsDelimited ":is([dir=\"]\"], \\()" ∧ ¬ IsDelimited "[a=\"b\"c\"]" := by decide

/-- A text leaves a reader that starts with it in a string of double quotes where it was. -/
def StaysQuoted (s : String) : Prop :=
  Reading.run ⟨[], some .double, false⟩ s.toList = some ⟨[], some .double, false⟩

instance : DecidablePred StaysQuoted := fun s =>
  inferInstanceAs (Decidable (Reading.run ⟨[], some .double, false⟩ s.toList = _))

namespace Reading

variable {r r' : Reading} {c : Char} {s t : List Char}

@[simp] theorem run_nil : r.run [] = some r := rfl

@[simp] theorem run_cons : r.run (c :: s) = (r.step c).bind (·.run s) := rfl

theorem run_append : r.run (s ++ t) = (r.run s).bind (·.run t) := List.foldlM_append

theorem step_of_escaped (h : r.escaped = true) (c : Char) :
    r.step c = some { r with escaped := false } := if_pos h

theorem step_backslash (h : r.escaped = false) :
    r.step '\\' = some { r with escaped := true } := by simp [step, h]

/-! ## Brackets around a text -/

/-- The reader with more brackets open around it. -/
def within (r : Reading) (outer : List Bracket) : Reading :=
  { r with opened := r.opened ++ outer }

theorem close?_append {kind : Bracket} {opened rest : List Bracket}
    (h : close? kind opened = some rest) (outer : List Bracket) :
    close? kind (opened ++ outer) = some (rest ++ outer) := by
  cases opened with
  | nil => cases h
  | cons top opened =>
    simp only [close?, List.cons_append] at h ⊢
    split_ifs at h ⊢ with htop
    rw [Option.some.inj h]

theorem stepPlain_within (h : r.stepPlain c = some r') (outer : List Bracket) :
    (r.within outer).stepPlain c = some (r'.within outer) := by
  obtain ⟨opened, string, escaped⟩ := r
  simp only [stepPlain, within] at h ⊢
  split at h
  · cases h
    rfl
  · cases h
    rfl
  · cases h
    rfl
  · split at h
    · cases h
      rfl
    · obtain ⟨rest, hrest, rfl⟩ := Option.map_eq_some_iff.1 h
      simp only [close?_append hrest, Option.map_some]
    · cases h
      rfl

/-- A step does not depend on what is open further out. -/
theorem step_within (h : r.step c = some r') (outer : List Bracket) :
    (r.within outer).step c = some (r'.within outer) := by
  unfold step at h ⊢
  have hescaped : (r.within outer).escaped = r.escaped := rfl
  rw [hescaped]
  split_ifs at h ⊢ with he hc
  · cases h
    rfl
  · cases h
    rfl
  · exact stepPlain_within h outer

/-- **What is open further out** does not count. -/
theorem run_within (h : r.run s = some r') (outer : List Bracket) :
    (r.within outer).run s = some (r'.within outer) := by
  induction s generalizing r with
  | nil =>
    cases h
    rfl
  | cons c s ih =>
    obtain ⟨next, hnext, hrun⟩ := Option.bind_eq_some_iff.1 h
    rw [run_cons, step_within hnext, Option.bind_some]
    exact ih hrun

end Reading

/-! ## Inert texts -/

/-- The characters that count for a reader. -/
def delimiters : List Char := ['\\', '"', '\x27', '[', ']', '(', ')']

/-- A text leaves every reader where it was that no backslash holds, even in a string. -/
def Inert (s : List Char) : Prop := ∀ r : Reading, r.escaped = false → r.run s = some r

theorem Quote.of?_eq_none {c : Char} (h : c ∉ delimiters) : Quote.of? c = none := by
  unfold Quote.of?
  split
  · exact absurd (by decide) h
  · exact absurd (by decide) h
  · rfl

namespace Reading

/-- Any other character ends an escape, and does no more. -/
theorem step_of_notMem {c : Char} (h : c ∉ delimiters) (r : Reading) :
    r.step c = some { r with escaped := false } := by
  have hbackslash : c ≠ '\\' := List.ne_of_not_mem_cons h
  have hbracket : isBracket c = false := by
    refine Bool.eq_false_iff.2 fun hc => h ?_
    have hsub : ∀ b ∈ ['[', ']', '(', ')'], b ∈ delimiters := by decide
    exact hsub c (isBracket_iff.1 hc)
  obtain ⟨hopened, hclosed⟩ := isBracket_eq_false_iff.1 hbracket
  obtain ⟨opened, string, escaped⟩ := r
  cases escaped with
  | true => rfl
  | false =>
    simp only [step, hbackslash, stepPlain, Quote.of?_eq_none h, hopened, hclosed, if_false,
      Bool.false_eq_true]
    cases string <;> rfl

end Reading

/-- The characters of a class are no delimiters if the class has none of them. -/
theorem notMem_delimiters {p : Char → Bool} (hp : ∀ c ∈ delimiters, p c = false) {c : Char}
    (hc : p c = true) : c ∉ delimiters := fun hmem => by
  rw [hp c hmem] at hc
  cases hc

namespace Inert

variable {s t : List Char}

theorem nil : Inert [] := fun _ _ => rfl

theorem append (hs : Inert s) (ht : Inert t) : Inert (s ++ t) := by
  intro r hr
  rw [Reading.run_append, hs r hr, Option.bind_some, ht r hr]

theorem flatMap {f : Char → List Char} (h : ∀ c ∈ s, Inert (f c)) : Inert (s.flatMap f) := by
  induction s with
  | nil => exact nil
  | cons c s ih =>
    obtain ⟨hc, hs⟩ := List.forall_mem_cons.1 h
    exact hc.append (ih hs)

theorem of_notMem (h : ∀ c ∈ s, c ∉ delimiters) : Inert s := by
  intro r hr
  induction s with
  | nil => rfl
  | cons c s ih =>
    obtain ⟨hc, hs⟩ := List.forall_mem_cons.1 h
    rw [Reading.run_cons, Reading.step_of_notMem hc, Option.bind_some, ← hr]
    exact ih hs

/-- A character that is written as it is. -/
theorem cons {c : Char} (hc : c ∉ delimiters) (hs : Inert s) : Inert (c :: s) :=
  append (s := [c]) (of_notMem (List.forall_mem_singleton.2 hc)) hs

/-- A backslash takes the next character, whichever it is, and nothing after it. -/
theorem escape (c : Char) (hs : Inert s) : Inert ('\\' :: c :: s) := by
  intro r hr
  rw [Reading.run_cons, Reading.step_backslash hr, Option.bind_some, Reading.run_cons,
    Reading.step_of_escaped rfl, Option.bind_some, ← hr]
  exact hs r hr

end Inert

/-! ### Identifiers -/

/-- The escape of a character by its number. -/
theorem inert_hexEscape {c : Char} (h : c.toNat < 128) : Inert (hexEscape c) := by
  have hdigits : ∀ n < 128, ∀ d ∈ Nat.toDigits 16 n ++ [' '], d ∉ delimiters := by
    decide +kernel
  have hplain := hdigits _ h
  rw [hexEscape]
  -- There is something after the backslash, if only the space.
  cases hs : Nat.toDigits 16 c.toNat ++ [' '] with
  | nil => simp at hs
  | cons d s =>
    rw [hs] at hplain
    exact .escape d (.of_notMem (List.forall_mem_cons.1 hplain).2)

theorem notMem_delimiters_of_name {c : Char}
    (h : isAsciiAlphanumeric c ∨ c = '_' ∨ c = '-' ∨ c.toNat ≥ 128) : c ∉ delimiters := by
  have hnone : ∀ d ∈ delimiters,
      ¬ (isAsciiAlphanumeric d ∨ d = '_' ∨ d = '-' ∨ d.toNat ≥ 128) := by decide
  exact fun hmem => hnone c hmem h

theorem inert_escapeNameChar (c : Char) : Inert (escapeNameChar c) := by
  unfold escapeNameChar
  split_ifs with hname hnull hcontrol
  · exact .cons (notMem_delimiters_of_name hname) .nil
  · exact .cons (by decide) .nil
  · exact inert_hexEscape (by omega)
  · exact .escape c .nil

theorem inert_escapeName (s : List Char) : Inert (escapeName s) :=
  .flatMap fun c _ => inert_escapeNameChar c

theorem inert_escapeStart (s : List Char) : Inert (escapeStart s) := by
  cases s with
  | nil => exact .nil
  | cons c s =>
    rw [escapeStart]
    split_ifs with hdigit
    · have hcode : c.toNat < 128 := by
        simp only [Char.isDigit, Bool.and_eq_true, decide_eq_true_eq, UInt32.le_iff_toNat_le]
          at hdigit
        exact Nat.lt_of_le_of_lt hdigit.2 (by decide)
      exact (inert_hexEscape hcode).append (inert_escapeName s)
    · exact inert_escapeName (c :: s)

/-- **An escaped identifier** may stand anywhere. -/
theorem inert_escapeIdentifier (s : String) : Inert (escapeIdentifier s).toList := by
  have hdash : '-' ∉ delimiters := by decide
  rw [escapeIdentifier, String.toList_ofList]
  split
  · exact .cons hdash (.cons hdash (inert_escapeName _))
  · exact .escape '-' .nil
  · exact .cons hdash (inert_escapeStart _)
  · exact inert_escapeStart _

/-! ## Delimited texts -/

namespace Inert

variable {s : String} (h : Inert s.toList)
include h

theorem isDelimited : IsDelimited s := h _ rfl

theorem isDelimited_append_iff {t : String} : IsDelimited (s ++ t) ↔ IsDelimited t := by
  rw [IsDelimited, String.toList_append, Reading.run_append, h _ rfl, Option.bind_some, IsDelimited]

/-- After a space no backslash holds the reader. -/
theorem isDelimited_space_append_iff {t : String} :
    IsDelimited (t ++ " " ++ s) ↔ IsDelimited (t ++ " ") := by
  have hspace (r : Reading) : r.run " ".toList = some { r with escaped := false } := by
    have hlist : " ".toList = [' '] := rfl
    rw [hlist, Reading.run_cons, Reading.step_of_notMem (by decide), Option.bind_some,
      Reading.run_nil]
  simp only [IsDelimited, String.toList_append, Reading.run_append]
  cases (Reading.outside []).run t.toList with
  | none => rfl
  | some r => rw [Option.bind_some, hspace, Option.bind_some, h _ rfl]

end Inert

namespace IsDelimited

variable {s t : String}

/-- **A delimited text** leaves a reader where it was, whatever brackets are open around it. -/
theorem run_outside (h : IsDelimited s) (opened : List Bracket) :
    (Reading.outside opened).run s.toList = some (.outside opened) := Reading.run_within h opened

theorem append (hs : IsDelimited s) (ht : IsDelimited t) : IsDelimited (s ++ t) := by
  rw [IsDelimited, String.toList_append, Reading.run_append, hs, Option.bind_some, ht]

theorem join {l : List String} (h : ∀ s ∈ l, IsDelimited s) : IsDelimited (String.join l) := by
  induction l with
  | nil => decide
  | cons s l ih =>
    obtain ⟨hs, hl⟩ := List.forall_mem_cons.1 h
    rw [String.join_cons]
    exact hs.append (ih hl)

end IsDelimited

/-- A text between two others, of which the second closes what the first one opens. -/
theorem isDelimited_around {front s back : String} {r : Reading}
    (hfront : (Reading.outside []).run front.toList = some r) (hs : r.run s.toList = some r)
    (hback : r.run back.toList = some (.outside [])) : IsDelimited (front ++ s ++ back) := by
  rw [IsDelimited, String.toList_append, String.toList_append, Reading.run_append,
    Reading.run_append, hfront, Option.bind_some, hs, Option.bind_some, hback]

theorem IsDelimited.squared {s : String} (h : IsDelimited s) : IsDelimited ("[" ++ s ++ "]") :=
  isDelimited_around (r := .outside [.square]) (by decide) (h.run_outside _) (by decide)

theorem IsDelimited.rounded {s : String} (h : IsDelimited s) : IsDelimited ("(" ++ s ++ ")") :=
  isDelimited_around (r := .outside [.round]) (by decide) (h.run_outside _) (by decide)

/-- **A text that stays in its string** may be put in quotes. -/
theorem StaysQuoted.isDelimited {s : String} (h : StaysQuoted s) :
    IsDelimited ("\"" ++ s ++ "\"") := isDelimited_around (by decide) h (by decide)

/-! ## Templates -/

namespace Reading

/-- The reader of a template after a character: marks stand outside strings, and no backslash
    escapes them. -/
def stepMarked (r : Reading) (c : Char) : Option Reading :=
  if c = '&' then if r = outside r.opened then some r else none else r.step c

end Reading

/-- A template is delimited, and so is a text that takes the place of its marks. -/
def IsTemplate (s : String) : Prop :=
  s.toList.foldlM Reading.stepMarked (.outside []) = some (.outside [])

instance : DecidablePred IsTemplate := fun s =>
  inferInstanceAs (Decidable (s.toList.foldlM Reading.stepMarked (.outside []) = _))

example : IsTemplate "& > *, &[a=\"(\"]" ∧ ¬ IsTemplate "[a=\"&\"]" := by decide

/-- The reader of the marks takes the same way as that of what is put in their place. -/
theorem IsDelimited.run_substitute {body : String} (hbody : IsDelimited body) {s : List Char}
    {r r' : Reading} (h : s.foldlM Reading.stepMarked r = some r') :
    r.run (s.flatMap fun c => if c = '&' then body.toList else [c]) = some r' := by
  induction s generalizing r with
  | nil => exact h
  | cons c s ih =>
    rw [List.foldlM_cons] at h
    obtain ⟨next, hnext, hrest⟩ := Option.bind_eq_some_iff.1 h
    rw [List.flatMap_cons, Reading.run_append]
    unfold Reading.stepMarked at hnext
    split_ifs at hnext with hc hr
    · obtain rfl := Option.some.inj hnext
      rw [if_pos hc, hr, hbody.run_outside, Option.bind_some, ← hr]
      exact ih hrest
    · rw [if_neg hc, Reading.run_cons, hnext]
      exact ih hrest

/-- **A delimited text in the place of the marks** of a template. -/
theorem IsTemplate.substitute {template body : String} (h : IsTemplate template)
    (hbody : IsDelimited body) : IsDelimited (substitute '&' body template) := by
  rw [IsDelimited, Text.substitute, String.toList_ofList]
  exact hbody.run_substitute h

/-- **A text that does what a mark does** may take the place of any, in a string too. -/
theorem isDelimited_substitute_iff {body : String}
    (hbody : ∀ r : Reading, r.run body.toList = some { r with escaped := false })
    (template : String) : IsDelimited (substitute '&' body template) ↔ IsDelimited template := by
  have hmark (r : Reading) : r.step '&' = some { r with escaped := false } :=
    Reading.step_of_notMem (by decide) r
  have hrun (s : List Char) (r : Reading) :
      r.run (s.flatMap fun c => if c = '&' then body.toList else [c]) = r.run s := by
    induction s generalizing r with
    | nil => rfl
    | cons c s ih =>
      rw [List.flatMap_cons, Reading.run_append, Reading.run_cons]
      split_ifs with hc
      · rw [hc, hbody, hmark, Option.bind_some, Option.bind_some, ih]
      · rw [Reading.run_cons, Option.bind_assoc]
        exact Option.bind_congr fun r _ => ih r
  rw [IsDelimited, IsDelimited, substitute, String.toList_ofList, hrun]

end UtilityStyle.Css
