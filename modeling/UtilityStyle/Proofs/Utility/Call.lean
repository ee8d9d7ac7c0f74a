/-
  Calls in square brackets.

  A content that is a call of a known function is read as that call, whatever its arguments hold:
  no type hint is cut off inside of it, and no other form takes it.

  * `hinted_append_of_isCall`: the type hint in front of a call is the one that was written;
  * `Form.read?_of_isCall`, `Form.read?_of_not_isCall`: a call has the form of its function, and
    other content is a hexadecimal color or plain;
  * `Fragment.read?_of_isCall`: so both are read off the brackets.
-/
import UtilityStyle.Proofs.Text.Group
import UtilityStyle.Proofs.Utility.Fragment

namespace UtilityStyle

open Text

variable {form : Form} {content arguments : List Char}

/-! ## Type hints -/

theorem colon_not_mem_of_mem_calls : ∀ form ∈ Form.calls, ':' ∉ form.name.toList := by decide

theorem round_not_mem_of_mem_typeHints : ∀ hint ∈ typeHints, '(' ∉ hint.toList := by decide

/-- Two texts that go on with different characters, neither of which the other one holds before,
    differ. -/
theorem append_cons_ne {a b x y : List Char} {c d : Char} (hcd : c ≠ d) (ha : d ∉ a) (hb : c ∉ b) :
    a ++ c :: x ≠ b ++ d :: y := by
  intro h
  rcases List.append_eq_append_iff.1 h with ⟨r, rfl, hr⟩ | ⟨r, rfl, hr⟩
  · cases r with
    | nil => exact hcd (List.cons.inj hr).1
    | cons e r =>
      obtain rfl := (List.cons.inj hr).1
      exact hb (by simp)
  · cases r with
    | nil => exact hcd (List.cons.inj hr).1.symm
    | cons e r =>
      obtain rfl := (List.cons.inj hr).1
      exact ha (by simp)

/-- The type hint in front of a call is the one that was written there. -/
theorem hinted_append_of_isCall {hint : Option String} (hhint : ∀ h ∈ hint, h ∈ typeHints)
    (hform : form ∈ Form.calls) (hcall : IsCall form.name content arguments) :
    Hinted (hintText hint ++ content) hint content := by
  cases hint with
  | some h => exact .hint (hhint h rfl) rfl
  | none =>
    refine .plain fun h hmem rest heq => ?_
    obtain ⟨call, rfl, rfl, -⟩ := hcall
    -- A call opens its parenthesis before any colon, and a hint has none before its own.
    refine append_cons_ne (c := '(') (d := ':') (by decide) (colon_not_mem_of_mem_calls form hform)
      (round_not_mem_of_mem_typeHints h hmem)
      (heq.trans (List.append_assoc h.toList [':'] rest))

/-! ## Forms -/

namespace Form

/-- The forms are called by different names. -/
theorem eq_of_name_eq : ∀ form ∈ calls, ∀ form' ∈ calls, form.name = form'.name → form = form' := by
  decide

/-- A call has one form. -/
theorem eq_of_isCall {form' : Form} {arguments' : List Char}
    (h : IsCall form.name content arguments) (h' : IsCall form'.name content arguments')
    (hform : form ∈ calls) (hform' : form' ∈ calls) : form = form' := by
  have hcut := h.splitFirst? hform
  rw [h'.splitFirst? hform'] at hcut
  exact eq_of_name_eq form hform form' hform'
    (String.toList_inj.1 (Prod.mk.inj (Option.some.inj hcut)).1.symm)

/-- **A call has the form of its function**, unless it has blank arguments. -/
theorem read?_of_isCall (hform : form ∈ calls) (hcall : IsCall form.name content arguments)
    (hblank : isBlank arguments = false) :
    read? content = some (form, form.kept content arguments) := by
  have hread : (callArguments? form.name content).map (form, ·) = some (form, arguments) := by
    rw [callArguments?_eq_some_iff.2 hcall]
    rfl
  have hfound : calls.findSome? (fun form => (callArguments? form.name content).map (form, ·)) =
      some (form, arguments) := by
    have hsome : (calls.findSome? fun form =>
        (callArguments? form.name content).map (form, ·)).isSome :=
      List.findSome?_isSome_iff.2 ⟨form, hform, by rw [hread]; rfl⟩
    obtain ⟨found, hfound⟩ := Option.isSome_iff_exists.1 hsome
    obtain ⟨form', hform', hread'⟩ := List.exists_of_findSome?_eq_some hfound
    obtain ⟨arguments', hcall', rfl⟩ := Option.map_eq_some_iff.1 hread'
    rw [callArguments?_eq_some_iff] at hcall'
    rw [hfound, eq_of_isCall hcall hcall' hform hform', hcall.unique hcall' hform hform']
  have hhex : isHexColor content = false := by
    obtain ⟨call, rfl, -⟩ := hcall
    exact isHexColor_append_of_mem_calls hform call
  rw [read?, hhex, hfound]
  simp [hblank]

/-- A content that is no call is a hexadecimal color or plain. -/
theorem read?_of_not_isCall
    (h : ∀ form ∈ calls, ∀ arguments, ¬IsCall form.name content arguments) :
    read? content =
      some (if isHexColor content then (hex, content)
        else (plain, if hasPiece "url(".toList content then content else spaced content)) := by
  have hnone : calls.findSome? (fun form => (callArguments? form.name content).map (form, ·)) =
      none := by
    refine List.findSome?_eq_none_iff.2 fun form hform => Option.map_eq_none_iff.2 ?_
    refine Option.eq_none_iff_forall_ne_some.2 fun arguments hcall => ?_
    exact h form hform arguments (callArguments?_eq_some_iff.1 hcall)
  rw [read?, hnone]
  split <;> rfl

end Form

/-! ## Fragments -/

theorem IsCall.nested (hform : form ∈ Form.calls) (hcall : IsCall form.name content arguments) :
    Nested content := by
  have hname : ∀ form ∈ Form.calls, form.name.toList.any isBracket = false := by decide
  obtain ⟨call, rfl, rfl, harguments⟩ := hcall
  refine (nested_of_forall_not_isBracket ?_).append (.group .round harguments .nil)
  simpa using hname form hform

/-- **A call in square brackets**, behind a type hint or not, is read as such. -/
theorem Fragment.read?_of_isCall {hint : Option String} (hhint : ∀ h ∈ hint, h ∈ typeHints)
    (hform : form ∈ Form.calls) (hcall : IsCall form.name content arguments)
    (hblank : isBlank arguments = false) :
    read? ('[' :: (hintText hint ++ content ++ [']'])) =
      some (arbitrary hint form (String.ofList (form.kept content arguments))) := by
  have hround : '(' ∈ content := by
    obtain ⟨call, rfl, rfl, -⟩ := hcall
    exact List.mem_append_right _ List.mem_cons_self
  have hinner : Nested (hintText hint ++ content) :=
    (nested_of_forall_not_isBracket (isBracket_hintText hhint)).append (hcall.nested hform)
  have henclosed : enclosed? ('[' :: (hintText hint ++ content ++ [']'])) =
      some (hintText hint ++ content) := by
    refine (enclosed?_eq_some_iff .square rfl).2 ⟨⟨rfl, hinner⟩, ?_⟩
    exact List.all_eq_false.2 ⟨'(', List.mem_append_right _ hround, by decide⟩
  have hcontent : isBlank content = false := List.all_eq_false.2 ⟨'(', hround, by decide⟩
  have hhinted := takeHint_eq_iff.2 (hinted_append_of_isCall hhint hform hcall)
  show readArbitrary? _ = _
  rw [readArbitrary?, henclosed, Option.bind_eq_bind, Option.bind_some, hhinted]
  simp [hcontent, Form.read?_of_isCall hform hcall hblank]

end UtilityStyle
