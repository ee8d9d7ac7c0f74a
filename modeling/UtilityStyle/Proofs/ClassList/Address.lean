/-
  Addresses of background images.

  An address stands in a call of `url` in square brackets, as it is or in quotes.  Each stage of the
  way from a class list to a layer takes something off or puts something around it, and none of them
  looks inside:

  * `Fragment.read?_urlText`: the fragment holds the address without its quotes;
  * `Catalog.read?_url`: of all rules that know the stem, the one for images takes it;
  * `Declaration.plan_url`: the layer gets an image with this address;
  * `ClassList.compile_url`: so a class list of this one class paints the image and nothing else.
-/
import UtilityStyle.ClassList
import UtilityStyle.Proofs.Catalog
import UtilityStyle.Proofs.Catalog.Importance
import UtilityStyle.Proofs.Lowering.Atomic
import UtilityStyle.Proofs.Utility.Call
import UtilityStyle.Proofs.Utility.Outline

namespace UtilityStyle

open Text

/-! ## Addresses -/

/-- An address that survives without quotes: no white space, nested brackets, and no pair of quotes
    around it. -/
structure IsAddress (u : List Char) : Prop where
  ne_nil : u ≠ []
  not_space : ∀ c ∈ u, isSpace c = false
  nested : Nested u
  unwrapped : ∀ q ∈ quotes, u.head? = some q → u.getLast? = some q → u = [q]

/-- An address as it may be written: as it stands or, if it begins with no quote, in quotes. -/
inductive IsWritten (u : List Char) : List Char → Prop
  | plain : IsWritten u u
  | quoted {q : Char} : q ∈ quotes → (∀ q' ∈ quotes, u.head? ≠ some q') →
    IsWritten u (q :: (u ++ [q]))

/-- The address in a call in square brackets. -/
def urlText (text : String) : String := "[url(" ++ text ++ ")]"

theorem quote_plain : ∀ q ∈ quotes, isSpace q = false ∧ isBracket q = false := by decide

section
variable {u text : List Char} (hu : IsAddress u) (htext : IsWritten u text)
include hu htext

theorem IsWritten.not_space : ∀ c ∈ text, isSpace c = false := by
  cases htext with
  | plain => exact hu.not_space
  | @quoted q hq _ =>
    intro c hc
    have hc : c = q ∨ c ∈ u := by simpa [or_comm] using hc
    rcases hc with rfl | hc
    · exact (quote_plain c hq).1
    · exact hu.not_space c hc

theorem IsWritten.nested : Nested text := by
  cases htext with
  | plain => exact hu.nested
  | quoted hq =>
    have hquote := (quote_plain _ hq).2
    exact .plain hquote (hu.nested.append (.plain hquote .nil))

theorem IsWritten.ne_nil : text ≠ [] := by
  cases htext with
  | plain => exact hu.ne_nil
  | quoted => exact List.cons_ne_nil _ _

theorem IsWritten.unquoted_eq : unquoted text = u := by
  cases htext with
  | plain => exact unquoted_of_unwrapped hu.unwrapped
  | quoted hq => exact unquoted_wrapped hq u

end

/-! ## Fragments -/

section
variable {text : String}

theorem isCall_url (h : Nested text.toList) :
    IsCall Form.url.name ("url(" ++ text ++ ")").toList text.toList :=
  ⟨("(" ++ text ++ ")").toList, by simp [Form.name],
    by simp [Bracket.opening, Bracket.closing], h⟩

theorem isOneGroup_urlText (h : Nested text.toList) : IsOneGroup (urlText text).toList :=
  ⟨.square, ("url(" ++ text ++ ")").toList,
    by simp [urlText, Bracket.opening, Bracket.closing], (isCall_url h).nested (by decide)⟩

variable {u : String} (hu : IsAddress u.toList) (htext : IsWritten u.toList text.toList)
include hu htext

/-- A call of `url` holds the address without its quotes. -/
theorem Fragment.read?_urlText : read? (urlText text).toList = some (arbitrary none .url u) := by
  have hblank := isBlank_of_no_space (htext.not_space hu) (htext.ne_nil hu)
  have hhint : ∀ h ∈ (none : Option String), h ∈ typeHints := by simp
  have hread := read?_of_isCall hhint (by decide) (isCall_url (htext.nested hu)) hblank
  have hsplit : (urlText text).toList =
      '[' :: (hintText none ++ ("url(" ++ text ++ ")").toList ++ [']']) := by
    simp [urlText, hintText]
  rw [hsplit, hread, Form.kept, htext.unquoted_eq hu, String.ofList_toList]

end

/-! ## The catalog -/

/-- The families of images take an address, and no others. -/
theorem Family.value?_url {family : Family} {theme : Theme} {token : UtilityToken} {u : String}
    (h : token.fragment = .arbitrary none .url u) :
    family.value? theme token =
      if family.shape.any fun shape => shape = .image ∨ shape = .any then
        some (.raw ("url(" ++ u ++ ")"), .arbitrary)
      else none := by
  rw [value?, h]
  cases family.shape with
  | none => rfl
  | some shape => simp [contentValue?]

/-- The declaration of a background image. -/
def imageDeclaration (u raw : String) : Declaration where
  property := .backgroundImage
  value := .raw ("url(" ++ u ++ ")")
  origin := .arbitrary
  raw := raw

namespace Catalog

/-- No fixed class has brackets. -/
theorem fixedClass?_of_bracket {raw : String} {c : Char} (hc : isBracket c = true)
    (hmem : c ∈ (UtilityToken.takeImportance raw.toList).1) : fixedClass? raw = none := by
  have hplain : ∀ entry ∈ fixedClasses, ∀ c ∈ entry.1.toList, isBracket c = false := by decide
  have hlookup : fixedClasses.lookup
      (String.ofList (UtilityToken.takeImportance raw.toList).1) = none := by
    refine List.lookup_eq_none_iff.2 fun entry hentry => bne_iff_ne.2 fun heq => ?_
    refine ne_of_isBracket hc (hplain entry hentry c ?_) rfl
    rwa [← heq, String.toList_ofList]
  rw [fixedClass?]
  dsimp only
  rw [hlookup]
  rfl

variable {u text : String} (hu : IsAddress u.toList) (htext : IsWritten u.toList text.toList)
include hu htext

theorem hasGroup_urlText (family : Family) (theme : Theme) :
    family.HasGroup theme "bg-".toList [] ("bg-" ++ urlText text)
      (family.shape.any fun shape => shape = .image ∨ shape = .any) (.raw ("url(" ++ u ++ ")"))
      .arbitrary where
  verbatim := .text _
  exists_group := ⟨_, _, isOneGroup_urlText (htext.nested hu), by simp,
    Fragment.read?_urlText hu htext, fun _ h => Family.value?_url h⟩

/-- A family makes of one address what it makes of another, under every theme. -/
theorem resolve?_url {family : Family} (hmem : family ∈ families) (theme : Theme) :
    family.resolve? theme ("bg-" ++ urlText text) =
      (family.resolve? .empty ("bg-" ++ urlText "x")).map
        (·.filled (.raw ("url(" ++ u ++ ")")) .arbitrary ("bg-" ++ urlText text)) := by
  have hx : IsAddress "x".toList := ⟨by decide, by decide, by decide, by decide⟩
  exact Family.resolve?_of_sample (isBracket_of_mem_stem hmem) (by decide)
    (hasGroup_urlText hu htext family theme) (hasGroup_urlText hx .plain family .empty)

theorem read?_url (theme : Theme) :
    builtIn.read? theme ("bg-" ++ urlText text) =
      some (imageDeclaration u ("bg-" ++ urlText text)) := by
  have hsample : families.findSome? (·.resolve? .empty ("bg-" ++ urlText "x")) =
      some (imageDeclaration "x" ("bg-" ++ urlText "x")) := by
    decide +kernel
  have hfound : families.findSome? (·.resolve? theme ("bg-" ++ urlText text)) =
      some (imageDeclaration u ("bg-" ++ urlText text)) := by
    rw [findSome?_congr fun family hmem => resolve?_url hu htext hmem theme]
    exact (List.map_findSome? ..).symm.trans (congrArg (Option.map _) hsample)
  have hchars : ("bg-" ++ urlText text).toList =
      'b' :: 'g' :: '-' :: '[' :: ("url(" ++ text ++ ")").toList ++ [']'] := by
    simp [urlText]
  have hbody : UtilityToken.takeImportance ("bg-" ++ urlText text).toList =
      (("bg-" ++ urlText text).toList, false) :=
    UtilityToken.takeImportance_plain (by rw [hchars]; simp)
      (by rw [hchars, List.getLast?_concat]; decide)
  have hfixed : fixedClass? ("bg-" ++ urlText text) = none := by
    refine fixedClass?_of_bracket (c := '[') rfl ?_
    rw [hbody, hchars]
    simp
  rw [read?, hfixed]
  exact hfound

end Catalog

/-! ## Layers -/

namespace Declaration

/-- No browser is needed for an address. -/
theorem binding?_url (u raw : String) : (imageDeclaration u raw).binding? = none := by
  have hpassthrough : Css.isPassthrough ("url(" ++ u ++ ")") = false := by
    simp [Css.isPassthrough, startsWith, after?, List.isPrefixOf]
  rw [binding?, opaqueBinding?, imageDeclaration]
  simp [hpassthrough]

variable {u : String} (hu : IsAddress u.toList)
include hu

theorem imageAddress?_url : imageAddress? ("url(" ++ u ++ ")") = some u := by
  obtain ⟨c, r, hcons⟩ := List.exists_cons_of_ne_nil hu.ne_nil
  have hinner : unquoted (trim u.toList) = c :: r := by
    rw [trim_of_no_space hu.not_space, unquoted_of_unwrapped hu.unwrapped, hcons]
  rw [imageAddress?, between?_append, Option.bind_eq_bind, Option.bind_some, hinner]
  simp [← hcons]

theorem plan_url (raw : String) (options : LoweringOptions) :
    (imageDeclaration u raw).plan options = .ok [.addFill (.image u .fill)] := by
  have himage : (imageDeclaration u raw).image = .ok (some u) := by
    show ((imageDeclaration u raw).orUnsupported (imageAddress? ("url(" ++ u ++ ")"))).map some = _
    rw [imageAddress?_url hu]
    rfl
  rw [plan_of_unbound (binding?_url u raw)]
  show (do return [imageEdit (← (imageDeclaration u raw).image)] : Except _ _) = _
  rw [himage]
  rfl

end Declaration

/-! ## Class lists -/

namespace ClassList

/-- A class of a background image has neither modifiers nor white space. -/
theorem split_url {u text : String} (hu : IsAddress u.toList)
    (htext : IsWritten u.toList text.toList) :
    ClassName.split ("bg-" ++ urlText text) = ⟨[], "bg-" ++ urlText text⟩ := by
  have hends : EndsAt ':' 0 ("bg-" ++ urlText text).toList := by
    rw [String.toList_append]
    exact (endsAt_of_plain (by decide)).append
      ((isOneGroup_urlText (htext.nested hu)).endsAt rfl)
  rw [ClassName.split, splitTop_of_endsAt hends]
  exact congrArg (ClassName.mk []) String.ofList_toList

theorem words_url {u text : String} (hu : IsAddress u.toList)
    (htext : IsWritten u.toList text.toList) :
    words ("bg-" ++ urlText text).toList = [("bg-" ++ urlText text).toList] := by
  refine words_of_no_space (fun c hc => ?_) (by simp [urlText])
  have hcases : c ∈ "bg-[url(".toList ∨ c ∈ text.toList ∨ c ∈ ")]".toList := by
    simpa [urlText, or_assoc] using hc
  rcases hcases with hfront | htext' | hback
  · exact (by decide : ∀ c ∈ "bg-[url(".toList, isSpace c = false) c hfront
  · exact htext.not_space hu c htext'
  · exact (by decide : ∀ c ∈ ")]".toList, isSpace c = false) c hback

/-- **The address of an image survives** the whole way.  A class list of one background image whose
    address has no white space, nested brackets and no pair of quotes around it, compiles under
    every theme and with all options to the image with this address and nothing else, whether the
    address is written in quotes or not. -/
theorem compile_url {u text : String} (hu : IsAddress u.toList)
    (htext : IsWritten u.toList text.toList) (theme : Theme) (options : LoweringOptions) :
    let list := compile .builtIn theme options ("bg-[url(" ++ text ++ ")]")
    list.unknown = [] ∧ list.variants = [] ∧
      list.style = { Layer.empty with fills := [.image u .fill] } := by
  have hclass : "bg-[url(" ++ text ++ ")]" = "bg-" ++ urlText text := by
    simp [urlText, ← String.toList_inj]
  have hentry : ClassEntry.read .builtIn theme ("bg-" ++ urlText text) =
      ⟨"bg-" ++ urlText text, [], "bg-" ++ urlText text,
        some (imageDeclaration u ("bg-" ++ urlText text))⟩ := by
    rw [ClassEntry.read, split_url hu htext, Catalog.read?_url hu htext]
    rfl
  rw [hclass]
  dsimp only
  rw [compile, words_url hu htext, List.map_singleton, String.ofList_toList, hentry]
  refine ⟨rfl, rfl, ?_⟩
  exact Layer.style_of_plan_ok (Declaration.plan_url hu _ options) .empty

/-- An address with slashes, an underscore, a colon, brackets and marks, in quotes. -/
theorem compile_url_marks :
    let u := "//a.b/c_d:(1)#!"
    let list := compile .builtIn .empty {} "bg-[url('//a.b/c_d:(1)#!')]"
    IsAddress u.toList ∧ IsWritten u.toList ("'" ++ u ++ "'").toList ∧ list.unknown = [] ∧
      list.style = { Layer.empty with fills := [.image u .fill] } := by
  intro u list
  have hu : IsAddress u.toList := ⟨by decide, by decide, by decide, by decide⟩
  have hquoted : ("'" ++ u ++ "'").toList = '\x27' :: (u.toList ++ ['\x27']) := by decide
  have htext : IsWritten u.toList ("'" ++ u ++ "'").toList := by
    rw [hquoted]
    exact .quoted (by decide) (by decide)
  have hclass : "bg-[url(" ++ ("'" ++ u ++ "'") ++ ")]" =
      "bg-[url('//a.b/c_d:(1)#!')]" := by decide
  have hlist := compile_url hu htext .empty {}
  rw [hclass] at hlist
  exact ⟨hu, htext, hlist.1, hlist.2.2⟩

end ClassList

end UtilityStyle
