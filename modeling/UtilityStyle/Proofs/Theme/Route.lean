/-
  The order in which a walk tries the ways through a theme document.

  * `Route`: the judgment `Leads` with the steps that are taken, and `Precedes`: which of two routes
    is tried first, by the first step in which they differ;
  * `IsFirst`: the route along a path that precedes all others;
  * `leads_iff_exists_route`: a path leads somewhere along its routes;
  * `exists_isFirst_of_find?`: the walk ends where the first route does;
  * `find?_isFirst`: so it finds a document exactly when the path leads to one, and the one it finds
    is that of the first route.
-/
import Mathlib.Data.List.Lex
import UtilityStyle.Proofs.Theme.Document

namespace UtilityStyle.Document

/-! ## Routes -/

/-- A step of a walk. -/
inductive Step where
  /-- Out of a table, through a key of so many segments. -/
  | key (length : Nat) (separator : String)
  /-- Out of a list. -/
  | index

/-- A step is tried before another one: a longer key before a shorter one, and of two keys of the
    same segments the one with points before the one with dashes. -/
def Step.Before : Step → Step → Prop
  | key m separator, key n separator' => n < m ∨ m = n ∧ separator = "." ∧ separator' = "-"
  | _, _ => False

/-- The steps lead from a document along the segments of a path to another document. -/
inductive Route : Document → List String → List Step → Document → Prop
  | here {doc} : Route doc [] [] doc
  | key {entries separator segment front rest child steps target} : separator ∈ [".", "-"] →
      entries.lookup (String.intercalate separator (segment :: front)) = some child →
      Route child rest steps target →
      Route (table entries) (segment :: (front ++ rest))
        (.key (front.length + 1) separator :: steps) target
  | index {items segment i child rest steps target} :
      Number.readNat? 64 segment.toList = some i → items[i]? = some child →
      Route child rest steps target →
      Route (list items) (segment :: rest) (.index :: steps) target

/-- A route is tried before another one if its step is, where they first differ. -/
abbrev Precedes : List Step → List Step → Prop := List.Lex Step.Before

/-- The route along a path that is tried before all others. -/
structure IsFirst (doc : Document) (path : List String) (steps : List Step) (target : Document) :
    Prop where
  route : Route doc path steps target
  precedes : ∀ steps' target', Route doc path steps' target' → steps' ≠ steps →
    Precedes steps steps'

theorem Step.Before.asymm {a b : Step} (h : a.Before b) : ¬ b.Before a := by
  cases a with
  | index => cases h
  | key m separator =>
    cases b with
    | index => cases h
    | key n separator' =>
      rintro (hlt | ⟨rfl, rfl, rfl⟩)
      · rcases h with h | ⟨rfl, -⟩ <;> omega
      · rcases h with h | ⟨-, h, -⟩
        · omega
        · exact absurd h (by decide)

section
variable {doc target target' : Document} {path : List String} {steps steps' : List Step}

theorem Route.leads (h : Route doc path steps target) : Leads doc path target := by
  induction h with
  | here => exact .here
  | key hs hc _ ih => exact .key hs (List.cons_ne_nil _ _) hc ih
  | index hi hc _ ih => exact .index hi hc ih

/-- **A path leads somewhere** along its routes. -/
theorem leads_iff_exists_route : Leads doc path target ↔ ∃ steps, Route doc path steps target := by
  constructor
  · intro h
    induction h with
    | here => exact ⟨_, .here⟩
    | key hs hg hc _ ih =>
      obtain ⟨steps, hsteps⟩ := ih
      obtain ⟨segment, front, rfl⟩ := List.exists_cons_of_ne_nil hg
      exact ⟨_, .key hs hc hsteps⟩
    | index hi hc _ ih =>
      obtain ⟨steps, hsteps⟩ := ih
      exact ⟨_, .index hi hc hsteps⟩
  · rintro ⟨steps, h⟩
    exact h.leads

/-- A route out of a table takes a key of the first segment and `n` more. -/
theorem Route.exists_key {entries : List (String × Document)} {segment : String}
    {more : List String} (h : Route (table entries) (segment :: more) steps target) :
    ∃ n ≤ more.length, ∃ separator ∈ [".", "-"], ∃ child rest,
      entries.lookup (String.intercalate separator (segment :: more.take n)) = some child ∧
        Route child (more.drop n) rest target ∧ steps = .key (n + 1) separator :: rest := by
  generalize hpath : segment :: more = path at h
  cases h with
  | here => cases hpath
  | @key _ separator _ front rest child steps _ hs hc hr =>
    obtain ⟨rfl, rfl⟩ := List.cons.inj hpath
    refine ⟨front.length, by simp, separator, hs, child, steps, ?_, ?_, rfl⟩
    · rwa [List.take_left]
    · rwa [List.drop_left]

/-- The steps decide where a route ends. -/
theorem Route.unique (h : Route doc path steps target) (h' : Route doc path steps target') :
    target = target' := by
  induction h with
  | here =>
    cases h'
    rfl
  | @key entries separator segment front rest child steps target hs hc _ ih =>
    obtain ⟨n, -, separator', -, child', rest', hc', hr', hsteps⟩ := h'.exists_key
    obtain ⟨hkey, rfl⟩ := List.cons.inj hsteps
    obtain ⟨hlength, rfl⟩ := Step.key.inj hkey
    obtain rfl : front.length = n := Nat.succ.inj hlength
    rw [List.take_left, hc] at hc'
    obtain rfl := Option.some.inj hc'
    rw [List.drop_left] at hr'
    exact ih hr'
  | index hi hc _ ih =>
    cases h' with
    | index hi' hc' hr' =>
      obtain rfl := Option.some.inj (hi.symm.trans hi')
      obtain rfl := Option.some.inj (hc.symm.trans hc')
      exact ih hr'

/-- Only one route along a path is the first. -/
theorem IsFirst.unique (h : IsFirst doc path steps target) (h' : IsFirst doc path steps' target') :
    target = target' := by
  by_cases heq : steps' = steps
  · subst heq
    exact h.route.unique h'.route
  · have hbefore := h.precedes steps' target' h'.route heq
    have hafter := h'.precedes steps target h.route (Ne.symm heq)
    exact absurd hafter (List.lex_asymm Step.Before.asymm hbefore)

end

/-! ## The walk -/

/-- **The walk finds a document** exactly when the path leads to one. -/
theorem isSome_find?_iff {doc : Document} {path : List String} :
    (doc.find? path).isSome ↔ ∃ target, Leads doc path target := by
  rw [find?_eq_head?_places, List.isSome_head?]
  constructor
  · intro hne
    obtain ⟨target, ht⟩ := List.exists_mem_of_ne_nil _ hne
    exact ⟨target, mem_places_iff.1 ht⟩
  · rintro ⟨target, ht⟩
    exact List.ne_nil_of_mem (mem_places_iff.2 ht)

/-- The walk does not fail where a route leads on. -/
theorem Route.find?_ne_none {doc target : Document} {path : List String} {steps : List Step}
    (h : Route doc path steps target) : doc.find? path ≠ none :=
  Option.isSome_iff_ne_none.1 (isSome_find?_iff.2 ⟨target, h.leads⟩)

/-- A search downwards stops at the greatest number that has a result. -/
theorem findSome?_range_reverse {β : Type} {f : Nat → Option β} {m : Nat} {b : β}
    (h : (List.range m).reverse.findSome? f = some b) :
    ∃ n < m, f n = some b ∧ ∀ k < m, f k ≠ none → k ≤ n := by
  induction m with
  | zero => cases h
  | succ m ih =>
    rw [List.range_succ, List.reverse_append, List.reverse_singleton, List.singleton_append,
      List.findSome?_cons] at h
    split at h
    · next b' hb =>
      obtain rfl := Option.some.inj h
      exact ⟨m, by omega, hb, fun k hk _ => by omega⟩
    · next hm =>
      obtain ⟨n, hn, hfn, hgreatest⟩ := ih h
      refine ⟨n, by omega, hfn, fun k hkm hk => ?_⟩
      rcases Nat.lt_succ_iff_lt_or_eq.1 hkm with hlt | rfl
      · exact hgreatest k hlt hk
      · exact absurd hm hk

/-- A search over the keys of a table stops at a key that is tried before all others with a
    result. -/
theorem findSome?_keys {β : Type} {attempt : Nat → String → Option β} {m : Nat} {b : β}
    (h : (List.range m).reverse.findSome? (fun n => [".", "-"].findSome? (attempt n)) = some b) :
    ∃ n < m, ∃ separator ∈ [".", "-"], attempt n separator = some b ∧
      ∀ k < m, ∀ separator' ∈ [".", "-"], attempt k separator' ≠ none →
        k = n ∧ separator' = separator ∨
          Step.Before (.key (n + 1) separator) (.key (k + 1) separator') := by
  obtain ⟨n, hn, hfound, hgreatest⟩ := findSome?_range_reverse h
  have hle (k) (hk : k < m) (separator') (hs' : separator' ∈ [".", "-"])
      (hne : attempt k separator' ≠ none) : k ≤ n := by
    refine hgreatest k hk fun hnone => hne ?_
    exact List.findSome?_eq_none_iff.1 hnone separator' hs'
  rw [List.findSome?_cons] at hfound
  split at hfound
  · next hpoint =>
    cases hfound
    refine ⟨n, hn, ".", by simp, hpoint, fun k hk separator' hs' hne => ?_⟩
    rcases Nat.lt_or_eq_of_le (hle k hk separator' hs' hne) with hlt | rfl
    · exact .inr (.inl (by omega))
    · simp only [List.mem_cons, List.not_mem_nil, or_false] at hs'
      rcases hs' with rfl | rfl
      · exact .inl ⟨rfl, rfl⟩
      · exact .inr (.inr ⟨rfl, rfl, rfl⟩)
  · next hpoint =>
    -- no key with points leads on, so the one with dashes is the first
    have hdash : attempt n "-" = some b := by simpa using hfound
    refine ⟨n, hn, "-", by simp, hdash, fun k hk separator' hs' hne => ?_⟩
    rcases Nat.lt_or_eq_of_le (hle k hk separator' hs' hne) with hlt | rfl
    · exact .inr (.inl (by omega))
    · simp only [List.mem_cons, List.not_mem_nil, or_false] at hs'
      rcases hs' with rfl | rfl
      · exact absurd hpoint hne
      · exact .inl ⟨rfl, rfl⟩

/-- **The walk ends where the first route does.**  Whatever it has tried before leads nowhere. -/
theorem exists_isFirst_of_find? {doc target : Document} {path : List String}
    (h : doc.find? path = some target) : ∃ steps, IsFirst doc path steps target := by
  fun_induction find? doc path generalizing target with
  | case1 doc =>
    obtain rfl := Option.some.inj h
    refine ⟨[], .here, fun steps' target' hr hne => ?_⟩
    cases hr
    exact absurd rfl hne
  | case2 segment more entries ih =>
    obtain ⟨n, hn, separator, hs, hattempt, hearlier⟩ := findSome?_keys h
    obtain ⟨child, hc, hchild⟩ := Option.bind_eq_some_iff.1 hattempt
    obtain ⟨steps, hfirst⟩ := ih n child hchild
    have hlength : (more.take n).length = n := List.length_take_of_le (Nat.lt_succ_iff.1 hn)
    refine ⟨.key (n + 1) separator :: steps, ?_, ?_⟩
    · have hroute := Route.key hs hc hfirst.route
      rwa [List.take_append_drop, hlength] at hroute
    · intro steps' target' hr hne
      obtain ⟨k, hk, separator', hs', child', rest, hc', hr', rfl⟩ := hr.exists_key
      have hleads := hr'.find?_ne_none
      rcases hearlier k (Nat.lt_succ_iff.2 hk) separator' hs' (by rwa [hc', Option.bind_some]) with
        ⟨rfl, rfl⟩ | hbefore
      · obtain rfl := Option.some.inj (hc.symm.trans hc')
        exact .cons (hfirst.precedes rest target' hr' fun heq => hne (by rw [heq]))
      · exact .rel hbefore
  | case3 segment more items ih =>
    obtain ⟨i, hi, hitem⟩ := Option.bind_eq_some_iff.1 h
    obtain ⟨child, hc, hchild⟩ := Option.bind_eq_some_iff.1 hitem
    obtain ⟨steps, hfirst⟩ := ih child hchild
    refine ⟨.index :: steps, .index hi hc hfirst.route, fun steps' target' hr hne => ?_⟩
    cases hr with
    | @index _ _ _ _ _ rest _ hi' hc' hr' =>
      obtain rfl := Option.some.inj (hi.symm.trans hi')
      obtain rfl := Option.some.inj (hc.symm.trans hc')
      exact .cons (hfirst.precedes rest target' hr' fun heq => hne (by rw [heq]))
  | case4 => cases h

/-- **The walk is sound, complete and greedy.**  It finds a document exactly when the segments lead
    to one, grouped into keys and indices in some way.  Each such way is a route, and the document
    that is found is where the first route ends: of all routes the one with the longest key, and
    with points rather than dashes, at the first step in which they differ. -/
theorem find?_isFirst (doc : Document) (path : List String) :
    ((doc.find? path).isSome ↔ ∃ target, Leads doc path target) ∧
      (∀ target, Leads doc path target ↔ ∃ steps, Route doc path steps target) ∧
        ∀ target, doc.find? path = some target ↔ ∃ steps, IsFirst doc path steps target := by
  refine ⟨isSome_find?_iff, fun target => leads_iff_exists_route, fun target =>
    ⟨exists_isFirst_of_find?, ?_⟩⟩
  rintro ⟨steps, hfirst⟩
  obtain ⟨found, hfound⟩ := Option.ne_none_iff_exists'.1 hfirst.route.find?_ne_none
  obtain ⟨steps', hfirst'⟩ := exists_isFirst_of_find? hfound
  rw [hfound, hfirst.unique hfirst']

end UtilityStyle.Document
