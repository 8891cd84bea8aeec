/-
Paths with the texts of arguments for their tokens.

`filledPath` has a text for every token at once, which is what a reader
expects. The engine replaces one parameter after the other instead, each time
in the whole text. What the text looks like after some of them is `rendered`:
these parameters are filled, the others stand as they stood. Replacing one more
leads from one such text to the next, if it has no place in a token that stands
there still. The texts of arguments are no danger, for there is no brace in
them; neither is a brace that begins no token, because no token can begin there
as long as what stands behind it is a path.

None of this is about arguments in particular, so `renderedWith` has any texts
for the tokens, and the step is proved once for all ways of replacing that copy
what is not the token: every occurrence or the first one alone.
-/
import Mathlib.Data.List.Infix
import Toolsmith.Proofs.Call.Arguments
import Toolsmith.Proofs.Document.Pieces
import Toolsmith.Proofs.Encoding
import Toolsmith.Proofs.Text.Replace

namespace Toolsmith

open Text

namespace Engine

open Document (Piece Scan pieces)

variable {given : List (Value × Value)}

-- ======================================================= texts in a URL

/-- The text of an argument inside a URL is plain characters and percent
signs. -/
theorem isPlain_of_mem_placedText {v : Value} {text : List Char}
    (h : placedText v = .ok text) :
    ∀ c ∈ text, Percent.isPlain c = true ∨ c = '%' := by
  obtain ⟨s, -, -, rfl⟩ := placedText_eq_ok_iff.mp h
  exact (Percent.isComponent_encode s).isPlain_of_mem

/-- The text that an argument puts in the place of its parameter, if there is
an argument and it has a text. -/
def tokenText (given : List (Value × Value)) (name : String) : List Char :=
  ((argument? name given).bind fun v => (placedText v).toOption).getD []

/-- Such a text is plain characters and percent signs. -/
theorem isPlain_of_mem_tokenText {name : String} :
    ∀ c ∈ tokenText given name, Percent.isPlain c = true ∨ c = '%' := by
  unfold tokenText
  cases argument? name given with
  | none => exact fun c hc => (by cases hc)
  | some v =>
      cases htext : placedText v with
      | error failure =>
          intro c hc
          rw [Option.bind_some, htext] at hc
          cases hc
      | ok text =>
          rw [Option.bind_some, htext]
          exact isPlain_of_mem_placedText htext

/-- So no brace is in it. -/
theorem brace_not_mem_tokenText {name : String} :
    '\x7b' ∉ tokenText given name := by
  intro hmem
  rcases isPlain_of_mem_tokenText _ hmem with h | h
  · exact absurd h (by decide)
  · exact absurd h (by decide)

-- ============================================================== tokens

/-- Every opening brace has a closing one behind it. -/
def Closed (s : List Char) : Prop :=
  ∀ rest, '\x7b' :: rest <:+ s → '\x7d' ∈ rest

/-- It can be checked that a text is closed, at each of its ends. -/
instance (s : List Char) : Decidable (Closed s) :=
  decidable_of_iff (∀ part ∈ s.tails, part.head? = some '\x7b' →
      '\x7d' ∈ part.tail) <| by
    constructor
    · exact fun h rest hrest => h _ ((List.mem_tails _ _).mpr hrest) rfl
    · intro h part hpart hhead
      cases part with
      | nil => cases hhead
      | cons c rest =>
          cases hhead
          exact h rest ((List.mem_tails _ _).mp hpart)

/-- A text without opening braces is closed. -/
theorem closed_of_not_mem {s : List Char} (h : '\x7b' ∉ s) : Closed s :=
  fun _ hrest => absurd (hrest.subset List.mem_cons_self) h

/-- A token is closed. -/
theorem closed_token (name : String) : Closed (token name) := by
  rintro rest ⟨front, hrest⟩
  have hlast := congrArg List.getLast? hrest
  have htoken : (token name).getLast? = some '\x7d' :=
    List.getLast?_concat (l := '\x7b' :: name.toList)
  rw [htoken, List.getLast?_append, List.getLast?_cons] at hlast
  cases hend : rest.getLast? with
  | none =>
      rw [hend] at hlast
      exact absurd (Option.some.inj hlast) (by decide)
  | some c =>
      rw [hend] at hlast
      obtain rfl : c = '\x7d' := Option.some.inj hlast
      exact List.mem_of_getLast? hend

/-- Two texts in front of their first closing braces are one if all is. -/
theorem eq_of_append_closing {s t more more' : List Char}
    (hs : '\x7d' ∉ s) (ht : '\x7d' ∉ t)
    (h : s ++ '\x7d' :: more = t ++ '\x7d' :: more') : s = t := by
  have hfront := congrArg (List.takeWhile (· != '\x7d')) h
  rwa [Document.takeWhile_append_closing hs,
    Document.takeWhile_append_closing ht] at hfront

/-- A token that begins in a closed text ends in it: it is over with the first
closing brace. -/
theorem token_prefix_of_closed {name : String} {part t : List Char}
    (hplain : '\x7d' ∉ name.toList) (hclosed : Closed part) (hne : part ≠ [])
    (h : token name <+: part ++ t) : token name <+: part := by
  cases part with
  | nil => exact absurd rfl hne
  | cons c rest =>
      obtain ⟨rfl, hrest⟩ := List.cons_prefix_cons.mp h
      obtain ⟨before, after, rfl, hbefore⟩ :=
        List.eq_append_cons_of_mem (hclosed rest (List.suffix_refl _))
      obtain ⟨more, hmore⟩ := hrest
      have hsplit : name.toList ++ '\x7d' :: more
          = before ++ '\x7d' :: (after ++ t) := by
        simpa using hmore
      refine List.cons_prefix_cons.mpr ⟨rfl, after, ?_⟩
      rw [eq_of_append_closing hplain hbefore hsplit]
      exact List.append_assoc before ['\x7d'] after

/-- In a closed text without the token it does not begin either, whatever
follows. -/
theorem not_prefix_of_closed {name : String} {s t : List Char}
    (hplain : '\x7d' ∉ name.toList) (hclosed : Closed s)
    (hno : ¬ token name <:+: s) (part : List Char) (hne : part ≠ [])
    (hpart : part <:+ s) : ¬ token name <+: part ++ t := by
  intro hbegins
  have hpartClosed : Closed part :=
    fun rest hrest => hclosed rest (hrest.trans hpart)
  have hinside := token_prefix_of_closed hplain hpartClosed hne hbegins
  exact hno (hinside.isInfix.trans hpart.isInfix)

/-- A closed text without the token stays, whatever follows it. -/
theorem replace_append_of_closed {name : String} {s t new : List Char}
    (hplain : '\x7d' ∉ name.toList) (hclosed : Closed s)
    (hno : ¬ token name <:+: s) :
    replace (token name) new (s ++ t)
      = s ++ replace (token name) new t :=
  replace_append_of_forall (not_prefix_of_closed hplain hclosed hno)

/-- Behind such a text are all places of the token. -/
theorem infix_append_of_closed {name : String} {s t : List Char}
    (hplain : '\x7d' ∉ name.toList) (hclosed : Closed s)
    (hno : ¬ token name <:+: s) :
    token name <:+: s ++ t ↔ token name <:+: t :=
  infix_append_of_forall (not_prefix_of_closed hplain hclosed hno)

-- =============================================================== paths

/-- A piece of a path with the text of an argument for a token. -/
def filled (given : List (Value × Value)) : Piece → List Char
  | .plain c => [c]
  | .token name => tokenText given name

/-- A path with the texts of the arguments for all of its tokens at once. -/
def filledPath (given : List (Value × Value)) (path : List Char) :
    List Char :=
  (pieces path).flatMap (filled given)

/-- A piece of a path after some of the parameters, each of which has a
text. -/
def renderedWith (text : String → List Char) (done : List String) :
    Piece → List Char
  | .plain c => [c]
  | .token name => if name ∈ done then text name else token name

/-- A piece of a path after some of the parameters. -/
def rendered (given : List (Value × Value)) (done : List String) :
    Piece → List Char
  | .plain c => [c]
  | .token name =>
    if name ∈ done then tokenText given name else token name

/-- The texts are those of the arguments. -/
theorem rendered_eq (done : List String) :
    rendered given done = renderedWith (tokenText given) done := by
  funext piece
  cases piece <;> rfl

section Rendering

variable {text : String → List Char} {done : List String} {s : List Char}
  {ps : List Piece} {name : String}

/-- At first the pieces are the path. -/
theorem renderedWith_nil (h : Scan s ps) :
    ps.flatMap (renderedWith text []) = s := by
  rw [← Document.text_of_scan h]
  refine List.flatMap_congr fun piece _ => ?_
  cases piece <;> rfl

/-- It counts only for the tokens which of them are filled. -/
theorem renderedWith_congr {done' : List String}
    (h : ∀ name, .token name ∈ ps → (name ∈ done ↔ name ∈ done')) :
    ps.flatMap (renderedWith text done)
      = ps.flatMap (renderedWith text done') := by
  refine List.flatMap_congr fun piece hpiece => ?_
  cases piece with
  | plain c => rfl
  | token name =>
      rw [renderedWith, renderedWith]
      simp only [h name hpiece]

/-- Where no closing brace is left there are no tokens, and the text stays as
it is. -/
theorem renderedWith_of_not_mem (h : Scan s ps) (hno : '\x7d' ∉ s) :
    ps.flatMap (renderedWith text done) = s := by
  induction h with
  | nil => rfl
  | plain _ _ ih =>
      rw [List.flatMap_cons, ih fun h => hno (List.mem_cons_of_mem _ h)]
      rfl
  | token _ _ _ =>
      refine absurd (List.mem_append_left _ ?_) hno
      exact List.mem_append_right _ List.mem_cons_self

/-- No token begins at a character outside of the tokens that the scan found,
whatever has been filled behind it. -/
theorem not_prefix_plain {c : Char} {rest : List Char} (hne : name ≠ "")
    (hplain : '\x7d' ∉ name.toList)
    (hbrace : c = '\x7b' →
      (∃ more, rest = '\x7d' :: more) ∨ '\x7d' ∉ rest)
    (hscan : Scan rest ps) :
    ¬ token name <+: c :: ps.flatMap (renderedWith text done) := by
  intro h
  obtain ⟨hc, hname⟩ := List.cons_prefix_cons.mp h
  rcases hbrace hc.symm with ⟨more, rfl⟩ | hno
  · -- a closing brace right behind leaves no room for a name
    obtain ⟨behind, rfl⟩ := Document.exists_of_scan_closing hscan
    cases hchars : name.toList with
    | nil => exact hne (String.toList_eq_nil_iff.mp hchars)
    | cons a more =>
        rw [hchars] at hname hplain
        obtain ⟨rfl, -⟩ := List.cons_prefix_cons.mp hname
        exact hplain List.mem_cons_self
  · rw [renderedWith_of_not_mem hscan hno] at hname
    exact hno (hname.subset (List.mem_append_right _ List.mem_cons_self))

/-- In a piece other than a token that stands there still, no token begins. -/
theorem not_prefix_filled {other : String} {t : List Char}
    (htext : ∀ name ∈ done, '\x7b' ∉ text name)
    (hplain : '\x7d' ∉ name.toList)
    (hother : other ∈ done ∨ ¬ token name <:+: token other)
    (part : List Char) (hne : part ≠ [])
    (hpart : part <:+ renderedWith text done (.token other)) :
    ¬ token name <+: part ++ t := by
  rw [renderedWith] at hpart
  by_cases hdone : other ∈ done
  · rw [if_pos hdone] at hpart
    refine not_prefix_of_closed hplain
      (closed_of_not_mem (htext other hdone)) (fun h => ?_) part hne hpart
    exact htext other hdone (h.subset List.mem_cons_self)
  · rw [if_neg hdone] at hpart
    exact not_prefix_of_closed hplain (closed_token other)
      (hother.resolve_left hdone) part hne hpart

/-- Pieces in which a parameter has no place are copied, whatever is done behind
them. -/
theorem copies_front {f : List Char → List Char} {qs : List Piece}
    (hcopies : Copies (token name) f)
    (htext : ∀ name ∈ done, '\x7b' ∉ text name) (hscan : Scan s (qs ++ ps))
    (hne : name ≠ "") (hplain : '\x7d' ∉ name.toList)
    (hgone : ∀ other, .token other ∈ qs → other ∈ done
      ∨ ¬ token name <:+: token other) :
    f ((qs ++ ps).flatMap (renderedWith text done))
      = qs.flatMap (renderedWith text done)
        ++ f (ps.flatMap (renderedWith text done)) := by
  induction qs generalizing s with
  | nil => rfl
  | cons piece qs ih =>
      rw [List.cons_append, List.flatMap_cons, List.flatMap_cons,
        List.append_assoc]
      rw [List.cons_append] at hscan
      have hrest := fun other h => hgone other (List.mem_cons_of_mem piece h)
      cases hscan with
      | plain hbrace hscan =>
          rw [← ih hscan hrest]
          exact hcopies (not_prefix_plain hne hplain hbrace hscan)
      | token _ hscan =>
          rw [← ih hscan hrest]
          exact hcopies.append
            (not_prefix_filled htext hplain (hgone _ List.mem_cons_self))

/-- A token is not the empty text. -/
theorem token_ne_nil (name : String) : token name ≠ [] :=
  List.cons_ne_nil _ _

/-- A parameter that is not the one of a token, or is filled already, begins
nowhere in its piece. -/
theorem gone_of_not_stands {other : String}
    (hlater : other ∈ done ∨ name = other ∨ ¬ token name <:+: token other)
    (hstands : ¬ (name = other ∧ name ∉ done)) :
    other ∈ done ∨ ¬ token name <:+: token other := by
  rcases hlater with h | rfl | h
  · exact Or.inl h
  · exact Or.inl (by_contra fun hno => hstands ⟨rfl, hno⟩)
  · exact Or.inr h

/-- Filling a parameter leads from one text to the next, if it has no place in
a token that stands there still: all but the token of the parameter is copied,
and for that what is done there decides. -/
theorem fill_renderedWith {f : List Char → List Char}
    (hcopies : Copies (token name) f) (hnil : f [] = [])
    (htext : ∀ name ∈ done, '\x7b' ∉ text name) (hscan : Scan s ps)
    (hne : name ≠ "") (hplain : '\x7d' ∉ name.toList)
    (hlater : ∀ other, .token other ∈ ps → other ∈ done ∨ name = other
      ∨ ¬ token name <:+: token other)
    (hhere : ∀ qs, .token name :: qs <:+ ps →
      f (qs.flatMap (renderedWith text done))
        = qs.flatMap (renderedWith text (name :: done)) →
      f (token name ++ qs.flatMap (renderedWith text done))
        = text name ++ qs.flatMap (renderedWith text (name :: done))) :
    f (ps.flatMap (renderedWith text done))
      = ps.flatMap (renderedWith text (name :: done)) := by
  induction hscan with
  | nil => exact hnil
  | @plain c rest ps hbrace hrest ih =>
      have hstep := ih (fun other h => hlater other (List.mem_cons_of_mem _ h))
        fun qs hqs => hhere qs (hqs.trans (List.suffix_cons _ _))
      rw [List.flatMap_cons, List.flatMap_cons, ← hstep]
      exact hcopies (not_prefix_plain hne hplain hbrace hrest)
  | @token other rest ps hother hrest ih =>
      have hstep := ih (fun other h => hlater other (List.mem_cons_of_mem _ h))
        fun qs hqs => hhere qs (hqs.trans (List.suffix_cons _ _))
      rw [List.flatMap_cons, List.flatMap_cons]
      by_cases hstands : name = other ∧ name ∉ done
      · obtain ⟨rfl, hdone⟩ := hstands
        rw [renderedWith, renderedWith, if_neg hdone,
          if_pos List.mem_cons_self]
        exact hhere ps (List.suffix_refl _) hstep
      · have hsame : renderedWith text (name :: done) (.token other)
            = renderedWith text done (.token other) := by
          have hiff : other ∈ name :: done ↔ other ∈ done :=
            List.mem_cons.trans ⟨fun h => h.elim
              (fun heq => by_contra fun hno => hstands ⟨heq.symm, heq ▸ hno⟩)
              id, Or.inr⟩
          rw [renderedWith, renderedWith]
          simp only [hiff]
        rw [hsame, ← hstep]
        exact hcopies.append (not_prefix_filled htext hplain
          (gone_of_not_stands (hlater other List.mem_cons_self) hstands))

/-- Replacing all occurrences fills a parameter. -/
theorem replace_renderedWith
    (htext : ∀ name ∈ done, '\x7b' ∉ text name) (hscan : Scan s ps)
    (hne : name ≠ "") (hplain : '\x7d' ∉ name.toList)
    (hlater : ∀ other, .token other ∈ ps → other ∈ done ∨ name = other
      ∨ ¬ token name <:+: token other) :
    replace (token name) (text name) (ps.flatMap (renderedWith text done))
      = ps.flatMap (renderedWith text (name :: done)) := by
  refine fill_renderedWith copies_replace rfl htext hscan hne hplain hlater
    fun qs _ hstep => ?_
  rw [replace_append_self (token_ne_nil name), hstep]

/-- Replacing the first occurrence does, too, if the token comes once. -/
theorem replaceFirst_renderedWith
    (htext : ∀ name ∈ done, '\x7b' ∉ text name) (hscan : Scan s ps)
    (hne : name ≠ "") (hplain : '\x7d' ∉ name.toList)
    (hlater : ∀ other, .token other ∈ ps → other ∈ done ∨ name = other
      ∨ ¬ token name <:+: token other)
    (honce : ∀ qs, .token name :: qs <:+ ps → .token name ∉ qs) :
    replaceFirst (token name) (text name)
        (ps.flatMap (renderedWith text done))
      = ps.flatMap (renderedWith text (name :: done)) := by
  refine fill_renderedWith copies_replaceFirst
    (replaceFirst_nil (token_ne_nil name)) htext hscan hne hplain hlater
    fun qs hqs _ => ?_
  rw [replaceFirst_append_self (token_ne_nil name)]
  refine congrArg (text name ++ ·) (renderedWith_congr fun other hother => ?_)
  have hdiffer : other ≠ name := fun heq => honce qs hqs (heq ▸ hother)
  simp [hdiffer]

/-- A parameter has a place in the pieces of a path exactly if one of them is
its token and has not been filled yet. -/
theorem infix_renderedWith_iff
    (htext : ∀ name ∈ done, '\x7b' ∉ text name) (hscan : Scan s ps)
    (hne : name ≠ "") (hplain : '\x7d' ∉ name.toList)
    (hlater : ∀ other, .token other ∈ ps → other ∈ done ∨ name = other
      ∨ ¬ token name <:+: token other) :
    token name <:+: ps.flatMap (renderedWith text done)
      ↔ .token name ∈ ps ∧ name ∉ done := by
  induction hscan with
  | nil =>
      rw [List.flatMap_nil, List.infix_nil]
      exact ⟨fun h => absurd h (List.cons_ne_nil _ _),
        fun h => absurd h.1 List.not_mem_nil⟩
  | @plain c rest ps hbrace hrest ih =>
      have hstep := ih fun other h => hlater other (List.mem_cons_of_mem _ h)
      have hhere : ¬ token name <+: c :: ps.flatMap (renderedWith text done) :=
        not_prefix_plain hne hplain hbrace hrest
      rw [List.flatMap_cons, List.mem_cons, or_iff_right (by simp), ← hstep]
      exact List.infix_cons_iff.trans (or_iff_right hhere)
  | @token other rest ps hother hrest ih =>
      have hstep := ih fun other h => hlater other (List.mem_cons_of_mem _ h)
      rw [List.flatMap_cons, List.mem_cons]
      by_cases hstands : name = other ∧ name ∉ done
      · obtain ⟨rfl, hdone⟩ := hstands
        rw [renderedWith, if_neg hdone]
        exact ⟨fun _ => ⟨Or.inl rfl, hdone⟩,
          fun _ => (List.prefix_append _ _).isInfix⟩
      · have hgone :=
          gone_of_not_stands (hlater other List.mem_cons_self) hstands
        rw [infix_append_of_forall (not_prefix_filled htext hplain hgone),
          hstep]
        refine ⟨fun h => ⟨Or.inr h.1, h.2⟩, fun h => ⟨?_, h.2⟩⟩
        refine h.1.resolve_left fun heq => hstands ⟨?_, h.2⟩
        exact Piece.token.inj heq

end Rendering

/-- At first the pieces are the path. -/
theorem rendered_nil {s : List Char} {ps : List Piece} (h : Scan s ps) :
    ps.flatMap (rendered given []) = s := by
  rw [rendered_eq]
  exact renderedWith_nil h

/-- In the end all of them are filled. -/
theorem rendered_of_forall {done : List String} {ps : List Piece}
    (h : ∀ name, .token name ∈ ps → name ∈ done) :
    ps.flatMap (rendered given done) = ps.flatMap (filled given) := by
  refine List.flatMap_congr fun piece hpiece => ?_
  cases piece with
  | plain c => rfl
  | token name => exact if_pos (h name hpiece)

/-- Replacing a parameter in the pieces of a path fills it, if it has no place
in a token that stands there still. -/
theorem replace_rendered {name : String} {done : List String}
    {s : List Char} {ps : List Piece} (hscan : Scan s ps) (hne : name ≠ "")
    (hplain : '\x7d' ∉ name.toList)
    (hlater : ∀ other, .token other ∈ ps → other ∈ done ∨ name = other
      ∨ ¬ token name <:+: token other) :
    replace (token name) (tokenText given name)
        (ps.flatMap (rendered given done))
      = ps.flatMap (rendered given (name :: done)) := by
  rw [rendered_eq, rendered_eq]
  exact replace_renderedWith (fun _ _ => brace_not_mem_tokenText) hscan hne
    hplain hlater

/-- A parameter has a place in the pieces of a path exactly if one of them is
its token and has not been filled yet. -/
theorem infix_rendered_iff {name : String} {done : List String}
    {s : List Char} {ps : List Piece} (hscan : Scan s ps) (hne : name ≠ "")
    (hplain : '\x7d' ∉ name.toList)
    (hlater : ∀ other, .token other ∈ ps → other ∈ done ∨ name = other
      ∨ ¬ token name <:+: token other) :
    token name <:+: ps.flatMap (rendered given done)
      ↔ .token name ∈ ps ∧ name ∉ done := by
  rw [rendered_eq]
  exact infix_renderedWith_iff (fun _ _ => brace_not_mem_tokenText) hscan hne
    hplain hlater

end Engine

end Toolsmith
