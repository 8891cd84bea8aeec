/-
What a repetition in a list of names becomes. The program looks for a number
in a loop without a bound, and the definitions bound that loop; here both are
brought together. `Numbering` is the program's run, one name after the other
with the loop as it is, and it has exactly one result, the one that
`deduplicate` gives: every loop ends.

What the run keeps is `Tracks`: the taken names are those of the list and those
made so far, and behind a name all numbers up to its last one are taken. So the
number that the loop finds behind the last one is the least free number that
there is for the name.
-/
import Mathlib.Order.Bounds.Basic
import Toolsmith.Proofs.Naming

namespace Toolsmith.Naming

-- ============================================================= searching

/-- The search for a free number as a loop without a bound: it stops at a
number that makes a free name, and otherwise goes on with the next one. -/
inductive Search (taken : List (List Char)) (name : List Char) :
    Nat → Nat → Prop where
  | stop {n : Nat} (hfree : numbered name n ∉ taken) :
      Search taken name n n
  | next {n k : Nat} (htaken : numbered name n ∈ taken)
      (hrest : Search taken name (n + 1) k) : Search taken name n k

variable {taken : List (List Char)} {name : List Char} {n k : Nat}

/-- The loop stops at a free number. -/
theorem Search.free (h : Search taken name n k) :
    numbered name k ∉ taken := by
  induction h with
  | stop hfree => exact hfree
  | next _ _ ih => exact ih

/-- The loop goes up. -/
theorem Search.le (h : Search taken name n k) : n ≤ k := by
  induction h with
  | stop _ => exact Nat.le_refl _
  | next _ _ ih => omega

/-- The numbers that the loop goes over are taken. -/
theorem Search.taken_of_lt (h : Search taken name n k) :
    ∀ m, n ≤ m → m < k → numbered name m ∈ taken := by
  induction h with
  | stop _ =>
      intro m hle hlt
      omega
  | @next n k htaken _ ih =>
      intro m hle hlt
      by_cases hm : m = n
      · rw [hm]
        exact htaken
      · exact ih m (by omega) hlt

/-- The loop stops at one number only. -/
theorem Search.unique {k' : Nat} (h : Search taken name n k)
    (h' : Search taken name n k') : k = k' := by
  induction h with
  | stop hfree =>
      cases h' with
      | stop _ => rfl
      | next htaken _ => exact absurd htaken hfree
  | next htaken _ ih =>
      cases h' with
      | stop hfree => exact absurd htaken hfree
      | next _ hrest => exact ih hrest

/-- A bounded search that ends on a free number is the loop. -/
theorem search_of_freeNumber (fuel : Nat) :
    ∀ n, numbered name (freeNumber taken name fuel n) ∉ taken →
      Search taken name n (freeNumber taken name fuel n) := by
  induction fuel with
  | zero => exact fun n hfree => .stop hfree
  | succ fuel ih =>
      intro n hfree
      unfold freeNumber at hfree ⊢
      split
      case isTrue htaken =>
          rw [if_pos htaken] at hfree
          exact .next (List.contains_iff_mem.mp htaken) (ih (n + 1) hfree)
      case isFalse hno =>
          exact .stop fun hmem => hno (List.contains_iff_mem.mpr hmem)

/-- So the loop always ends. -/
theorem search_freeNumber (taken : List (List Char)) (name : List Char)
    (n : Nat) :
    Search taken name n (freeNumber taken name (taken.length + 1) n) :=
  search_of_freeNumber _ n (numbered_freeNumber_not_mem taken name n)

-- ================================================================== runs

/-- Numbering the repetitions in the rest of a list, one name after the other
and with a loop for each repetition: what the names become. -/
inductive Numbering : List (List Char) → List (List Char × Nat) →
    List (List Char) → List (List Char) → Prop where
  | done {taken : List (List Char)} {counts : List (List Char × Nat)} :
      Numbering taken counts [] []
  | keep {taken rest made : List (List Char)}
      {counts : List (List Char × Nat)} {name : List Char}
      (hcount : countOf counts name = none)
      (hrest : Numbering taken ((name, 1) :: counts) rest made) :
      Numbering taken counts (name :: rest) (name :: made)
  | number {taken rest made : List (List Char)}
      {counts : List (List Char × Nat)} {name : List Char} {last k : Nat}
      (hcount : countOf counts name = some last)
      (hsearch : Search taken name (last + 1) k)
      (hrest : Numbering (numbered name k :: taken) ((name, k) :: counts)
        rest made) :
      Numbering taken counts (name :: rest) (numbered name k :: made)

/-- The run has one result, and it is the one that is computed. -/
theorem numbering_iff {names : List (List Char)} :
    ∀ {taken : List (List Char)} {counts : List (List Char × Nat)}
      {made : List (List Char)},
      Numbering taken counts names made
        ↔ made = deduplicateFrom taken counts names := by
  induction names with
  | nil =>
      intro taken counts made
      refine ⟨fun h => ?_, fun h => h ▸ .done⟩
      cases h
      rfl
  | cons name rest ih =>
      intro taken counts made
      unfold deduplicateFrom
      constructor
      · intro h
        cases h with
        | keep hcount hrest => rw [hcount, ih.mp hrest]
        | number hcount hsearch hrest =>
            rw [hcount, ih.mp hrest,
              hsearch.unique (search_freeNumber _ _ _)]
      · rintro rfl
        cases hcount : countOf counts name with
        | none => exact .keep hcount (ih.mpr rfl)
        | some last =>
            exact .number hcount (search_freeNumber _ _ _) (ih.mpr rfl)

-- ======================================================== the invariant

/-- A number behind a name makes it longer. -/
theorem numbered_ne_self (name : List Char) (n : Nat) :
    numbered name n ≠ name := by
  intro h
  have hlength := congrArg List.length h
  unfold numbered at hlength
  rw [List.length_append, List.length_cons] at hlength
  omega

/-- What one name becomes. `past` pairs the names in front of it with what they
have become. The first of its kind stays. A later one gets a number: the least
one that is above all numbers that the name has had, which are the last ones
tried for it, and makes neither a name of the list nor one that is made
already. -/
inductive Becomes (names : List (List Char))
    (past : List (List Char × List Char)) (name : List Char) :
    List Char → Prop where
  | first (hnew : name ∉ past.map Prod.fst) : Becomes names past name name
  | again {k : Nat} (hold : name ∈ past.map Prod.fst)
      (hleast : IsLeast
        {k | 2 ≤ k ∧ (∀ j, (name, numbered name j) ∈ past → j < k)
          ∧ numbered name k ∉ names ∧ numbered name k ∉ past.map Prod.snd}
        k) :
      Becomes names past name (numbered name k)

/-- What a run knows of the names that it has gone through. -/
structure Tracks (names : List (List Char))
    (past : List (List Char × List Char)) (taken : List (List Char))
    (counts : List (List Char × Nat)) : Prop where
  /-- A name is taken if it is one of the list or one that was made. -/
  mem_taken : ∀ x, x ∈ taken ↔ x ∈ names ∨ x ∈ past.map Prod.snd
  /-- A name has no count as long as it has not come up. -/
  unseen : ∀ x, countOf counts x = none ↔ x ∉ past.map Prod.fst
  /-- A name has been given no number above its count, and up to there all of
  its numbers are taken. -/
  tried : ∀ x last, countOf counts x = some last → 1 ≤ last
    ∧ (∀ j, (x, numbered x j) ∈ past → j ≤ last)
    ∧ ∀ j, 2 ≤ j → j ≤ last → numbered x j ∈ taken

variable {names : List (List Char)} {past : List (List Char × List Char)}
  {counts : List (List Char × Nat)} {last : Nat}

/-- At first the names of the list are taken. -/
theorem tracks_nil (names : List (List Char)) :
    Tracks names [] names [] where
  mem_taken := fun x => ⟨Or.inl, fun h => h.resolve_right List.not_mem_nil⟩
  unseen := fun x => ⟨fun _ => List.not_mem_nil, fun _ => rfl⟩
  tried := fun x last h => by cases h

/-- A name that is kept counts once. -/
theorem Tracks.keep (h : Tracks names past taken counts)
    (hname : name ∈ names) (hcount : countOf counts name = none) :
    Tracks names (past ++ [(name, name)]) taken
      ((name, 1) :: counts) where
  mem_taken := by
    intro x
    rw [h.mem_taken, List.map_append, List.mem_append, ← or_assoc]
    refine (or_iff_left_of_imp fun hx => ?_).symm
    obtain rfl := List.mem_singleton.mp hx
    exact Or.inl hname
  unseen := by
    intro x
    rw [List.map_append, List.mem_append, not_or]
    by_cases hx : name = x
    · subst hx
      rw [countOf_cons_self]
      exact ⟨fun hnone => (by cases hnone),
        fun hno => absurd List.mem_cons_self hno.2⟩
    · rw [countOf_cons_ne 1 hx, h.unseen]
      exact (and_iff_left fun hmem => hx (List.mem_singleton.mp hmem).symm).symm
  tried := by
    intro x last hlast
    by_cases hx : name = x
    · subst hx
      rw [countOf_cons_self] at hlast
      cases hlast
      refine ⟨Nat.le_refl 1, fun j hj => ?_, fun j hlow hhigh => by omega⟩
      rcases List.mem_append.mp hj with hpast | hhere
      · exact absurd (List.mem_map_of_mem hpast) ((h.unseen name).mp hcount)
      · exact absurd (Prod.mk.inj (List.mem_singleton.mp hhere)).2
          (numbered_ne_self name j)
    · rw [countOf_cons_ne 1 hx] at hlast
      obtain ⟨hone, hgiven, htaken⟩ := h.tried x last hlast
      refine ⟨hone, fun j hj => ?_, htaken⟩
      rcases List.mem_append.mp hj with hpast | hhere
      · exact hgiven j hpast
      · exact absurd (Prod.mk.inj (List.mem_singleton.mp hhere)).1.symm hx

/-- A name that is numbered counts up to its number. -/
theorem Tracks.number (h : Tracks names past taken counts)
    (hcount : countOf counts name = some last)
    (hsearch : Search taken name (last + 1) k) :
    Tracks names (past ++ [(name, numbered name k)])
      (numbered name k :: taken) ((name, k) :: counts) where
  mem_taken := by
    intro x
    rw [List.mem_cons, h.mem_taken, List.map_append, List.mem_append,
      List.map_singleton, List.mem_singleton, or_comm, or_assoc]
  unseen := by
    intro x
    rw [List.map_append, List.mem_append, not_or]
    by_cases hx : name = x
    · subst hx
      rw [countOf_cons_self]
      exact ⟨fun hnone => (by cases hnone),
        fun hno => absurd List.mem_cons_self hno.2⟩
    · rw [countOf_cons_ne k hx, h.unseen]
      exact (and_iff_left fun hmem => hx (List.mem_singleton.mp hmem).symm).symm
  tried := by
    intro x found hfound
    by_cases hx : name = x
    · subst hx
      rw [countOf_cons_self] at hfound
      cases hfound
      obtain ⟨hone, hgiven, htaken⟩ := h.tried name last hcount
      have habove := hsearch.le
      refine ⟨by omega, fun j hj => ?_, fun j hlow hhigh => ?_⟩
      · rcases List.mem_append.mp hj with hpast | hhere
        · exact Nat.le_trans (hgiven j hpast) (by omega)
        · have heq := (Prod.mk.inj (List.mem_singleton.mp hhere)).2
          exact Nat.le_of_eq (numbered_injective name heq)
      · by_cases hj : j = k
        · rw [hj]
          exact List.mem_cons_self
        refine List.mem_cons_of_mem _ ?_
        by_cases hold : j ≤ last
        · exact htaken j hlow hold
        · exact hsearch.taken_of_lt j (by omega) (by omega)
    · rw [countOf_cons_ne k hx] at hfound
      obtain ⟨hone, hgiven, htaken⟩ := h.tried x found hfound
      refine ⟨hone, fun j hj => ?_,
        fun j hlow hhigh => List.mem_cons_of_mem _ (htaken j hlow hhigh)⟩
      rcases List.mem_append.mp hj with hpast | hhere
      · exact hgiven j hpast
      · exact absurd (Prod.mk.inj (List.mem_singleton.mp hhere)).1.symm hx

/-- The number that the loop finds is the least free one: it is above all that
were tried, and all of these are taken. -/
theorem Tracks.becomes (h : Tracks names past taken counts)
    (hcount : countOf counts name = some last)
    (hsearch : Search taken name (last + 1) k) :
    Becomes names past name (numbered name k) := by
  obtain ⟨hone, hgiven, htaken⟩ := h.tried name last hcount
  have habove := hsearch.le
  have hfree : numbered name k ∉ names ∧ numbered name k ∉ past.map Prod.snd :=
    not_or.mp fun hmem => hsearch.free ((h.mem_taken _).mpr hmem)
  refine .again ?_ ⟨⟨by omega, fun j hj => ?_, hfree⟩, ?_⟩
  · by_contra hnew
    rw [(h.unseen name).mpr hnew] at hcount
    cases hcount
  · exact Nat.lt_of_le_of_lt (hgiven j hj) (by omega)
  · rintro m ⟨hlow, -, hnames, hmade⟩
    have hfreeM : numbered name m ∉ taken := fun hmem =>
      ((h.mem_taken _).mp hmem).elim hnames hmade
    by_contra hlt
    by_cases hold : m ≤ last
    · exact hfreeM (htaken m hlow hold)
    · exact hfreeM (hsearch.taken_of_lt m (by omega) (by omega))

/-- In a run every name becomes what it has to become. -/
theorem becomes_of_numbering {rest made : List (List Char)}
    (hrun : Numbering taken counts rest made) :
    ∀ {past : List (List Char × List Char)},
      Tracks names past taken counts → rest ⊆ names →
      ∀ i name, rest[i]? = some name → ∃ given, made[i]? = some given
        ∧ Becomes names (past ++ (rest.zip made).take i) name given := by
  induction hrun with
  | done =>
      intro past _ _ i name hi
      cases hi
  | @keep taken rest made counts front hcount _ ih =>
      intro past h hsub i name hi
      obtain ⟨hfront, hrest⟩ := List.cons_subset.mp hsub
      cases i with
      | zero =>
          cases hi
          refine ⟨front, rfl, ?_⟩
          rw [List.take_zero, List.append_nil]
          exact .first ((h.unseen front).mp hcount)
      | succ i =>
          obtain ⟨given, hgiven, hbecomes⟩ :=
            ih (h.keep hfront hcount) hrest i name hi
          refine ⟨given, hgiven, ?_⟩
          rwa [List.append_assoc] at hbecomes
  | @number taken rest made counts front last k hcount hsearch _ ih =>
      intro past h hsub i name hi
      obtain ⟨hfront, hrest⟩ := List.cons_subset.mp hsub
      cases i with
      | zero =>
          cases hi
          refine ⟨numbered front k, rfl, ?_⟩
          rw [List.take_zero, List.append_nil]
          exact h.becomes hcount hsearch
      | succ i =>
          obtain ⟨given, hgiven, hbecomes⟩ :=
            ih (h.number hcount hsearch) hrest i name hi
          refine ⟨given, hgiven, ?_⟩
          rwa [List.append_assoc] at hbecomes

-- ============================================================= the list

/-- What every name of a list becomes. -/
theorem becomes_deduplicate (names : List (List Char)) :
    ∀ i name, names[i]? = some name → ∃ given,
      (deduplicate names)[i]? = some given
        ∧ Becomes names ((names.zip (deduplicate names)).take i)
          name given :=
  becomes_of_numbering (numbering_iff.mpr rfl) (tracks_nil names)
    fun _ h => h

/-- What has come up in front of a place, and what it has become. -/
theorem mem_past_iff {made : List (List Char)} {i : Nat}
    {x y : List Char} :
    (x, y) ∈ (names.zip made).take i
      ↔ ∃ j < i, names[j]? = some x ∧ made[j]? = some y := by
  rw [List.mem_iff_getElem?]
  refine exists_congr fun j => ?_
  rw [List.getElem?_take]
  by_cases hj : j < i
  · rw [if_pos hj, List.getElem?_zip_eq_some, and_iff_right hj]
  · rw [if_neg hj]
    exact ⟨fun h => (by cases h), fun h => absurd h.1 hj⟩

/-- The numbers of one name go up. -/
theorem lt_of_deduplicate {names : List (List Char)} {name : List Char}
    {i j m n : Nat} (hij : i < j) (hi : names[i]? = some name)
    (hj : names[j]? = some name)
    (hm : (deduplicate names)[i]? = some (numbered name m))
    (hn : (deduplicate names)[j]? = some (numbered name n)) : m < n := by
  obtain ⟨given, hgiven, hbecomes⟩ := becomes_deduplicate names j name hj
  cases hn.symm.trans hgiven
  have hpast := mem_past_iff.mpr ⟨i, hij, hi, hm⟩
  generalize hmade : numbered name n = given' at hbecomes
  cases hbecomes with
  | first hnew => exact absurd (List.mem_map_of_mem hpast) hnew
  | again _ hleast =>
      rw [numbered_injective name hmade]
      exact hleast.1.2.1 m hpast

/-- Distinct names stay as they are. -/
theorem deduplicate_of_nodup {names : List (List Char)} (h : names.Nodup) :
    deduplicate names = names := by
  refine List.ext_getElem? fun i => ?_
  cases hi : names[i]? with
  | none =>
      rw [List.getElem?_eq_none_iff, length_deduplicate]
      exact List.getElem?_eq_none_iff.mp hi
  | some name =>
      obtain ⟨given, hgiven, hbecomes⟩ := becomes_deduplicate names i name hi
      rw [hgiven]
      cases hbecomes with
      | first _ => rfl
      | again hold _ =>
          obtain ⟨⟨x, y⟩, hpast, rfl⟩ := List.mem_map.mp hold
          obtain ⟨j, hlt, hj, -⟩ := mem_past_iff.mp hpast
          have hsame := List.nodup_iff_getElem?_ne_getElem?.mp h j i hlt
            (List.getElem?_eq_some_iff.mp hi).1
          exact absurd (hj.trans hi.symm) hsame

/-- Numbering the repetitions of a list of names, for every list. The run of
the program, whose loops have no bound, ends, and its only result is this one.
There are as many names as before, and they are distinct. Each becomes what it
has to become: the first of its kind stays, and a later one gets the least
number above those tried for it that makes no name of the list, in front of it
or behind it, and none that is made already. So the numbers of one name go up,
a list without repetitions stays, and numbering again changes nothing. -/
theorem deduplicate_repetitions (names : List (List Char)) :
    let made := deduplicate names
    (∀ result, Numbering names [] names result ↔ result = made)
      ∧ made.length = names.length ∧ made.Nodup
      ∧ (∀ i name, names[i]? = some name → ∃ given, made[i]? = some given
        ∧ Becomes names ((names.zip made).take i) name given)
      ∧ (∀ (i j : Nat) name m n, i < j → names[i]? = some name →
        names[j]? = some name → made[i]? = some (numbered name m) →
        made[j]? = some (numbered name n) → m < n)
      ∧ (names.Nodup → made = names)
      ∧ deduplicate made = made := by
  intro made
  exact ⟨fun result => numbering_iff, length_deduplicate names,
    nodup_deduplicate names, becomes_deduplicate names,
    fun i j name m n hij hi hj hm hn => lt_of_deduplicate hij hi hj hm hn,
    deduplicate_of_nodup, deduplicate_of_nodup (nodup_deduplicate names)⟩

/-- A name that is made keeps clear of names that come later, and of what is
made for another name. -/
example : deduplicate ["a".toList, "a".toList, "a_2".toList, "a_2".toList,
      "a".toList]
    = ["a".toList, "a_3".toList, "a_2".toList, "a_2_2".toList,
      "a_4".toList] := by
  decide +kernel

end Toolsmith.Naming
