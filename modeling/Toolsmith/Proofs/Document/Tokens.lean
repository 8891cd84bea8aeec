/-
The tokens of a path by their rule. A token is a name between two braces, the
closing one the nearest there is, with at least one character in front of it;
they are looked for from the left, and behind one the search goes on. `Tokens`
says just this, without the count of characters that the scan carries along,
and holds of one list of names for every path: the one that the scan finds.
-/
import Toolsmith.Proofs.Document.Parameters
import Toolsmith.Proofs.Document.Pieces

namespace Toolsmith

-- ========================================================= occurrences

/-- The names of a list, each once and in the order of their first places. -/
structure OnceEach (all once : List String) : Prop where
  mem : ∀ name, name ∈ once ↔ name ∈ all
  nodup : once.Nodup
  order : once.Pairwise fun a b => all.idxOf a < all.idxOf b

theorem onceEach_firstOccurrences (all : List String) :
    OnceEach all (firstOccurrences all) := by
  refine ⟨fun _ => mem_firstOccurrences, nodup_firstOccurrences all, ?_⟩
  induction all with
  | nil => exact .nil
  | cons s rest ih =>
      have hlater : ∀ b ∈ (firstOccurrences rest).filter (· != s),
          (s :: rest).idxOf b = rest.idxOf b + 1 := fun b hb =>
        List.idxOf_cons_ne _ (bne_iff_ne.mp (List.mem_filter.mp hb).2).symm
      refine List.pairwise_cons.mpr ⟨fun b hb => ?_,
        (ih.filter _).imp_of_mem fun {a b} ha hb hab => ?_⟩
      · rw [List.idxOf_cons_self, hlater b hb]
        exact Nat.succ_pos _
      · rw [hlater a ha, hlater b hb]
        exact Nat.succ_lt_succ hab

/-- Names that do not repeat stay as they are. -/
theorem firstOccurrences_of_nodup {names : List String}
    (h : names.Nodup) : firstOccurrences names = names := by
  induction names with
  | nil => rfl
  | cons s rest ih =>
      obtain ⟨hs, hrest⟩ := List.nodup_cons.mp h
      rw [firstOccurrences, ih hrest, List.filter_eq_self.mpr]
      exact fun a ha => bne_iff_ne.mpr fun heq => hs (heq ▸ ha)

/-- Behind some names, others come with their first places if they are not
among those. -/
theorem firstOccurrences_append (names more : List String) :
    firstOccurrences (names ++ more) = firstOccurrences names
      ++ (firstOccurrences more).filter fun a => a ∉ names := by
  induction names with
  | nil => simp [firstOccurrences]
  | cons s rest ih =>
      rw [List.cons_append, firstOccurrences, firstOccurrences, ih,
        List.filter_append, List.filter_filter, List.cons_append]
      refine congrArg (fun rest => s :: (_ ++ rest))
        (List.filter_congr fun a _ => ?_)
      rw [Bool.eq_iff_iff]
      simp

namespace Document

-- =============================================================== tokens

/-- A token stands at the start of a text, with more behind it. -/
def Opens (name more s : List Char) : Prop :=
  name ≠ [] ∧ '\x7d' ∉ name ∧ s = '\x7b' :: (name ++ '\x7d' :: more)

/-- The tokens of a text, from the left and without overlap. -/
inductive Tokens : List Char → List String → Prop where
  | nil : Tokens [] []
  | token {name more s : List Char} {names : List String}
      (hopens : Opens name more s) (hmore : Tokens more names) :
      Tokens s (String.ofList name :: names)
  | skip {c : Char} {rest : List Char} {names : List String}
      (hnone : ∀ name more, ¬ Opens name more (c :: rest))
      (hrest : Tokens rest names) : Tokens (c :: rest) names

/-- The search at one place finds a token exactly if one stands there. -/
theorem tokenAt?_eq_some_iff {s name : List Char} :
    tokenAt? s = some name ↔ ∃ more, Opens name more s := by
  constructor
  · intro h
    cases s with
    | nil => cases h
    | cons c rest =>
        obtain rfl : c = '\x7b' := by
          by_contra hc
          rw [tokenAt?_of_ne hc] at h
          cases h
        by_cases hmem : '\x7d' ∈ rest
        · obtain ⟨found, more, rfl, hplain⟩ := List.eq_append_cons_of_mem hmem
          rw [tokenAt?_open hplain] at h
          split at h
          · cases h
          next hne =>
            cases h
            exact ⟨more, fun hnil => hne (List.isEmpty_iff.mpr hnil), hplain,
              rfl⟩
        · rw [tokenAt?_of_not_mem hmem] at h
          cases h
  · rintro ⟨more, hne, hplain, rfl⟩
    rw [tokenAt?_open hplain, if_neg fun h => hne (List.isEmpty_iff.mp h)]

/-- The scan finds the tokens; those of the first `skip` characters have been
found before. -/
theorem tokens_tokensFrom (skip : Nat) (s : List Char) :
    Tokens (s.drop skip) ((tokensFrom skip s).map String.ofList) := by
  induction s generalizing skip with
  | nil =>
      rw [List.drop_nil]
      cases skip <;> exact .nil
  | cons c rest ih =>
      cases skip with
      | succ n => exact ih n
      | zero =>
          rw [List.drop_zero, tokensFrom]
          cases hfound : tokenAt? (c :: rest) with
          | none =>
              refine .skip (fun name more hopens => ?_) (ih 0)
              rw [tokenAt?_eq_some_iff.mpr ⟨more, hopens⟩] at hfound
              cases hfound
          | some name =>
              obtain ⟨more, hopens⟩ := tokenAt?_eq_some_iff.mp hfound
              have hmore := ih (name.length + 1)
              have hdrop : rest.drop (name.length + 1) = more := by
                rw [(List.cons.inj hopens.2.2).2, ← List.drop_drop,
                  List.drop_left]
                rfl
              rw [hdrop] at hmore
              exact .token hopens hmore

/-- What stands at the start of a text is no two tokens. -/
theorem eq_of_opens {name more name' more' s : List Char}
    (h : Opens name more s) (h' : Opens name' more' s) :
    name = name' ∧ more = more' := by
  have hname : some name = some name' :=
    (tokenAt?_eq_some_iff.mpr ⟨more, h⟩).symm.trans
      (tokenAt?_eq_some_iff.mpr ⟨more', h'⟩)
  cases hname
  have hrest := (List.cons.inj (h.2.2.symm.trans h'.2.2)).2
  exact ⟨rfl, (List.cons.inj (List.append_cancel_left hrest)).2⟩

/-- A text has its tokens in one way. -/
theorem eq_of_tokens {s : List Char} {names names' : List String}
    (h : Tokens s names) (h' : Tokens s names') : names = names' := by
  induction h generalizing names' with
  | nil =>
      cases h' with
      | nil => rfl
      | token hopens _ => cases hopens.2.2
  | token hopens _ ih =>
      cases h' with
      | nil => cases hopens.2.2
      | token hopens' hmore' =>
          obtain ⟨rfl, rfl⟩ := eq_of_opens hopens hopens'
          rw [ih hmore']
      | skip hnone _ => exact absurd hopens (hnone _ _)
  | skip hnone _ ih =>
      cases h' with
      | token hopens _ => exact absurd hopens (hnone _ _)
      | skip _ hrest' => exact ih hrest'

/-- The tokens of a path are those that the scan finds, and no others. -/
theorem tokens_iff {path : List Char} {names : List String} :
    Tokens path names ↔ names = (pathTokens path).map String.ofList :=
  ⟨fun h => eq_of_tokens h (tokens_tokensFrom 0 path),
    fun h => h ▸ tokens_tokensFrom 0 path⟩

/-- No token has a closing brace in its name. -/
theorem closing_not_mem_of_tokens {s : List Char} {names : List String}
    (h : Tokens s names) : ∀ name ∈ names, '\x7d' ∉ name.toList := by
  induction h with
  | nil => exact fun _ hmem => by cases hmem
  | token hopens _ ih =>
      refine List.forall_mem_cons.mpr ⟨?_, ih⟩
      rw [String.toList_ofList]
      exact hopens.2.1
  | skip _ _ ih => exact ih

end Document

end Toolsmith
