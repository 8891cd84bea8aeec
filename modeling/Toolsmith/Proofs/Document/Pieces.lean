/-
A path as the pieces that the scan for tokens takes it apart into: the tokens,
and the single characters between them. Put together again the pieces are the
path, and the tokens among them are the tokens of the path.

The scan is described once, by `Scan`, one case for each thing that it can do
next. What later proofs need to know about a brace that begins no token is part
of that description: behind it stands a closing one, or none at all.
-/
import Mathlib.Data.List.TakeWhile
import Toolsmith.Document.Parameters

namespace Toolsmith.Document

-- ============================================================== pieces

/-- A piece of a path: a character that belongs to no token, or a token. -/
inductive Piece where
  | plain (c : Char)
  | token (name : String)
  deriving DecidableEq, Repr

namespace Piece

/-- A piece as it stands in the path. -/
def text : Piece → List Char
  | plain c => [c]
  | token name => '\x7b' :: name.toList ++ ['\x7d']

/-- A token and what stands behind it. -/
theorem text_append (name more : List Char) :
    (token (String.ofList name)).text ++ more
      = '\x7b' :: (name ++ '\x7d' :: more) := by
  simp [text]

/-- The name of a token. -/
def name? : Piece → Option String
  | plain _ => none
  | token name => some name

end Piece

/-- The pieces of a text; `skip` characters belong to the token found
last. -/
def piecesFrom : Nat → List Char → List Piece
  | _, [] => []
  | skip + 1, _ :: rest => piecesFrom skip rest
  | 0, c :: rest =>
    match tokenAt? (c :: rest) with
    | some name =>
      .token (String.ofList name) :: piecesFrom (name.length + 1) rest
    | none => .plain c :: piecesFrom 0 rest

/-- The pieces of a path. -/
def pieces (path : List Char) : List Piece := piecesFrom 0 path

/-- The scan for tokens takes a text apart into pieces. -/
inductive Scan : List Char → List Piece → Prop where
  | nil : Scan [] []
  /-- A character that begins no token. If it is a brace, a closing one stands
  right behind it or nowhere behind it. -/
  | plain {c : Char} {rest : List Char} {ps : List Piece}
      (hbrace : c = '\x7b' →
        (∃ more, rest = '\x7d' :: more) ∨ '\x7d' ∉ rest)
      (hrest : Scan rest ps) : Scan (c :: rest) (.plain c :: ps)
  | token {name : String} {rest : List Char} {ps : List Piece}
      (hne : name ≠ "") (hrest : Scan rest ps) :
      Scan ((Piece.token name).text ++ rest) (.token name :: ps)

-- ================================================================ scan

/-- A token is what stands in front of the nearest closing brace, if there is
one and something in front of it. -/
theorem tokenAt?_brace (rest : List Char) :
    tokenAt? ('\x7b' :: rest)
      = if !(rest.takeWhile (· != '\x7d')).isEmpty
            && (rest.takeWhile (· != '\x7d')).length < rest.length
        then some (rest.takeWhile (· != '\x7d')) else none :=
  rfl

/-- What stands in front of the nearest closing brace. -/
theorem takeWhile_append_closing {name : List Char} (h : '\x7d' ∉ name)
    (more : List Char) :
    (name ++ '\x7d' :: more).takeWhile (· != '\x7d') = name := by
  rw [List.takeWhile_append_of_pos, List.takeWhile_cons_of_neg,
    List.append_nil]
  · decide
  · intro c hc
    exact bne_iff_ne.mpr fun heq => h (heq ▸ hc)

/-- A token is a name between two braces, the nearest closing one; an empty
name makes none. -/
theorem tokenAt?_open {name : List Char} (h : '\x7d' ∉ name)
    (more : List Char) :
    tokenAt? ('\x7b' :: (name ++ '\x7d' :: more))
      = if name.isEmpty then none else some name := by
  have hlong : name.length < (name ++ '\x7d' :: more).length := by
    rw [List.length_append, List.length_cons]
    omega
  rw [tokenAt?_brace, takeWhile_append_closing h, decide_eq_true hlong,
    Bool.and_true]
  cases name <;> rfl

/-- Without a closing brace there is no token. -/
theorem tokenAt?_of_not_mem {rest : List Char} (h : '\x7d' ∉ rest) :
    tokenAt? ('\x7b' :: rest) = none := by
  have hname : rest.takeWhile (· != '\x7d') = rest :=
    List.takeWhile_eq_self_iff.mpr fun c hc =>
      bne_iff_ne.mpr fun heq => h (heq ▸ hc)
  rw [tokenAt?_brace, hname, decide_eq_false (Nat.lt_irrefl _), Bool.and_false]
  rfl

/-- Only a brace begins a token. -/
theorem tokenAt?_of_ne {c : Char} (h : c ≠ '\x7b') (rest : List Char) :
    tokenAt? (c :: rest) = none := by
  unfold tokenAt?
  split
  next hopen => exact absurd (List.cons.inj hopen).1 h
  next => rfl

/-- The pieces are what the scan finds. -/
theorem scan_piecesFrom (skip : Nat) (s : List Char) :
    Scan (s.drop skip) (piecesFrom skip s) := by
  induction s generalizing skip with
  | nil =>
      rw [List.drop_nil]
      exact .nil
  | cons c rest ih =>
      cases skip with
      | succ n => exact ih n
      | zero =>
          rw [List.drop_zero, piecesFrom]
          by_cases hc : c = '\x7b'
          · subst hc
            by_cases hmem : '\x7d' ∈ rest
            · obtain ⟨name, more, rfl, hplain⟩ :=
                List.eq_append_cons_of_mem hmem
              rw [tokenAt?_open hplain]
              cases name with
              | nil => exact .plain (fun _ => Or.inl ⟨more, rfl⟩) (ih 0)
              | cons a name =>
                  have hmore := ih ((a :: name).length + 1)
                  have hdrop : (a :: name ++ '\x7d' :: more).drop
                      ((a :: name).length + 1) = more := by
                    rw [← List.drop_drop, List.drop_left]
                    rfl
                  rw [hdrop] at hmore
                  rw [← Piece.text_append]
                  refine .token (fun hempty => ?_) hmore
                  cases String.ofList_eq_empty_iff.mp hempty
            · rw [tokenAt?_of_not_mem hmem]
              exact .plain (fun _ => Or.inr hmem) (ih 0)
          · rw [tokenAt?_of_ne hc]
            exact .plain (fun h => absurd h hc) (ih 0)

/-- So are the pieces of a path. -/
theorem scan_pieces (path : List Char) : Scan path (pieces path) :=
  scan_piecesFrom 0 path

/-- The pieces make up the text. -/
theorem text_of_scan {s : List Char} {ps : List Piece} (h : Scan s ps) :
    ps.flatMap Piece.text = s := by
  induction h with
  | nil => rfl
  | plain _ _ ih => rw [List.flatMap_cons, ih]; rfl
  | token _ _ ih => rw [List.flatMap_cons, ih]

/-- A text that begins with a closing brace has that as its first piece. -/
theorem exists_of_scan_closing {more : List Char} {ps : List Piece}
    (h : Scan ('\x7d' :: more) ps) : ∃ rest, ps = .plain '\x7d' :: rest := by
  generalize hs : '\x7d' :: more = s at h
  cases h with
  | nil => cases hs
  | plain _ _ =>
      obtain ⟨rfl, -⟩ := List.cons.inj hs
      exact ⟨_, rfl⟩
  | token _ _ => exact absurd (List.cons.inj hs).1 (by decide)

/-- No token has an empty name. -/
theorem ne_empty_of_scan {s : List Char} {ps : List Piece} (h : Scan s ps)
    {name : String} (hname : .token name ∈ ps) : name ≠ "" := by
  induction h with
  | nil => cases hname
  | plain _ _ ih =>
      rcases List.mem_cons.mp hname with heq | hrest
      · cases heq
      · exact ih hrest
  | token hne _ ih =>
      rcases List.mem_cons.mp hname with heq | hrest
      · cases heq
        exact hne
      · exact ih hrest

/-- The tokens among the pieces of a text are those that the scan finds
there. -/
theorem names_piecesFrom (skip : Nat) (s : List Char) :
    (piecesFrom skip s).filterMap Piece.name?
      = (tokensFrom skip s).map String.ofList := by
  induction s generalizing skip with
  | nil => cases skip <;> rfl
  | cons c rest ih =>
      cases skip with
      | succ n => exact ih n
      | zero =>
          rw [piecesFrom, tokensFrom]
          cases tokenAt? (c :: rest) with
          | some name => exact congrArg (String.ofList name :: ·) (ih _)
          | none => exact ih 0

/-- The tokens among the pieces of a path are the tokens of the path. -/
theorem names_pieces (path : List Char) :
    (pieces path).filterMap Piece.name?
      = (pathTokens path).map String.ofList :=
  names_piecesFrom 0 path

theorem name?_eq_some_iff {piece : Piece} {name : String} :
    piece.name? = some name ↔ piece = .token name := by
  cases piece with
  | plain c => exact ⟨fun h => (by cases h), fun h => (by cases h)⟩
  | token found =>
      exact ⟨fun h => congrArg Piece.token (Option.some.inj h),
        fun h => congrArg some (Piece.token.inj h)⟩

/-- A name is among those of the pieces if its token is one of them. -/
theorem mem_names_iff {ps : List Piece} {name : String} :
    name ∈ ps.filterMap Piece.name? ↔ .token name ∈ ps := by
  simp only [List.mem_filterMap, name?_eq_some_iff, exists_eq_right]

/-- A piece is a token exactly if its name is that of a token. -/
theorem token_mem_pieces {path : List Char} {name : String} :
    .token name ∈ pieces path
      ↔ name ∈ (pathTokens path).map String.ofList := by
  rw [← names_pieces, mem_names_iff]

/-- Where the names of the pieces are some, one and others, the token of that
one stands between the pieces of these. -/
theorem exists_of_names_eq {ps : List Piece} {before after : List String}
    {name : String} (h : ps.filterMap Piece.name? = before ++ name :: after) :
    ∃ front rest, ps = front ++ .token name :: rest
      ∧ front.filterMap Piece.name? = before
      ∧ rest.filterMap Piece.name? = after := by
  obtain ⟨front, back, rfl, hfront, hback⟩ := List.filterMap_eq_append_iff.mp h
  obtain ⟨plain, piece, rest, rfl, hplain, hpiece, hrest⟩ :=
    List.filterMap_eq_cons_iff.mp hback
  obtain rfl := name?_eq_some_iff.mp hpiece
  have hnone : plain.filterMap Piece.name? = [] :=
    List.filterMap_eq_nil_iff.mpr hplain
  refine ⟨front ++ plain, rest, (List.append_assoc _ _ _).symm, ?_, hrest⟩
  rw [List.filterMap_append, hnone, List.append_nil, hfront]

end Toolsmith.Document
