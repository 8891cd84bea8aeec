/-
What the parts of a source say. A part that begins and ends between statements
says what its own statements do, so parts are put together by putting what they
say together. A part that is known is computed. One that is not is a statement
with a known beginning, which decides what the statement says, and a known end;
what is in between may be anything that ends no statement.
-/
import Toolsmith.Proofs.Generate.Outline.Reading

namespace Toolsmith.Generate.Outline

variable {t : Target} {r r' : Reader} {out more : List Token}
  {above below : List Char} {o o' : Outline}

-- ========================================================== statements

/-- The last statement of the tokens ends with them. -/
def Complete (t : Target) (out : List Token) : Prop :=
  ∀ more, statements t (out ++ more) = statements t out ++ statements t more

theorem complete_nil : Complete t [] := fun _ => rfl

theorem complete_append (hout : Complete t out) (hmore : Complete t more) :
    Complete t (out ++ more) := by
  intro behind
  rw [List.append_assoc, hout, hmore, hout, List.append_assoc]

/-- A token that ends a statement, in front of others. -/
theorem statements_of_ends {k : Token} (hk : k.ends t = true)
    (behind : List Token) :
    statements t (k :: behind) = [k] :: statements t behind := by
  rw [statements, if_pos hk]

/-- A token that ends none belongs to the statement behind it. -/
theorem statements_of_not_ends {k : Token} (hk : k.ends t = false)
    {behind first : List Token} {rest : List (List Token)}
    (hbehind : statements t behind = first :: rest) :
    statements t (k :: behind) = (k :: first) :: rest := by
  rw [statements, hk, hbehind]
  rfl

/-- Tokens that end none belong to the statement behind them. -/
theorem statements_append {first : List Token} {rest : List (List Token)}
    (hout : ∀ k ∈ out, k.ends t = false)
    (hmore : statements t more = first :: rest) :
    statements t (out ++ more) = (out ++ first) :: rest := by
  induction out with
  | nil => exact hmore
  | cons k behind ih =>
      obtain ⟨hk, hbehind⟩ := List.forall_mem_cons.mp hout
      exact statements_of_not_ends hk (ih hbehind)

theorem exists_statements_cons (k : Token) (behind : List Token) :
    ∃ first rest, statements t (k :: behind) = first :: rest := by
  rw [statements]
  split
  · exact ⟨_, _, rfl⟩
  · split <;> exact ⟨_, _, rfl⟩

/-- Tokens are complete if the last one ends a statement. -/
theorem complete_of_getLast? (h : out.getLast?.any (·.ends t) = true) :
    Complete t out := by
  induction out with
  | nil => cases h
  | cons k behind ih =>
      intro more
      cases behind with
      | nil =>
          have hk : k.ends t = true := h
          rw [List.singleton_append, statements_of_ends hk,
            statements_of_ends hk]
          rfl
      | cons next behind =>
          rw [List.getLast?_cons_cons] at h
          have hbehind := ih h more
          rw [List.cons_append]
          cases hk : k.ends t with
          | true =>
              rw [statements_of_ends hk, statements_of_ends hk, hbehind]
              rfl
          | false =>
              obtain ⟨first, rest, hall⟩ := exists_statements_cons next behind
              rw [hall] at hbehind
              rw [statements_of_not_ends hk hbehind,
                statements_of_not_ends hk hall]
              rfl

-- =============================================================== saying

/-- What two parts say, one behind the other. -/
def append (o o' : Outline) : Outline :=
  ⟨o.names ++ o'.names, o.tables ++ o'.tables⟩

/-- Nothing is said. -/
def silent : Outline := ⟨[], []⟩

@[simp]
theorem append_silent (o : Outline) : o.append silent = o := by
  unfold append silent
  rw [List.append_nil, List.append_nil]

theorem append_assoc (o o' o'' : Outline) :
    (o.append o').append o'' = o.append (o'.append o'') := by
  unfold append
  rw [List.append_assoc, List.append_assoc]

theorem ofStatements_append (all others : List (List Token)) :
    ofStatements t (all ++ others)
      = (ofStatements t all).append (ofStatements t others) := by
  unfold ofStatements append
  dsimp only
  rw [List.map_append, List.flatMap_append, List.filterMap_append]

/-- What one statement says. -/
theorem ofStatements_singleton (out : List Token) :
    ofStatements t [out]
      = ⟨bound t (out.map Token.piece),
        (table? (out.map Token.piece)).toList⟩ := by
  have hbound : [out.map Token.piece].flatMap (bound t)
      = bound t (out.map Token.piece) := List.append_nil _
  unfold ofStatements
  rw [List.map_singleton]
  dsimp only
  rw [hbound, List.filterMap_cons]
  cases table? (out.map Token.piece) <;> rfl

/-- From `r` on, the text goes up to the end of a statement and says this. -/
def Says (t : Target) (r : Reader) (text : List Char) (o : Outline) : Prop :=
  ∃ out, Reads t r text (top t) out ∧ Complete t out
    ∧ ofStatements t (statements t out) = o

theorem says_nil : Says t (top t) [] silent :=
  ⟨[], .nil, complete_nil, rfl⟩

theorem Says.append (habove : Says t r above o)
    (hbelow : Says t (top t) below o') :
    Says t r (above ++ below) (o.append o') := by
  obtain ⟨out, hout, hcomplete, rfl⟩ := habove
  obtain ⟨more, hmore, hmoreComplete, rfl⟩ := hbelow
  refine ⟨out ++ more, hout.append hmore,
    complete_append hcomplete hmoreComplete, ?_⟩
  rw [hcomplete, ofStatements_append]

/-- A text without tokens in front says nothing. -/
theorem Says.behind (hbelow : Says t r' below o)
    (habove : Reads t r above r' []) : Says t r (above ++ below) o := by
  obtain ⟨out, hout, hcomplete, ho⟩ := hbelow
  exact ⟨out, habove.append hout, hcomplete, ho⟩

/-- What a known text says is computed. -/
theorem says_of_check {text : List Char}
    (h : (r.read t text).any (fun x => x.1 == top t
      && x.2.getLast?.any (·.ends t)
      && ofStatements t (statements t x.2) == o) = true) :
    Says t r text o := by
  obtain ⟨⟨last, out⟩, hread, h⟩ := (Option.any_eq_true _ _).mp h
  rw [Bool.and_eq_true, Bool.and_eq_true, beq_iff_eq, beq_iff_eq] at h
  obtain ⟨⟨rfl, hends⟩, ho⟩ := h
  exact ⟨out, hread, complete_of_getLast? hends, ho⟩

/-- What is left out says nothing. -/
theorem says_of_runs {text : List Char}
    (h : Runs t true r text (top t)) : Says t r text silent := by
  obtain ⟨out, hout, hnone⟩ := h
  cases out with
  | nil => exact ⟨[], hout, complete_nil, rfl⟩
  | cons k _ => cases (hnone k List.mem_cons_self).1

/-- From `r` on, the text ends a statement with the tokens `last`, and says this
behind it. -/
def Closes (t : Target) (r : Reader) (text : List Char) (last : List Token)
    (o : Outline) : Prop :=
  ∃ out rest, Reads t r text (top t) out ∧ Complete t out
    ∧ statements t out = last :: rest ∧ ofStatements t rest = o

/-- From `r` on, the text ends a statement, and says this behind it. -/
def Finishes (t : Target) (r : Reader) (text : List Char) (o : Outline) :
    Prop :=
  ∃ last, Closes t r text last o

/-- How a known text ends a statement is computed. -/
theorem closes_of_check {text : List Char} {last : List Token}
    (h : (r.read t text).any (fun x => x.1 == top t
      && x.2.getLast?.any (·.ends t)
      && (statements t x.2).head? == some last
      && ofStatements t (statements t x.2).tail == o) = true) :
    Closes t r text last o := by
  obtain ⟨⟨r', out⟩, hread, h⟩ := (Option.any_eq_true _ _).mp h
  rw [Bool.and_eq_true, Bool.and_eq_true, Bool.and_eq_true, beq_iff_eq,
    beq_iff_eq, beq_iff_eq] at h
  obtain ⟨⟨⟨rfl, hends⟩, hlast⟩, ho⟩ := h
  refine ⟨out, _, hread, complete_of_getLast? hends, ?_, ho⟩
  cases hall : statements t out with
  | nil => rw [hall] at hlast; cases hlast
  | cons first rest =>
      rw [hall] at hlast
      cases hlast
      rfl

theorem finishes_of_check {text : List Char}
    (h : (r.read t text).any (fun x => x.1 == top t
      && x.2.getLast?.any (·.ends t)
      && ofStatements t (statements t x.2).tail == o) = true) :
    Finishes t r text o := by
  obtain ⟨⟨last, out⟩, hread, h⟩ := (Option.any_eq_true _ _).mp h
  rw [Bool.and_eq_true, Bool.and_eq_true, beq_iff_eq, beq_iff_eq] at h
  obtain ⟨⟨rfl, hends⟩, ho⟩ := h
  have hcomplete := complete_of_getLast? hends
  cases out with
  | nil => cases hends
  | cons k behind =>
      obtain ⟨first, rest, hall⟩ := exists_statements_cons k behind
      rw [hall] at ho
      exact ⟨first, _, rest, hread, hcomplete, hall, ho⟩

/-- A literal in front of the end of a statement. -/
theorem Finishes.literal {s body rest : List Char}
    (h : Finishes t r rest o) (hs : Quotes t s body)
    (hr : r.mode = .code) (hapart : isApart t rest = true) :
    Finishes t r (s ++ rest) o := by
  obtain ⟨last, out, others, hout, hcomplete, hall, ho⟩ := h
  have hends : ∀ k ∈ r.token (.literal (String.ofList body)),
      k.ends t = false :=
    fun k hk => (forall_token rfl (ends_literal _ _) k hk).2
  have hwhole := statements_append hends hall
  refine ⟨_, _, others, hout.literal hs hr hapart, fun more => ?_, hwhole, ho⟩
  have hmore : statements t (out ++ more)
      = last :: (others ++ statements t more) := by
    rw [hcomplete, hall]
    rfl
  rw [List.append_assoc, statements_append hends hmore, hwhole]
  rfl

/-- A statement in three parts, with what is said behind it. -/
theorem says_parts {start body stop : List Char} {p inner last : List Token}
    {r'' : Reader} (hstart : Reads t r start r' p)
    (hp : p.all (!·.ends t) = true) (hbody : Reads t r' body r'' inner)
    (hinner : ∀ k ∈ inner, k.ends t = false)
    (hstop : Closes t r'' stop last o) :
    Says t r (start ++ (body ++ stop))
      ((ofStatements t [p ++ (inner ++ last)]).append o) := by
  obtain ⟨out, rest, hout, hcomplete, hall, rfl⟩ := hstop
  have hp : ∀ k ∈ p, k.ends t = false := fun k hk =>
    Bool.not_eq_true' _ ▸ List.all_eq_true.mp hp k hk
  have hstatements (more : List Token) :
      statements t (p ++ (inner ++ (out ++ more)))
        = (p ++ (inner ++ last)) :: (rest ++ statements t more) := by
    refine statements_append hp (statements_append hinner ?_)
    rw [hcomplete, hall]
    rfl
  have hwhole := hstatements []
  rw [List.append_nil, show statements t [] = [] from rfl,
    List.append_nil] at hwhole
  refine ⟨_, hstart.append (hbody.append hout), ?_, ?_⟩
  · intro more
    rw [List.append_assoc, List.append_assoc, hstatements, hwhole]
    rfl
  · rw [hwhole, ← ofStatements_append]
    rfl

/-- A statement that says what its first tokens do, whatever is behind
them. -/
theorem says_statement (names : List String) {start body stop : List Char}
    {p : List Token} {r'' : Reader} (hstart : Reads t r start r' p)
    (hp : p.all (!·.ends t) = true) (hbody : Runs t false r' body r'')
    (hstop : Finishes t r'' stop o)
    (hbound : ∀ more, bound t (p.map Token.piece ++ more) = names)
    (htable : ∀ more, table? (p.map Token.piece ++ more) = none) :
    Says t r (start ++ (body ++ stop)) (append ⟨names, []⟩ o) := by
  obtain ⟨inner, hinner, hends⟩ := hbody
  obtain ⟨last, hstop⟩ := hstop
  have hsays := says_parts hstart hp hinner (fun k hk => (hends k hk).2) hstop
  have hone : ofStatements t [p ++ (inner ++ last)] = ⟨names, []⟩ := by
    rw [ofStatements_singleton, List.map_append, hbound, htable]
    rfl
  rwa [hone] at hsays

/-- The tokens of an entry of a table. -/
def entryTokens (e : String × String) : List Token :=
  [⟨.literal e.1, 1⟩, ⟨.mark ':', 1⟩, ⟨.word e.2, 1⟩, ⟨.mark ',', 1⟩]

theorem entries?_flatMap (entries : List (String × String))
    (behind : List Piece) :
    entries? ((entries.flatMap entryTokens).map Token.piece
      ++ .mark '\x7d' :: behind) = some entries := by
  induction entries with
  | nil => rfl
  | cons e rest ih =>
      rw [List.flatMap_cons, List.map_append, List.append_assoc]
      show (entries? ((rest.flatMap entryTokens).map Token.piece
        ++ .mark '\x7d' :: behind)).map ((e.1, e.2) :: ·) = _
      rw [ih]
      rfl

/-- The statement that makes the dispatch table. -/
theorem says_table {start body stop : List Char} {p behind : List Token}
    {r'' : Reader} {names : List String} {entries : List (String × String)}
    (hstart : Reads t r start r' p) (hp : p.all (!·.ends t) = true)
    (hbody : Reads t r' body r'' (entries.flatMap entryTokens))
    (hstop : Closes t r'' stop (⟨.mark '\x7d', 0⟩ :: behind) o)
    (hbound : ∀ more, bound t (p.map Token.piece ++ more) = names)
    (htable : ∀ more, table? (p.map Token.piece ++ more) = entries? more) :
    Says t r (start ++ (body ++ stop)) (append ⟨names, [entries]⟩ o) := by
  have hinner : ∀ k ∈ entries.flatMap entryTokens, k.ends t = false := by
    intro k hk
    obtain ⟨e, -, hk⟩ := List.mem_flatMap.mp hk
    refine ends_of_pos ?_
    simp only [entryTokens, List.mem_cons, List.not_mem_nil, or_false] at hk
    rcases hk with rfl | rfl | rfl | rfl <;> exact Nat.one_pos
  have hsays := says_parts hstart hp hbody hinner hstop
  have hone : ofStatements t [p ++ (entries.flatMap entryTokens
      ++ ⟨.mark '\x7d', 0⟩ :: behind)] = ⟨names, [entries]⟩ := by
    rw [ofStatements_singleton, List.map_append, hbound, htable,
      List.map_append, List.map_cons, entries?_flatMap]
    rfl
  rwa [hone] at hsays

/-- A part for each item, one behind the other. -/
theorem says_flatMap {α : Type} (f : α → List Char)
    (names : α → List String) {items : List α}
    (h : ∀ a ∈ items, Says t (top t) (f a) ⟨names a, []⟩) :
    Says t (top t) (items.flatMap f) ⟨items.flatMap names, []⟩ := by
  induction items with
  | nil => exact says_nil
  | cons a rest ih =>
      obtain ⟨ha, hrest⟩ := List.forall_mem_cons.mp h
      rw [List.flatMap_cons, List.flatMap_cons]
      exact ha.append (ih hrest)

/-- A source that says something from its start on is read so. -/
theorem of?_eq_some {source : String}
    (h : Says t ⟨.start, [], false⟩ source.toList o) :
    of? t source = some o := by
  obtain ⟨out, hout, -, ho⟩ := h
  unfold of? tokens?
  rw [show Reader.read t _ source.toList = _ from hout]
  show ((if top t == top t then some out else none : Option _).map _) = _
  rw [if_pos (beq_self_eq_true (top t)), Option.map_some, ho]

end Toolsmith.Generate.Outline
