/-
What the tokens of a YAML text must hold for the reader of nodes to go too
deep. Every collection that is open has used up a token of its own, one that
opens it or marks its first entry. So the collections that are open and the
openings that are still to come never exceed the openings of the text, and
one collection too many is one opening too many. Whatever else the reader
complains about is a mistake of grammar, a name that is used twice or not
defined, or what the text is at fault with behind its last token.
-/
import Mathlib.Data.List.Infix
import Toolsmith.Proofs.Steps
import Toolsmith.Yaml.Node

namespace Toolsmith.Yaml

/-- A token that every collection has at its start. -/
def Token.opens : Token → Bool
  | .blockSequence | .blockMapping | .openSequence | .openMapping => true
  | .item | .key => true
  | _ => false

-- ============================================================ accounts

/-- The open collections and the openings to come fit into the room. -/
def NodeReader.Fits (room : Nat) (r : NodeReader) : Prop :=
  r.depth + r.tokens.countP Token.opens ≤ room

/-- What a reader of nodes may complain about where there is so much room and
the text is at fault like this. -/
inductive Complaint (room : Nat) (behind : Fault) : Fault → Prop where
  | grammar : Complaint room behind .grammar
  | reference : Complaint room behind .reference
  | behind : Complaint room behind behind
  | tooDeep (h : depthLimit ≤ room) : Complaint room behind .tooDeep

/-- The reader has gone on through the tokens, and is as deep as before. -/
structure NodeReader.Follows (r r' : NodeReader) : Prop where
  tokens : r'.tokens <:+ r.tokens
  depth : r'.depth = r.depth
  fault : r'.fault = r.fault

namespace NodeReader.Follows

variable {r r' r'' : NodeReader}

theorem refl (r : NodeReader) : r.Follows r := ⟨List.suffix_refl _, rfl, rfl⟩

theorem trans (h : r.Follows r') (h' : r'.Follows r'') : r.Follows r'' :=
  ⟨h'.tokens.trans h.tokens, h'.depth.trans h.depth, h'.fault.trans h.fault⟩

theorem fits {room : Nat} (h : r.Follows r') (hr : r.Fits room) :
    r'.Fits room := by
  have hcount := h.tokens.sublist.countP_le (p := Token.opens)
  have hdepth := h.depth
  unfold NodeReader.Fits at *
  omega

end NodeReader.Follows

/-- A step of the reader that keeps to this: it follows the tokens, or has one
of the complaints. -/
structure Keeps {α : Type} (room : Nat) (m : Reading α) (r : NodeReader) :
    Prop where
  ok : ∀ {a r'}, m.run r = .ok (a, r') → r.Follows r'
  error : ∀ {fault}, m.run r = .error fault → Complaint room r.fault fault

namespace Keeps

variable {α β : Type} {room : Nat} {r : NodeReader}

theorem pure (a : α) : Keeps room (Pure.pure a) r where
  ok h := by cases h; exact .refl r
  error h := by cases h

theorem throw {fault : Fault} (h : Complaint room r.fault fault) :
    Keeps room (throw fault : Reading α) r where
  ok heq := by cases heq
  error heq := by cases heq; exact h

theorem bind {m : Reading α} {f : α → Reading β} (hm : Keeps room m r)
    (hf : ∀ a r', m.run r = .ok (a, r') → r.Follows r' →
      Keeps room (f a) r') : Keeps room (m >>= f) r where
  ok h := by
    rw [StateT.run_bind] at h
    obtain ⟨⟨a, r'⟩, ha, h⟩ := Steps.bind_eq_ok.mp h
    have hfollows := hm.ok ha
    exact hfollows.trans ((hf a r' ha hfollows).ok h)
  error h := by
    rw [StateT.run_bind] at h
    rcases Steps.bind_eq_error.mp h with h | ⟨⟨a, r'⟩, ha, h⟩
    · exact hm.error h
    · have hfollows := hm.ok ha
      exact hfollows.fault ▸ (hf a r' ha hfollows).error h

theorem ite {p : Prop} [Decidable p] {m n : Reading α}
    (hm : Keeps room m r) (hn : Keeps room n r) :
    Keeps room (if p then m else n) r := by
  split
  · exact hm
  · exact hn

/-- A change of what is neither the tokens nor the depth. -/
theorem modify {f : NodeReader → NodeReader} (h : r.Follows (f r)) :
    Keeps room (modify f) r where
  ok heq := by cases heq; exact h
  error heq := by cases heq

end Keeps

namespace Reading

variable {room : Nat} {r : NodeReader}

-- =============================================================== steps

theorem run_peek (r : NodeReader) :
    peek.run r = match r.tokens with
      | t :: _ => .ok (t, r)
      | [] => .error r.fault := by
  obtain ⟨tokens, _, _, _, _, _⟩ := r
  cases tokens <;> rfl

theorem run_accept (t : Token) (r : NodeReader) :
    (accept t).run r = match r.tokens with
      | t' :: rest =>
        if t' == t then .ok (true, { r with tokens := rest })
        else .ok (false, r)
      | [] => .error r.fault := by
  unfold accept
  rw [StateT.run_bind, run_peek]
  obtain ⟨tokens, _, _, _, _, _⟩ := r
  cases tokens with
  | nil => rfl
  | cons t' rest =>
      show (if t' == t then _ else _ : Reading Bool).run _ = _
      dsimp only
      split <;> rfl

theorem keeps_get : Keeps room (get : Reading NodeReader) r where
  ok h := by cases h; exact .refl r
  error h := by cases h

theorem keeps_peek : Keeps room peek r where
  ok h := by
    rw [run_peek] at h
    split at h
    · cases h
      exact .refl r
    · cases h
  error h := by
    rw [run_peek] at h
    split at h
    · cases h
    · cases h
      exact .behind

theorem keeps_skip : Keeps room skip r :=
  .modify ⟨List.drop_suffix 1 _, rfl, rfl⟩

theorem keeps_accept (t : Token) : Keeps room (accept t) r where
  ok h := by
    rw [run_accept] at h
    split at h
    next heq =>
      split at h
      · cases h
        exact ⟨heq ▸ List.suffix_cons _ _, rfl, rfl⟩
      · cases h
        exact .refl r
    next => cases h
  error h := by
    rw [run_accept] at h
    split at h
    · split at h <;> cases h
    · cases h
      exact .behind

/-- What is accepted was the next token. -/
theorem tokens_of_accept {t : Token} {r' : NodeReader}
    (h : (accept t).run r = .ok (true, r')) :
    r.tokens = t :: r'.tokens ∧ r'.depth = r.depth := by
  rw [run_accept] at h
  split at h
  next heq =>
    split at h
    next ht =>
      cases h
      rw [heq, beq_iff_eq.mp ht]
      exact ⟨rfl, rfl⟩
    next => cases h
  next => cases h

theorem keeps_atAny (ts : List Token) : Keeps room (atAny ts) r :=
  .bind keeps_peek fun _ _ _ _ => .pure _

theorem keeps_properties : Keeps room properties r := by
  refine .bind keeps_peek fun t _ _ _ => ?_
  split
  · refine .bind keeps_skip fun _ _ _ _ => .bind keeps_peek fun t _ _ _ => ?_
    split
    · exact .bind keeps_skip fun _ _ _ _ => .pure _
    · exact .pure _
  · refine .bind keeps_skip fun _ _ _ _ => .bind keeps_peek fun t _ _ _ => ?_
    split
    · exact .bind keeps_skip fun _ _ _ _ => .pure _
    · exact .pure _
  · exact .pure _

theorem keeps_wholeTag (p : Properties) : Keeps room (wholeTag p) r := by
  unfold wholeTag
  split
  · exact .pure _
  · exact .pure _
  · refine .bind keeps_get fun _ _ _ _ => ?_
    split
    · exact .pure _
    · exact .throw .grammar

theorem keeps_checkAnchor (anchor : Option (List Char)) :
    Keeps room (checkAnchor anchor) r := by
  unfold checkAnchor
  split
  · exact .bind keeps_get fun _ _ _ _ => .ite (.throw .reference) (.pure _)
  · exact .pure _

theorem keeps_setAnchor (anchor : Option (List Char)) (a : Anchored) :
    Keeps room (setAnchor anchor a) r := by
  unfold setAnchor
  split
  · exact .modify ⟨List.suffix_refl _, rfl, rfl⟩
  · exact .pure _

theorem keeps_aliased (name : List Char) : Keeps room (aliased name) r := by
  refine .bind keeps_get fun _ _ _ _ => ?_
  split
  · exact .pure _
  · exact .pure _
  · exact .throw .reference

theorem keeps_number : Keeps room number r :=
  .bind keeps_get fun _ _ _ _ =>
    .bind (.modify ⟨List.suffix_refl _, rfl, rfl⟩) fun _ _ _ _ => .pure _

theorem run_inside (body : Reading Node) (r : NodeReader) :
    (inside body).run r =
      if depthLimit ≤ r.depth then .error .tooDeep
      else do
        let (n, r') ← body.run { r with depth := r.depth + 1 }
        return (n, { r' with depth := r.depth }) := by
  by_cases hdeep : depthLimit ≤ r.depth
  · rw [if_pos hdeep]
    unfold inside
    rw [StateT.run_bind]
    show (if depthLimit ≤ r.depth then _ else _ : Reading Node).run r = _
    rw [if_pos hdeep]
    rfl
  · rw [if_neg hdeep]
    unfold inside
    rw [StateT.run_bind]
    show (if depthLimit ≤ r.depth then _ else _ : Reading Node).run r = _
    rw [if_neg hdeep]
    rfl

/-- What is inside of a collection keeps to this if it does one level
deeper. -/
theorem keeps_inside {body : Reading Node} (hfits : r.Fits room)
    (hbody : Keeps room body { r with depth := r.depth + 1 }) :
    Keeps room (inside body) r where
  ok h := by
    rw [run_inside] at h
    split at h
    · cases h
    · obtain ⟨⟨n, r'⟩, hn, h⟩ := Steps.bind_eq_ok.mp h
      cases h
      have hfollows := hbody.ok hn
      exact ⟨hfollows.tokens, rfl, hfollows.fault⟩
  error h := by
    rw [run_inside] at h
    split at h
    next hdeep =>
      cases h
      exact .tooDeep (by unfold NodeReader.Fits at hfits; omega)
    next =>
      rcases Steps.bind_eq_error.mp h with h | ⟨_, _, h⟩
      · exact hbody.error h
      · cases h

-- =============================================================== nodes

/-- A collection whose first token has been used up has room inside. -/
theorem fits_of_opened {r r' : NodeReader} {t : Token} (hfits : r.Fits room)
    (ht : t.opens = true) (htokens : r.tokens = t :: r'.tokens)
    (hdepth : r'.depth = r.depth) :
    ({ r' with depth := r'.depth + 1 } : NodeReader).Fits room := by
  unfold NodeReader.Fits at *
  rw [htokens, List.countP_cons_of_pos ht] at hfits
  dsimp only
  omega

/-- The next token is the first one. -/
theorem tokens_of_peek {t : Token} {r' : NodeReader}
    (h : peek.run r = .ok (t, r')) : r' = r ∧ ∃ rest, r.tokens = t :: rest := by
  rw [run_peek] at h
  split at h
  next heq =>
    cases h
    exact ⟨rfl, _, heq⟩
  next => cases h

theorem eq_of_checkAnchor {anchor : Option (List Char)} {u : Unit}
    {r' : NodeReader} (h : (checkAnchor anchor).run r = .ok (u, r')) :
    r' = r := by
  unfold checkAnchor at h
  split at h
  · rw [StateT.run_bind] at h
    obtain ⟨_, ha, h⟩ := Steps.bind_eq_ok.mp h
    cases ha
    dsimp only at h
    split at h
    · cases h
    · cases h
      rfl
  · cases h
    rfl

theorem tokens_of_setAnchor {anchor : Option (List Char)} {a : Anchored}
    {u : Unit} {r' : NodeReader}
    (h : (setAnchor anchor a).run r = .ok (u, r')) :
    r'.tokens = r.tokens ∧ r'.depth = r.depth := by
  unfold setAnchor at h
  split at h <;> (cases h; exact ⟨rfl, rfl⟩)

/-- A collection, whose inside is read with the same tokens to come. -/
theorem keeps_collect {anchor : Option (List Char)} {number : Nat}
    {mapping : Bool} {body : Reading Node} (hfits : r.Fits room)
    (hbody : ∀ r' : NodeReader, r'.tokens = r.tokens →
      r'.depth = r.depth + 1 → Keeps room body r') :
    Keeps room (do
      checkAnchor anchor
      setAnchor anchor (.unfinished number mapping)
      let n ← inside body
      setAnchor anchor (.node n)
      return n) r := by
  refine .bind (keeps_checkAnchor _) fun _ r' hchecked _ => ?_
  rw [eq_of_checkAnchor hchecked]
  refine .bind (keeps_setAnchor _ _) fun _ r' hset hfollows => ?_
  obtain ⟨htokens, hdepth⟩ := tokens_of_setAnchor hset
  refine .bind (keeps_inside (hfollows.fits hfits) (hbody _ htokens ?_))
    fun n _ _ _ => .bind (keeps_setAnchor _ _) fun _ _ _ _ => .pure n
  rw [← hdepth]

/-- A collection behind a token that opens it. -/
theorem keeps_opened {t : Token} {anchor : Option (List Char)} {number : Nat}
    {mapping : Bool} {body : Reading Node} (ht : t.opens = true)
    (htokens : ∃ rest, r.tokens = t :: rest) (hfits : r.Fits room)
    (hbody : ∀ r' : NodeReader, r'.Fits room → Keeps room body r') :
    Keeps room (do
      skip
      checkAnchor anchor
      setAnchor anchor (.unfinished number mapping)
      let n ← inside body
      setAnchor anchor (.node n)
      return n) r := by
  refine .bind keeps_skip fun _ r₁ hskip hfollows => ?_
  obtain ⟨rest, hrest⟩ := htokens
  cases hskip
  refine keeps_collect (hfollows.fits hfits) fun r' htokens hdepth => ?_
  refine hbody r' ?_
  unfold NodeReader.Fits at *
  rw [hrest, List.countP_cons_of_pos ht] at hfits
  dsimp only at htokens hdepth
  rw [htokens, hdepth, hrest, List.drop_succ_cons, List.drop_zero]
  omega

/-- A node that is no collection. -/
theorem keeps_leaf (anchor : Option (List Char)) (n : Node) :
    Keeps room (do
      checkAnchor anchor
      setAnchor anchor (.node n)
      return n) r :=
  .bind (keeps_checkAnchor _) fun _ _ _ _ =>
    .bind (keeps_setAnchor _ _) fun _ _ _ _ => .pure n

/-- A comma in front of all but the first of several parts. -/
theorem keeps_behindComma {α : Type} {first : Bool} {rest : Unit → Reading α}
    (hrest : ∀ r', r.Follows r' → Keeps room (rest ()) r') :
    Keeps room (if !first then do
        if !(← accept .comma) then
          let u ← throw .grammar
          rest u
        else rest ()
      else rest ()) r :=
  .ite (.bind (keeps_accept _) fun _ _ _ h =>
    .ite (.bind (.throw .grammar) fun _ _ h => (by cases h)) (hrest _ h))
    (hrest _ (.refl r))

/-- All readers of nodes keep to it with this fuel. Items behind a dash may be
read one level deeper before the first dash is used up. -/
structure NodesKeep (room fuel : Nat) : Prop where
  node : ∀ {r inBlock dashes}, r.Fits room →
    Keeps room (node fuel inBlock dashes) r
  optional : ∀ {r inBlock dashes absent}, r.Fits room →
    Keeps room (optional fuel inBlock dashes absent) r
  items : ∀ {r}, r.Fits room → Keeps room (blockItems fuel) r
  dashes : ∀ {r}, (r.Fits room ∨ ∃ rest, r.tokens = .item :: rest
      ∧ ({ r with tokens := rest } : NodeReader).Fits room) →
    Keeps room (dashItems fuel) r
  entries : ∀ {r}, r.Fits room → Keeps room (blockEntries fuel) r
  list : ∀ {r first}, r.Fits room → Keeps room (bracketItems fuel first) r
  map : ∀ {r first}, r.Fits room → Keeps room (bracketEntries fuel first) r

namespace NodesKeep

variable {fuel : Nat}

theorem node_succ (ih : NodesKeep room fuel) {inBlock dashes : Bool}
    (hfits : r.Fits room) :
    Keeps room (Reading.node (fuel + 1) inBlock dashes) r := by
  unfold Reading.node
  refine .bind keeps_peek fun t _ _ h => ?_
  have hfits := h.fits hfits
  split
  · exact .bind keeps_skip fun _ _ _ _ => keeps_aliased _
  refine .bind keeps_properties fun p _ _ h => ?_
  have hfits := h.fits hfits
  refine .bind (keeps_wholeTag p) fun tag _ _ h => ?_
  have hfits := h.fits hfits
  refine .bind keeps_peek fun t r hpeek h => ?_
  obtain ⟨rfl, hhead⟩ := tokens_of_peek hpeek
  refine .bind keeps_number fun number r' hnumber h => ?_
  have hhead : ∃ rest, r'.tokens = t :: rest := by
    cases hnumber
    exact hhead
  have hfits := h.fits hfits
  have hempty : Keeps room (if p.anchor.isSome || tag.isSome then do
      checkAnchor p.anchor
      setAnchor p.anchor
        (.node (.scalar number (scalarKind tag [] true) []))
      return Node.scalar number (scalarKind tag [] true) []
    else throw .grammar) r' :=
    .ite (keeps_leaf _ _) (.throw .grammar)
  dsimp only
  split
  · refine .ite (keeps_collect hfits fun r htokens hdepth => ?_) hempty
    obtain ⟨rest, hrest⟩ := hhead
    refine .bind (ih.dashes (Or.inr ⟨rest, htokens.trans hrest, ?_⟩))
      fun _ _ _ _ => .pure _
    unfold NodeReader.Fits at *
    rw [hrest, List.countP_cons_of_pos rfl] at hfits
    dsimp only
    omega
  · exact .bind keeps_skip fun _ _ _ _ => keeps_leaf _ _
  · exact keeps_opened rfl hhead hfits fun _ hfits =>
      .bind (ih.list hfits) fun _ _ _ _ => .pure _
  · exact keeps_opened rfl hhead hfits fun _ hfits =>
      .bind (ih.map hfits) fun _ _ _ _ => .pure _
  · exact .ite (keeps_opened rfl hhead hfits fun _ hfits =>
      .bind (ih.items hfits) fun _ _ _ _ => .pure _) hempty
  · exact .ite (keeps_opened rfl hhead hfits fun _ hfits =>
      .bind (ih.entries hfits) fun _ _ _ _ => .pure _) hempty
  · exact hempty

theorem optional_succ (ih : NodesKeep room fuel) {inBlock dashes : Bool}
    {absent : List Token} (hfits : r.Fits room) :
    Keeps room (Reading.optional (fuel + 1) inBlock dashes absent) r :=
  .bind (keeps_atAny _) fun _ _ _ h =>
    .ite (.pure _) (ih.node (h.fits hfits))

theorem items_succ (ih : NodesKeep room fuel) (hfits : r.Fits room) :
    Keeps room (blockItems (fuel + 1)) r := by
  unfold blockItems
  refine .bind (keeps_accept _) fun found r' _ h => ?_
  have hfits := h.fits hfits
  refine .ite (.bind (ih.optional hfits) fun n _ _ h =>
    .bind (ih.items (h.fits hfits)) fun _ _ _ _ => .pure _) ?_
  exact .bind (keeps_accept _) fun _ _ _ _ => .ite (.pure _) (.throw .grammar)

theorem dashes_succ (ih : NodesKeep room fuel)
    (hready : r.Fits room ∨ ∃ rest, r.tokens = .item :: rest
      ∧ ({ r with tokens := rest } : NodeReader).Fits room) :
    Keeps room (dashItems (fuel + 1)) r := by
  unfold dashItems
  refine .bind (keeps_accept _) fun found r' hfound h => ?_
  cases found with
  | false => exact .pure _
  | true =>
      obtain ⟨htokens, hdepth⟩ := tokens_of_accept hfound
      have hfits : r'.Fits room := by
        rcases hready with hfits | ⟨rest, hrest, hfits⟩
        · exact h.fits hfits
        · rw [htokens] at hrest
          cases hrest
          unfold NodeReader.Fits at *
          rw [hdepth]
          exact hfits
      exact .bind (ih.optional hfits) fun _ _ _ h =>
        .bind (ih.dashes (Or.inl (h.fits hfits))) fun _ _ _ _ => .pure _

/-- An entry with a key in front of what follows it. -/
theorem entry (ih : NodesKeep room fuel) {α : Type} {inBlock dashes : Bool}
    {forKey forValue : List Token} {rest : Node → Node → Reading α}
    (hrest : ∀ k v {r : NodeReader}, r.Fits room → Keeps room (rest k v) r)
    (hfits : r.Fits room) :
    Keeps room (do
      let k ← Reading.optional fuel inBlock dashes forKey
      if ← accept .value then
        let v ← Reading.optional fuel inBlock dashes forValue
        rest k v
      else
        let v ← pure emptyNode
        rest k v) r := by
  refine .bind (ih.optional hfits) fun k _ _ h => ?_
  have hfits := h.fits hfits
  refine .bind (keeps_accept _) fun _ _ _ h => ?_
  have hfits := h.fits hfits
  exact .ite
    (.bind (ih.optional hfits) fun v _ _ h => hrest k v (h.fits hfits))
    (.bind (.pure _) fun v _ _ h => hrest k v (h.fits hfits))

theorem entries_succ (ih : NodesKeep room fuel) (hfits : r.Fits room) :
    Keeps room (blockEntries (fuel + 1)) r := by
  unfold blockEntries
  refine .bind (keeps_accept _) fun _ _ _ h => ?_
  refine .ite (ih.entry (fun k v _ hfits => ?_) (h.fits hfits)) ?_
  · exact .bind (ih.entries hfits) fun _ _ _ _ => .pure _
  · exact .bind (keeps_accept _) fun _ _ _ _ =>
      .ite (.pure _) (.throw .grammar)

theorem list_succ (ih : NodesKeep room fuel) {first : Bool}
    (hfits : r.Fits room) :
    Keeps room (bracketItems (fuel + 1) first) r := by
  unfold bracketItems
  refine .bind (keeps_accept _) fun _ _ _ h => .ite (.pure _) ?_
  have hfits := h.fits hfits
  refine keeps_behindComma fun r h => ?_
  have hfits := h.fits hfits
  refine .bind (keeps_accept _) fun found r' hfound h => ?_
  have hfits' := h.fits hfits
  cases found with
  | true =>
      obtain ⟨htokens, hdepth⟩ := tokens_of_accept hfound
      refine .bind (keeps_inside hfits' (ih.entry (fun k v _ _ => ?_)
        (fits_of_opened hfits rfl htokens hdepth))) fun _ _ _ h =>
        .bind (ih.list (h.fits hfits')) fun _ _ _ _ => .pure _
      exact .bind keeps_number fun _ _ _ _ => .pure _
  | false =>
      refine .bind (keeps_accept _) fun _ _ _ h => .ite (.pure _) ?_
      exact .bind (ih.node (h.fits hfits')) fun _ _ _ h' =>
        .bind (ih.list (h'.fits (h.fits hfits'))) fun _ _ _ _ => .pure _

theorem map_succ (ih : NodesKeep room fuel) {first : Bool}
    (hfits : r.Fits room) :
    Keeps room (bracketEntries (fuel + 1) first) r := by
  unfold bracketEntries
  refine .bind (keeps_accept _) fun _ _ _ h => .ite (.pure _) ?_
  have hfits := h.fits hfits
  refine keeps_behindComma fun r h => ?_
  have hfits := h.fits hfits
  refine .bind (keeps_accept _) fun _ _ _ h => ?_
  have hfits := h.fits hfits
  refine .ite (ih.entry (fun k v _ hfits => ?_) hfits) ?_
  · exact .bind (ih.map hfits) fun _ _ _ _ => .pure _
  · refine .bind (keeps_accept _) fun _ _ _ h => .ite (.pure _) ?_
    have hfits := h.fits hfits
    exact .bind (ih.node hfits) fun _ _ _ h =>
      .bind (ih.map (h.fits hfits)) fun _ _ _ _ => .pure _

end NodesKeep

/-- The readers of nodes keep to it, with any fuel. -/
theorem nodesKeep (room fuel : Nat) : NodesKeep room fuel := by
  induction fuel with
  | zero =>
      exact ⟨fun _ => .throw .grammar, fun _ => .throw .grammar,
        fun _ => .throw .grammar, fun _ => .throw .grammar,
        fun _ => .throw .grammar, fun _ => .throw .grammar,
        fun _ => .throw .grammar⟩
  | succ fuel ih =>
      exact ⟨ih.node_succ, ih.optional_succ, ih.items_succ, ih.dashes_succ,
        ih.entries_succ, ih.list_succ, ih.map_succ⟩

theorem keeps_node (fuel : Nat) (inBlock dashes : Bool) (h : r.Fits room) :
    Keeps room (node fuel inBlock dashes) r :=
  (nodesKeep room fuel).node h

-- =========================================================== documents

theorem keeps_directives (fuel : Nat) (versioned : Bool)
    (handles : List (List Char × List Char)) :
    Keeps room (directives fuel versioned handles) r := by
  induction fuel generalizing versioned handles r with
  | zero => exact .throw .grammar
  | succ fuel ih =>
      unfold directives
      refine .bind keeps_peek fun t _ _ _ => ?_
      split
      · refine .bind keeps_skip fun _ _ _ _ => ?_
        split
        · exact .ite (.bind (.throw .grammar) fun _ _ h => (by cases h))
            (ih _ _)
        · exact .ite (.bind (.throw .grammar) fun _ _ h => (by cases h))
            (ih _ _)
        · exact ih _ _
      · exact .modify ⟨List.suffix_refl _, rfl, rfl⟩

theorem keeps_skipEnds (fuel : Nat) : Keeps room (skipEnds fuel) r := by
  induction fuel generalizing r with
  | zero => exact .pure _
  | succ fuel ih =>
      exact .bind (keeps_accept _) fun _ _ _ _ => .ite ih (.pure _)

theorem keeps_atBoundary : Keeps room atBoundary r := by
  refine .bind keeps_peek fun t _ _ _ => ?_
  split <;> exact .pure _

theorem keeps_documentHead (fuel : Nat) :
    Keeps room (documentHead fuel) r :=
  .bind (keeps_skipEnds fuel) fun _ _ _ _ =>
    .bind keeps_peek fun _ _ _ _ => .ite (.pure _)
      (.bind (keeps_directives _ _ _) fun _ _ _ _ =>
        .bind (keeps_accept _) fun _ _ _ _ => .ite (.pure _) (.throw .grammar))

theorem keeps_bareDocument (fuel : Nat) (h : r.Fits room) :
    Keeps room (bareDocument fuel) r :=
  .bind (keeps_directives _ _ _) fun _ _ _ hfollows =>
    .bind (keeps_node _ _ _ (hfollows.fits h)) fun _ _ _ _ => .pure _

theorem keeps_markedDocument (fuel : Nat) (h : r.Fits room) :
    Keeps room (markedDocument fuel) r :=
  .bind (keeps_documentHead _) fun _ _ _ hhead => .ite
    (.bind keeps_atBoundary fun _ _ _ hat => .ite (.pure _)
      (.bind (keeps_node _ _ _ (hat.fits (hhead.fits h)))
        fun _ _ _ _ => .pure _))
    (.pure _)

theorem keeps_document (fuel : Nat) (h : r.Fits room) :
    Keeps room (document fuel) r := by
  have hend : ∀ (content : Option Node) r, Keeps room (do
      if content.isSome then
        let _ ← accept .documentEnd
        if ← documentHead fuel then throw .reference
      return content) r :=
    fun content r => .ite
      (.bind (keeps_accept _) fun _ _ _ _ =>
        .bind (keeps_documentHead _) fun _ _ _ _ =>
          .ite (.bind (.throw .reference) fun _ _ h => (by cases h)) (.pure _))
      (.pure _)
  refine .bind keeps_atBoundary fun _ _ _ hat =>
    .bind keeps_peek fun _ _ _ hpeek => ?_
  have hfits := hpeek.fits (hat.fits h)
  exact .ite
    (.bind (keeps_bareDocument _ hfits) fun content r _ _ => hend content r)
    (.bind (keeps_markedDocument _ hfits) fun content r _ _ => hend content r)

end Reading

/-- What the reader of nodes complains about: it goes too deep only if the
tokens hold as many openings as collections may stand in one another. -/
theorem Node.complaint_of_ofTokens {tokens : List Token}
    {behind : Option Fault} {fault : Fault}
    (h : Node.ofTokens tokens behind = .error fault) :
    Complaint (tokens.countP Token.opens) (behind.getD .grammar) fault := by
  rcases Steps.bind_eq_error.mp h with h | ⟨_, _, h⟩
  · exact (Reading.keeps_document _ (Nat.zero_add _).le).error h
  · cases h

end Toolsmith.Yaml
