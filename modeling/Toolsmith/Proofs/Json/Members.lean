/-
The members between two brackets, read back. What a member is read as and how
deep it goes is all that the members behind it need to know, so the walk is the
same for the values of a list and the entries of a mapping, and for one line
and many: the space between members is skipped. What goes too deep is refused
for that, at the first member that does.
-/
import Toolsmith.Proofs.Json.Unescaped

namespace Toolsmith.Json

open Text

-- ============================================================= outcomes

variable {α β : Type} {p q : Prop}

/-- What fits is given back, and what does not is refused for its depth. -/
def Settles (fits : Prop) (x : Except Fault α) (a : α) : Prop :=
  (fits → x = .ok a)
    ∧ (¬ fits → ∃ isMapping, x = .error (.tooDeep isMapping))

theorem settles_ok (a : α) : Settles True (.ok a) a :=
  ⟨fun _ => rfl, fun h => absurd trivial h⟩

theorem Settles.congr {x : Except Fault α} {a : α} (h : Settles p x a)
    (heq : p ↔ q) : Settles q x a :=
  ⟨fun hq => h.1 (heq.mpr hq), fun hq => h.2 fun hp => hq (heq.mp hp)⟩

/-- Of two readers one after the other, the first that does not fit decides. -/
theorem Settles.bind {x : Except Fault α} {f : α → Except Fault β} {a : α}
    {b : β} (hx : Settles p x a) (hf : Settles q (f a) b) :
    Settles (p ∧ q) (x >>= f) b := by
  by_cases hp : p
  · rw [hx.1 hp]
    exact ⟨fun h => hf.1 h.2, fun h => hf.2 fun hq => h ⟨hp, hq⟩⟩
  · obtain ⟨isMapping, herror⟩ := hx.2 hp
    rw [herror]
    exact ⟨fun h => absurd h.1 hp, fun _ => ⟨isMapping, rfl⟩⟩

/-- A reader whose answer is changed. -/
theorem Settles.map {x : Except Fault α} {a : α} (hx : Settles p x a)
    (f : α → β) : Settles p (x >>= fun made => .ok (f made)) (f a) :=
  (hx.bind (settles_ok (f a))).congr (and_iff_left trivial)

-- ================================================================ space

variable {c : Cursor} {rest gap : List Char}

/-- The text consists of characters that may stand between parts. -/
def IsGap (gap : List Char) : Prop := ∀ x ∈ gap, isSpace x = true

/-- Space is skipped up to what is none. -/
theorem Cursor.skipSpace_gap {x : Char} (h : c.rest = gap ++ x :: rest)
    (hgap : IsGap gap) (hx : isSpace x = false) :
    c.skipSpace = c.forward gap.length := by
  show c.forward (c.rest.takeWhile isSpace).length = _
  rw [h, List.takeWhile_append_of_pos hgap,
    List.takeWhile_cons_of_neg (by simp [hx]), List.append_nil]

/-- What is no space is not skipped. -/
theorem Cursor.skipSpace_self {x : Char} (h : c.rest = x :: rest)
    (hx : isSpace x = false) : c.skipSpace = c := by
  show c.forward (c.rest.takeWhile isSpace).length = c
  rw [h, List.takeWhile_cons_of_neg (by simp [hx])]
  rfl

/-- In a layout that is read back, levels are indented by space. Characters
beyond ASCII are escaped, and nothing is refused. -/
structure Style.IsReadBack (style : Style) : Prop where
  ascii : style.ascii = true
  octets : style.octets = false
  margin : ∀ margin, style.indent = some margin → IsGap margin

theorem isReadBack_line : Style.line.IsReadBack :=
  ⟨rfl, rfl, fun _ h => by cases h⟩

theorem isReadBack_manifest : Style.manifest.IsReadBack :=
  ⟨rfl, rfl, fun _ h => by cases h; simp [IsGap, isSpace]⟩

variable {style : Style}

/-- A line starts with space. -/
theorem Style.IsReadBack.isGap_lineStart (h : style.IsReadBack) (depth : Nat) :
    IsGap (lineStart style depth) := by
  unfold lineStart
  split
  · exact fun _ hx => by cases hx
  next margin hmargin =>
    intro x hx
    rcases List.mem_cons.mp hx with rfl | hx
    · rfl
    · obtain ⟨part, hpart, hx⟩ := List.mem_flatten.mp hx
      rw [List.eq_of_mem_replicate hpart] at hx
      exact h.margin margin hmargin x hx

/-- Members stand apart by a comma and space. -/
theorem Style.IsReadBack.exists_separator (h : style.IsReadBack)
    (depth : Nat) :
    ∃ gap, separator style depth = ',' :: gap ∧ IsGap gap := by
  unfold separator
  split
  · exact ⟨[' '], rfl, by simp [IsGap, isSpace]⟩
  · exact ⟨_, rfl, h.isGap_lineStart depth⟩

-- ============================================================= members

/-- A member of a list or a mapping: how it is written, what it is read as,
and how deep it goes. -/
structure Member (α : Type) where
  text : List Char
  made : α
  depth : Nat

/-- What a member begins with: a quote or an opening bracket. -/
def Begins (text : List Char) : Prop :=
  ∃ x more, text = x :: more ∧ x ∈ ['"', '[', '\x7b']

/-- The reader `one` reads the member wherever it stands, if it goes no deeper
than there is room. -/
def Member.IsReadBy (m : Member α) (room : Nat)
    (one : Nat → Cursor → Except Fault (α × Cursor)) : Prop :=
  ∀ fuel (c : Cursor) rest, c.rest = m.text ++ rest →
    2 * m.text.length ≤ fuel → c.rest.length < c.limit →
    Settles (m.depth ≤ room) (one fuel c) (m.made, c.forward m.text.length)

/-- The reader `many` is the reader `one` and what `moreItems` reads behind
it, wherever a member stands. -/
def Repeats (close : Char) (one : Nat → Cursor → Except Fault (α × Cursor))
    (many : Nat → Cursor → Except Fault (List α × Cursor))
    (members : List (Member α)) : Prop :=
  ∀ m ∈ members, ∀ fuel (c : Cursor) rest, c.rest = m.text ++ rest →
    many (fuel + 1) c = one fuel c >>= fun made =>
      moreItems close made.1 many fuel made.2.skipSpace

/-- A closing bracket. -/
def IsClosing (close : Char) : Prop := close = ']' ∨ close = '\x7d'

theorem IsClosing.isSpace {close : Char} (h : IsClosing close) :
    isSpace close = false := by
  rcases h with rfl | rfl <;> rfl

theorem Begins.append {text : List Char} (h : Begins text)
    (more : List Char) : Begins (text ++ more) := by
  obtain ⟨x, behind, rfl, hx⟩ := h
  exact ⟨x, behind ++ more, rfl, hx⟩

/-- What a member begins with is neither space nor a closing bracket. -/
theorem Begins.exists_cons {text : List Char} (h : Begins text) :
    ∃ x more, text = x :: more ∧ isSpace x = false
      ∧ ∀ close, IsClosing close → x ≠ close := by
  obtain ⟨x, more, htext, hx⟩ := h
  have hall : ∀ x ∈ ['"', '[', '\x7b'],
      isSpace x = false ∧ x ≠ ']' ∧ x ≠ '\x7d' := by
    simp [isSpace]
  refine ⟨x, more, htext, (hall x hx).1, ?_⟩
  rintro close (rfl | rfl)
  · exact (hall x hx).2.1
  · exact (hall x hx).2.2

/-- The text of members with commas and space between them. -/
def membersText (gap : List Char) (members : List (Member α)) : List Char :=
  join (',' :: gap) (members.map Member.text)

theorem membersText_singleton (gap : List Char) (m : Member α) :
    membersText gap [m] = m.text :=
  rfl

theorem membersText_cons_cons (gap : List Char) (m k : Member α)
    (others : List (Member α)) :
    membersText gap (m :: k :: others)
      = m.text ++ (',' :: gap ++ membersText gap (k :: others)) := by
  show m.text ++ (',' :: gap) ++ _ = _
  rw [List.append_assoc]
  rfl

/-- Members begin as the first one does. -/
theorem begins_membersText (gap : List Char) {m : Member α}
    (others : List (Member α)) (h : Begins m.text) :
    Begins (membersText gap (m :: others)) := by
  cases others with
  | nil => exact h
  | cons k others =>
      rw [membersText_cons_cons]
      exact h.append _

/-- Behind the last member stands the closing bracket. -/
theorem moreItems_close {close : Char} (hclose : IsClosing close)
    {tail : List Char} (htail : IsGap tail) (item : α)
    (many : Nat → Cursor → Except Fault (List α × Cursor)) (fuel : Nat)
    (h : c.rest = tail ++ close :: rest) :
    moreItems close item many fuel c.skipSpace
      = .ok ([item], c.forward (tail.length + 1)) := by
  have hafter := Cursor.rest_forward h
  rw [Cursor.skipSpace_gap h htail hclose.isSpace]
  unfold moreItems
  rw [hafter, List.head?_cons, if_pos (beq_self_eq_true _),
    Cursor.forward_forward]

/-- Behind every other member stands a comma. -/
theorem moreItems_comma {close : Char} (hclose : IsClosing close)
    (hgap : IsGap gap) {x : Char} (hx : isSpace x = false) (item : α)
    (many : Nat → Cursor → Except Fault (List α × Cursor)) (fuel : Nat)
    (h : c.rest = ',' :: gap ++ x :: rest) :
    moreItems close item many fuel c.skipSpace
      = many fuel (c.forward (gap.length + 1)) >>= fun made =>
        .ok (item :: made.1, made.2) := by
  have hcomma : ¬ (some ',' == some close) = true := by
    rcases hclose with rfl | rfl <;> decide
  have hhere : c.skipSpace = c := Cursor.skipSpace_self h rfl
  have hbehind : (c.forward 1).rest = gap ++ x :: rest :=
    Cursor.rest_forward (t := [',']) h
  unfold moreItems
  rw [hhere, h, List.cons_append, List.head?_cons, if_neg hcomma,
    if_pos (beq_self_eq_true _), Cursor.skipSpace_gap hbehind hgap hx,
    Cursor.forward_forward, Nat.add_comm 1]

/-- A member with another one behind it is read, and then the others. -/
theorem settles_comma {close : Char} (hclose : IsClosing close)
    (hgap : IsGap gap) {x : Char} (hx : isSpace x = false)
    {one : Nat → Cursor → Except Fault (α × Cursor)}
    {many : Nat → Cursor → Except Fault (List α × Cursor)} {m : Member α}
    {fuel : Nat} {made : List α} {next : Cursor} {q : Prop}
    (h : c.rest = m.text ++ (',' :: gap ++ x :: rest))
    (hone : Settles p (one fuel c) (m.made, c.forward m.text.length))
    (hmore : Settles q
      (many fuel (c.forward (m.text.length + (gap.length + 1))))
      (made, next)) :
    Settles (p ∧ q)
      (one fuel c >>= fun read =>
        moreItems close read.1 many fuel read.2.skipSpace)
      (m.made :: made, next) := by
  have hcomma := moreItems_comma hclose hgap hx m.made many fuel
    (Cursor.rest_forward h)
  rw [Cursor.forward_forward] at hcomma
  have hothers : Settles q
      (moreItems close m.made many fuel (c.forward m.text.length).skipSpace)
      (m.made :: made, next) := by
    rw [hcomma]
    exact hmore.map fun made => (m.made :: made.1, made.2)
  exact hone.bind hothers

/-- The members up to the closing bracket are read one after the other. -/
theorem settles_members {close : Char} (hclose : IsClosing close)
    {one : Nat → Cursor → Except Fault (α × Cursor)}
    {many : Nat → Cursor → Except Fault (List α × Cursor)} {room : Nat}
    {tail : List Char} (hgap : IsGap gap) (htail : IsGap tail)
    (others : List (Member α)) :
    ∀ (m : Member α) (fuel : Nat) (c : Cursor),
      Repeats close one many (m :: others) →
      (∀ k ∈ m :: others, Begins k.text ∧ k.IsReadBy room one) →
      c.rest = membersText gap (m :: others) ++ (tail ++ close :: rest) →
      2 * (membersText gap (m :: others)).length + 1 ≤ fuel →
      c.rest.length < c.limit →
      Settles (∀ k ∈ m :: others, k.depth ≤ room) (many fuel c)
        ((m :: others).map Member.made, c.forward
          ((membersText gap (m :: others)).length + (tail.length + 1))) := by
  induction others with
  | nil =>
      intro m fuel c hmany hmembers h hfuel hlimit
      obtain ⟨fuel, rfl⟩ := Nat.exists_eq_succ_of_ne_zero
        (Nat.ne_zero_of_lt hfuel)
      rw [membersText_singleton] at h hfuel ⊢
      obtain ⟨-, hone⟩ := hmembers m List.mem_cons_self
      have hread := hone fuel c _ h (Nat.le_of_succ_le_succ hfuel) hlimit
      have hlast := moreItems_close hclose htail m.made many fuel
        (Cursor.rest_forward h)
      rw [Cursor.forward_forward] at hlast
      rw [hmany m List.mem_cons_self fuel c _ h]
      refine (hread.bind (hlast ▸ settles_ok _)).congr ?_
      simp
  | cons k others ih =>
      intro m fuel c hmany hmembers h hfuel hlimit
      obtain ⟨fuel, rfl⟩ := Nat.exists_eq_succ_of_ne_zero
        (Nat.ne_zero_of_lt hfuel)
      obtain ⟨-, hone⟩ := hmembers m List.mem_cons_self
      obtain ⟨x, more, hx, hspace, -⟩ := (begins_membersText gap others
        (hmembers k (List.mem_cons_of_mem m List.mem_cons_self)).1).exists_cons
      rw [membersText_cons_cons, List.append_assoc] at h
      have hread := hone fuel c _ h (by
        rw [membersText_cons_cons, List.length_append] at hfuel
        omega) hlimit
      -- behind the comma and the space stand the other members
      have hafter : (c.forward (m.text.length + (gap.length + 1))).rest
          = membersText gap (k :: others) ++ (tail ++ close :: rest) := by
        rw [← Cursor.forward_forward]
        refine Cursor.rest_forward (t := ',' :: gap) ?_
        rw [Cursor.rest_forward h, List.append_assoc]
      have hmore := ih k fuel _
        (fun l hl => hmany l (List.mem_cons_of_mem m hl))
        (fun l hl => hmembers l (List.mem_cons_of_mem m hl)) hafter
        (by
          simp only [membersText_cons_cons, List.length_append,
            List.length_cons] at hfuel
          omega)
        (by
          rw [Cursor.length_forward]
          exact Nat.lt_of_le_of_lt (Nat.sub_le _ _) hlimit)
      have hlength : (membersText gap (m :: k :: others)).length
            + (tail.length + 1)
          = m.text.length + (gap.length + 1)
            + ((membersText gap (k :: others)).length + (tail.length + 1)) := by
        rw [membersText_cons_cons, List.length_append, List.length_append,
          List.length_cons]
        omega
      rw [Cursor.forward_forward, ← hlength] at hmore
      rw [hmany m List.mem_cons_self fuel c _ h]
      rw [hx, List.append_assoc, List.cons_append] at h
      exact (settles_comma hclose hgap hspace h hread hmore).congr
        (List.forall_mem_cons (p := fun l : Member α => l.depth ≤ room)).symm

/-- Between brackets stand the members with space around them. -/
theorem Style.IsReadBack.exists_bracketed (hstyle : style.IsReadBack)
    (depth : Nat) (opening close : Char) (m : Member α)
    (others : List (Member α)) :
    ∃ start gap tail, IsGap start ∧ IsGap gap ∧ IsGap tail
      ∧ bracketed style depth opening close
          ((m :: others).map Member.text)
        = opening :: (start
          ++ (membersText gap (m :: others) ++ (tail ++ [close]))) := by
  obtain ⟨gap, hseparator, hgap⟩ := hstyle.exists_separator (depth + 1)
  refine ⟨_, gap, _, hstyle.isGap_lineStart (depth + 1), hgap,
    hstyle.isGap_lineStart depth, ?_⟩
  unfold bracketed membersText
  rw [if_neg (by simp), hseparator]
  simp only [List.append_assoc, List.cons_append]

/-- What stands in brackets is read as its members are. -/
theorem settles_inBrackets (hstyle : style.IsReadBack) {opening close : Char}
    (hclose : IsClosing close)
    {one : Nat → Cursor → Except Fault (α × Cursor)}
    {many : Nat → Cursor → Except Fault (List α × Cursor)} {room : Nat}
    {members : List (Member α)} (hmany : Repeats close one many members)
    (hmembers : ∀ k ∈ members, Begins k.text ∧ k.IsReadBy room one)
    {text : List Char} {depth : Nat}
    (htext : text = bracketed style depth opening close
      (members.map Member.text))
    (f : List α → Value) {fuel : Nat} (h : c.rest = text ++ rest)
    (hfuel : 2 * text.length ≤ fuel + 1) (hlimit : c.rest.length < c.limit) :
    Settles (∀ k ∈ members, k.depth ≤ room)
      (inBrackets close (f []) (fun fuel c' =>
        many fuel c' >>= fun made => .ok (f made.1, made.2)) fuel
        (c.forward 1).skipSpace)
      (f (members.map Member.made), c.forward text.length) := by
  cases members with
  | nil =>
      have hpair : text = [opening, close] := htext
      rw [hpair] at h ⊢
      have hinside : (c.forward 1).rest = close :: rest :=
        Cursor.rest_forward (t := [opening]) h
      rw [Cursor.skipSpace_self hinside hclose.isSpace]
      unfold inBrackets
      rw [hinside, List.head?_cons,
        if_pos (beq_self_eq_true _), Cursor.forward_forward]
      exact (settles_ok _).congr (by simp)
  | cons m others =>
      obtain ⟨start, gap, tail, hstart, hgap, hend, hparts⟩ :=
        hstyle.exists_bracketed depth opening close m others
      rw [← htext] at hparts
      obtain ⟨x, more, hx, hspace, hopen⟩ :=
        (begins_membersText gap others
          (hmembers m List.mem_cons_self).1).exists_cons
      have hinside : (c.forward 1).rest = start
          ++ (membersText gap (m :: others) ++ (tail ++ close :: rest)) := by
        refine Cursor.rest_forward (t := [opening]) ?_
        rw [h, hparts]
        simp only [List.append_assoc, List.cons_append, List.nil_append]
      have hafter := Cursor.rest_forward hinside
      have hskip : (c.forward 1).skipSpace
          = (c.forward 1).forward start.length := by
        rw [hx, List.cons_append] at hinside
        exact Cursor.skipSpace_gap hinside hstart hspace
      have hnot : ¬ (((c.forward 1).forward start.length).rest.head?
          == some close) = true := by
        rw [hafter, hx, List.cons_append, List.head?_cons]
        simpa using hopen close hclose
      have hlength : text.length = 1 + start.length
          + ((membersText gap (m :: others)).length + (tail.length + 1)) := by
        simp only [hparts, List.length_append, List.length_cons,
          List.length_nil]
        omega
      have hread := settles_members hclose hgap hend others m fuel _ hmany
        hmembers hafter (by omega) (by
          rw [Cursor.forward_forward, Cursor.length_forward]
          exact Nat.lt_of_le_of_lt (Nat.sub_le _ _) hlimit)
      rw [hskip, hlength]
      unfold inBrackets
      rw [if_neg hnot]
      rw [Cursor.forward_forward, Cursor.forward_forward] at hread
      rw [Cursor.forward_forward]
      exact hread.map fun made => (f made.1, made.2)

end Toolsmith.Json
