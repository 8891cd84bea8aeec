/-
Values read back. A value made of texts, lists and mappings is read as it was
written, whatever the layout, as deep as the reader goes; one that goes deeper
is refused for its depth and for nothing else. A text comes back with the
halves of its pairs joined, and of the entries under one key the last one
comes back, in the first place.
-/
import Toolsmith.Proofs.Generate.Outline.Literals
import Toolsmith.Proofs.Json.Members

namespace Toolsmith.Json

open Text Generate.Outline

-- ============================================================== depths

mutual

/-- How deep lists and mappings stand in one another. -/
def nesting : Value → Nat
  | .list items => deepest items + 1
  | .map entries => deepestEntry entries + 1
  | _ => 0

/-- The depth of the deepest one of some values. -/
def deepest : List Value → Nat
  | [] => 0
  | v :: rest => max (nesting v) (deepest rest)

/-- The depth of the deepest value of some entries. -/
def deepestEntry : List (Value × Value) → Nat
  | [] => 0
  | (_, v) :: rest => max (nesting v) (deepestEntry rest)

end

theorem deepest_le_iff {items : List Value} {n : Nat} :
    deepest items ≤ n ↔ ∀ v ∈ items, nesting v ≤ n := by
  induction items with
  | nil => simp [deepest]
  | cons v rest ih => rw [deepest, Nat.max_le, ih, List.forall_mem_cons]

theorem deepestEntry_le_iff {entries : List (Value × Value)} {n : Nat} :
    deepestEntry entries ≤ n ↔ ∀ e ∈ entries, nesting e.2 ≤ n := by
  induction entries with
  | nil => simp [deepestEntry]
  | cons e rest ih =>
      rw [deepestEntry, Nat.max_le, ih, List.forall_mem_cons]

-- =========================================================== read back

/-- A text with its pairs joined. -/
def rejoinedText (s : String) : String := String.ofList (joinPairs s.toList)

mutual

/-- What a value comes back as: the halves of a pair as one character, and of
the entries under one key the last value in the first place. -/
def rejoined : Value → Value
  | .text s => .text (rejoinedText s)
  | .list items => .list (rejoinedItems items)
  | .map entries => .ofEntries (rejoinedEntries entries)
  | v => v

/-- What the values of a list come back as. -/
def rejoinedItems : List Value → List Value
  | [] => []
  | v :: rest => rejoined v :: rejoinedItems rest

/-- What entries come back as, before they are put together. -/
def rejoinedEntries : List (Value × Value) → List (Value × Value)
  | [] => []
  | (k, v) :: rest => (rejoined k, rejoined v) :: rejoinedEntries rest

end

theorem rejoinedItems_eq_map (items : List Value) :
    rejoinedItems items = items.map rejoined := by
  induction items with
  | nil => rfl
  | cons v rest ih => rw [rejoinedItems, ih, List.map_cons]

theorem rejoinedEntries_fields (fields : List (String × Value)) :
    rejoinedEntries (fields.map fun (name, v) => (.text name, v))
      = fields.map fun e => (.text (rejoinedText e.1), rejoined e.2) := by
  induction fields with
  | nil => rfl
  | cons e rest ih => rw [List.map_cons, rejoinedEntries, ih]; rfl

variable {α : Type} {style : Style} {c : Cursor} {rest : List Char}

-- ============================================================== values

/-- The value is written in the layout, and wherever its text stands, it is
read as what the value comes back as. -/
def ReadsBack (style : Style) (v : Value) : Prop :=
  ∀ depth, ∃ text, writeAt style depth v = .ok text ∧ Begins text
    ∧ ∀ room, (Member.mk text (rejoined v) (nesting v)).IsReadBy room
        fun fuel => readValue fuel room

theorem Style.IsReadBack.isTooDeep (h : style.IsReadBack) (depth : Nat) :
    isTooDeep style depth = false := by
  unfold Json.isTooDeep
  rw [h.octets]
  rfl

theorem Style.IsReadBack.styledText (h : style.IsReadBack) (s : List Char) :
    styledText style s = .ok (stringText true s) := by
  unfold Json.styledText
  rw [h.octets, h.ascii]
  split <;> rfl

/-- Texts are read back, at any depth. -/
theorem readsBack_text (h : style.IsReadBack) (s : String) :
    ReadsBack style (.text s) := by
  intro depth
  refine ⟨stringText true s.toList, ?_, ⟨'"', _, rfl, by simp⟩, ?_⟩
  · rw [writeAt, if_neg (by simp [h.isTooDeep])]
    exact h.styledText s.toList
  · intro room fuel c rest hrest hfuel hlimit
    have hpos : 0 < fuel := by
      simp only [stringText, List.length_append, List.length_cons] at hfuel
      omega
    obtain ⟨fuel, rfl⟩ := Nat.exists_eq_succ_of_ne_zero (Nat.ne_of_gt hpos)
    have hread := readString_stringText c.offset hrest
      (Nat.lt_of_lt_of_le hlimit (Nat.le_add_right _ 2))
    have heq : readValue (fuel + 1) room c = .ok (rejoined (.text s),
        c.forward (stringText true s.toList).length) := by
      rw [readValue_text hrest, hread]
      rfl
    show Settles (0 ≤ room) (readValue (fuel + 1) room c) _
    rw [heq]
    exact (settles_ok _).congr (by simp)

/-- The members of a list, as they are written and read. -/
theorem exists_members_items (depth : Nat)
    {items : List Value} (hitems : ∀ v ∈ items, ReadsBack style v) :
    ∃ members : List (Member Value),
      writeItems style depth items = .ok (members.map Member.text)
        ∧ members.map Member.made = items.map rejoined
        ∧ members.map Member.depth = items.map nesting
        ∧ ∀ room, ∀ m ∈ members, Begins m.text
            ∧ m.IsReadBy room fun fuel => readValue fuel room := by
  induction items with
  | nil => exact ⟨[], rfl, rfl, rfl, fun _ _ hm => by cases hm⟩
  | cons v items ih =>
      obtain ⟨hv, hitems⟩ := List.forall_mem_cons.mp hitems
      obtain ⟨text, hwrite, hbegins, hread⟩ := hv depth
      obtain ⟨members, hmany, hmade, hdepth, hall⟩ := ih hitems
      refine ⟨⟨text, rejoined v, nesting v⟩ :: members, ?_, ?_, ?_, ?_⟩
      · rw [writeItems, hwrite, hmany]
        rfl
      · rw [List.map_cons, List.map_cons, hmade]
      · rw [List.map_cons, List.map_cons, hdepth]
      · exact fun room => List.forall_mem_cons.mpr
          ⟨⟨hbegins, hread room⟩, hall room⟩

/-- One entry: a string, a colon and a value. -/
def readEntry (room fuel : Nat) (c : Cursor) :
    Except Fault ((Value × Value) × Cursor) :=
  readString c.offset c.limit (c.forward 1) >>= fun made =>
    if made.2.skipSpace.rest.head? == some ':' then
      readValue fuel room (made.2.skipSpace.forward 1).skipSpace
        >>= fun value =>
          .ok ((.text (String.ofList made.1), value.1), value.2)
    else made.2.skipSpace.refuse .colon

/-- The entries of a mapping are one entry and what follows it. -/
theorem readEntries_eq_readEntry {fuel room : Nat}
    (h : c.rest = '"' :: rest) :
    readEntries (fuel + 1) room c = readEntry room fuel c >>= fun made =>
      moreItems '\x7d' made.1 (fun f => readEntries f room) fuel
        made.2.skipSpace := by
  rw [readEntries_eq h]
  unfold readEntry entryBehind
  cases readString c.offset c.limit (c.forward 1) with
  | error fault => rfl
  | ok made =>
      show (if _ then _ else _) = (if _ then _ else _) >>= _
      split
      · cases readValue fuel room (made.2.skipSpace.forward 1).skipSpace with
        | error fault => rfl
        | ok value => rfl
      · rfl

/-- The text of an entry. -/
def entryText (name : String) (value : List Char) : List Char :=
  stringText true name.toList ++ ": ".toList ++ value

/-- An entry is read back if its value is. -/
theorem isReadBy_entry {name : String} {text : List Char} {v : Value}
    {depth room : Nat} (hbegins : Begins text)
    (hread : (Member.mk text v depth).IsReadBy room
      fun fuel => readValue fuel room) :
    (Member.mk (entryText name text)
      (Value.text (rejoinedText name), v) depth).IsReadBy room
        (readEntry room) := by
  intro fuel c rest h hfuel hlimit
  obtain ⟨x, more, hx, hspace, -⟩ := hbegins.exists_cons
  have hparts : c.rest = stringText true name.toList
      ++ (':' :: ' ' :: (text ++ rest)) := by
    rw [h]
    simp [entryText]
  have hlength : (entryText name text).length
      = (stringText true name.toList).length + 2 + text.length := by
    simp [entryText]
    omega
  have hstring := readString_stringText c.offset hparts
    (Nat.lt_of_lt_of_le hlimit (Nat.le_add_right _ 2))
  have hcolon := Cursor.rest_forward hparts
  generalize (stringText true name.toList).length = size
    at hstring hcolon hlength
  have hhere : (c.forward size).skipSpace = c.forward size :=
    Cursor.skipSpace_self hcolon rfl
  have hblank : ((c.forward size).forward 1).rest
      = [' '] ++ (text ++ rest) :=
    Cursor.rest_forward (t := [':']) hcolon
  have hvalue := Cursor.rest_forward hblank
  have hblank' : ((c.forward size).forward 1).rest
      = [' '] ++ x :: (more ++ rest) := by
    rw [hblank, hx]
    rfl
  have hskip := Cursor.skipSpace_gap hblank' (by simp [IsGap, isSpace]) hspace
  have hsettles := hread fuel _ rest hvalue (by dsimp only at hfuel ⊢; omega)
    (by
      rw [Cursor.forward_forward, Cursor.forward_forward,
        Cursor.length_forward]
      exact Nat.lt_of_le_of_lt (Nat.sub_le _ _) hlimit)
  unfold readEntry
  rw [hstring]
  show Settles (depth ≤ room) (if _ then _ else _) _
  dsimp only
  rw [hhere, hcolon, List.head?_cons, if_pos (beq_self_eq_true _), hskip]
  have hend : ((((c.forward size).forward 1).forward [' '].length).forward
      text.length) = c.forward (entryText name text).length := by
    have hsum : size + (1 + ([' '].length + text.length))
        = (entryText name text).length := by
      simp only [hlength, List.length_cons, List.length_nil]
      omega
    rw [Cursor.forward_forward, Cursor.forward_forward,
      Cursor.forward_forward, hsum]
  rw [← hend]
  exact hsettles.map fun value =>
    ((Value.text (rejoinedText name), value.1), value.2)

/-- The members of a mapping, as they are written and read. -/
theorem exists_members_entries (h : style.IsReadBack) (depth : Nat)
    {fields : List (String × Value)}
    (hfields : ∀ e ∈ fields, ReadsBack style e.2) :
    ∃ members : List (Member (Value × Value)),
      writeEntries style depth
          (fields.map fun (name, v) => (.text name, v))
        = .ok (members.map Member.text)
        ∧ members.map Member.made
          = (fields.map fun e => (.text (rejoinedText e.1), rejoined e.2))
        ∧ members.map Member.depth = (fields.map fun e => nesting e.2)
        ∧ (∀ m ∈ members, ∃ more, m.text = '"' :: more)
        ∧ ∀ room, ∀ m ∈ members, m.IsReadBy room (readEntry room) := by
  induction fields with
  | nil =>
      exact ⟨[], rfl, rfl, rfl, fun _ hm => (by cases hm),
        fun _ _ hm => (by cases hm)⟩
  | cons e fields ih =>
      obtain ⟨he, hfields⟩ := List.forall_mem_cons.mp hfields
      obtain ⟨text, hwrite, hbegins, hread⟩ := he depth
      obtain ⟨members, hmany, hmade, hdepth, hquote, hall⟩ := ih hfields
      refine ⟨⟨entryText e.1 text, (.text (rejoinedText e.1), rejoined e.2),
        nesting e.2⟩ :: members, ?_, ?_, ?_, ?_, ?_⟩
      · refine Steps.bind_eq_ok.mpr ⟨e.1.toList, rfl, ?_⟩
        rw [h.styledText, hwrite, hmany]
        rfl
      · rw [List.map_cons, List.map_cons, hmade]
      · rw [List.map_cons, List.map_cons, hdepth]
      · exact List.forall_mem_cons.mpr ⟨⟨_, rfl⟩, hquote⟩
      · exact fun room => List.forall_mem_cons.mpr
          ⟨isReadBy_entry hbegins (hread room), hall room⟩

/-- An opening bracket, a list's or a mapping's. -/
theorem begins_bracketed {opening close : Char} (hopening : isOpening opening)
    (depth : Nat) (parts : List (List Char)) :
    Begins (bracketed style depth opening close parts) := by
  have hmem : opening ∈ ['"', '[', '\x7b'] := by
    simp only [isOpening, Bool.or_eq_true, beq_iff_eq] at hopening
    simp [hopening]
  unfold bracketed
  split
  · exact ⟨opening, _, rfl, hmem⟩
  · exact ⟨opening, _, rfl, hmem⟩

/-- Without room an opening bracket is refused. -/
theorem exists_tooDeep {x : Char} (hx : isOpening x) (fuel : Nat)
    (h : c.rest = x :: rest) :
    ∃ isMapping, readValue (fuel + 1) 0 c = .error (.tooDeep isMapping) := by
  simp only [isOpening, Bool.or_eq_true, beq_iff_eq] at hx
  rcases hx with rfl | rfl
  · exact ⟨false, by rw [readValue, h]; rfl⟩
  · exact ⟨true, by rw [readValue, h]; rfl⟩

/-- Members in brackets are read back, with room for one level more than they
need themselves. -/
theorem isReadBy_bracketed (hstyle : style.IsReadBack)
    {opening close : Char} (hopening : isOpening opening)
    (hclose : IsClosing close)
    (f : List α → Value)
    (one : Nat → Nat → Cursor → Except Fault (α × Cursor))
    (many : Nat → Nat → Cursor → Except Fault (List α × Cursor))
    {members : List (Member α)}
    (hread : ∀ fuel room (c : Cursor) rest, c.rest = opening :: rest →
      readValue (fuel + 1) (room + 1) c =
        inBrackets close (f []) (fun fuel c' => many room fuel c'
          >>= fun made => .ok (f made.1, made.2)) fuel
          (c.forward 1).skipSpace)
    (hmany : ∀ room, Repeats close (one room) (many room) members)
    (hmembers : ∀ room, ∀ k ∈ members,
      Begins k.text ∧ k.IsReadBy room (one room))
    {deep : Nat} (hdeep : ∀ n, deep ≤ n ↔ ∀ k ∈ members, k.depth ≤ n)
    (depth room : Nat) :
    (Member.mk (bracketed style depth opening close (members.map Member.text))
      (f (members.map Member.made)) (deep + 1)).IsReadBy room
        fun fuel => readValue fuel room := by
  intro fuel c rest h hfuel hlimit
  obtain ⟨inner, hinner⟩ : ∃ inner, bracketed style depth opening close
      (members.map Member.text) = opening :: inner := by
    unfold bracketed
    split
    · exact ⟨_, rfl⟩
    · exact ⟨_, rfl⟩
  have hcons : c.rest = opening :: (inner ++ rest) := by
    rw [h, hinner, List.cons_append]
  obtain ⟨fuel, rfl⟩ : ∃ n, fuel = n + 1 := by
    rw [hinner, List.length_cons] at hfuel
    exact ⟨fuel - 1, by omega⟩
  cases room with
  | zero =>
      exact ⟨fun hfits => absurd hfits (Nat.not_succ_le_zero deep),
        fun _ => exists_tooDeep hopening fuel hcons⟩
  | succ room =>
      show Settles (deep + 1 ≤ room + 1) (readValue (fuel + 1) (room + 1) c) _
      rw [hread fuel room c _ hcons]
      refine (settles_inBrackets hstyle hclose (hmany room) (hmembers room)
        rfl f h hfuel hlimit).congr ?_
      rw [Nat.add_le_add_iff_right]
      exact (hdeep room).symm

/-- A value is read back if it is made of texts, lists and mappings. -/
theorem readsBack_of_textual (h : style.IsReadBack) {v : Value}
    (hv : Textual v) : ReadsBack style v := by
  induction hv with
  | text s => exact readsBack_text h s
  | @list items _ ih =>
      intro depth
      obtain ⟨members, hwrite, hmade, hdepth, hall⟩ :=
        exists_members_items (depth + 1) ih
      refine ⟨bracketed style depth '[' ']' (members.map Member.text),
        ?_, begins_bracketed rfl depth _, fun room => ?_⟩
      · rw [writeAt, if_neg (by simp [h.isTooDeep]), hwrite]
        rfl
      have hdeep : ∀ n, deepest items ≤ n ↔ ∀ k ∈ members, k.depth ≤ n := by
        intro n
        rw [deepest_le_iff, ← List.forall_mem_map (P := (· ≤ n)), ← hdepth,
          List.forall_mem_map]
      have hopening : isOpening '[' = true := rfl
      have hread := isReadBy_bracketed h hopening (Or.inl rfl) Value.list
        (fun room fuel => readValue fuel room)
        (fun room fuel => readItems fuel room)
        (fun fuel room c rest hrest => readValue_list hrest (by simp))
        (fun room m _ fuel c rest _ => readItems_eq fuel room c) hall hdeep
        depth room
      rw [hmade] at hread
      rw [rejoined, rejoinedItems_eq_map, nesting]
      exact hread
  | @fields fields _ ih =>
      intro depth
      obtain ⟨members, hwrite, hmade, hdepth, hquote, hall⟩ :=
        exists_members_entries h (depth + 1) ih
      refine ⟨bracketed style depth '\x7b' '\x7d' (members.map Member.text),
        ?_, begins_bracketed rfl depth _, fun room => ?_⟩
      · unfold Value.ofFields
        rw [writeAt, if_neg (by simp [h.isTooDeep]), hwrite]
        rfl
      have hdeep : ∀ n, deepestEntry
          (fields.map fun (name, v) => (.text name, v)) ≤ n
            ↔ ∀ k ∈ members, k.depth ≤ n := by
        intro n
        rw [deepestEntry_le_iff, List.forall_mem_map,
          ← List.forall_mem_map (P := (· ≤ n)) (f := Member.depth), hdepth,
          List.forall_mem_map]
      have hopening : isOpening '\x7b' = true := rfl
      have hread := isReadBy_bracketed h hopening (Or.inr rfl)
        Value.ofEntries readEntry (fun room fuel => readEntries fuel room)
        (fun fuel room c rest hrest => readValue_map hrest (by simp))
        (fun room m hm fuel c rest hrest => by
          obtain ⟨more, hmore⟩ := hquote m hm
          rw [hmore] at hrest
          exact readEntries_eq_readEntry hrest)
        (fun room m hm => ⟨by
          obtain ⟨more, hmore⟩ := hquote m hm
          exact ⟨'"', more, hmore, by simp⟩, hall room m hm⟩) hdeep
        depth room
      rw [hmade, ← rejoinedEntries_fields] at hread
      exact hread

-- =============================================================== texts

/-- A value made of texts, lists and mappings is written, and its text is read
as what it comes back as if it goes no deeper than the reader does. -/
theorem exists_write_settles (h : style.IsReadBack) {v : Value}
    (hv : Textual v) :
    ∃ text, write style v = .ok text
      ∧ Settles (nesting v ≤ depthLimit) (read text) (rejoined v) := by
  obtain ⟨text, hwrite, hbegins, hread⟩ := readsBack_of_textual h hv 0
  refine ⟨text, hwrite, ?_⟩
  obtain ⟨x, more, htext, hspace, -⟩ := hbegins.exists_cons
  have hmark : ¬ (text.head? == some '\ufeff') = true := by
    obtain ⟨y, _, rfl, hy⟩ := hbegins
    have hall : ∀ y ∈ ['"', '[', '\x7b'], y ≠ '\ufeff' := by simp
    simpa using hall y hy
  have hskip : (Cursor.start text).skipSpace = Cursor.start text :=
    Cursor.skipSpace_self htext hspace
  have hvalue := hread depthLimit (2 * text.length + 2) (Cursor.start text) []
    (List.append_nil text).symm (Nat.le_add_right _ 2) (Nat.lt_succ_self _)
  unfold read
  rw [if_neg hmark, hskip]
  refine (hvalue.bind (q := True) (b := rejoined v) ?_).congr
    (and_iff_left trivial)
  dsimp only
  rw [Cursor.rest_behind]
  exact settles_ok _

-- ============================================================ faithful

/-- Nothing of the value is lost when it is read back: it is made of texts,
lists and mappings, every key stands once in its mapping, and nowhere in a text
do the halves of a pair stand side by side. -/
inductive Faithful : Value → Prop where
  | text {s : String} (h : Unpaired s.toList) : Faithful (.text s)
  | list {items : List Value} (h : ∀ v ∈ items, Faithful v) :
      Faithful (.list items)
  | fields {entries : List (String × Value)}
      (hkeys : (entries.map Prod.fst).Nodup)
      (htexts : ∀ e ∈ entries, Unpaired e.1.toList)
      (h : ∀ e ∈ entries, Faithful e.2) : Faithful (.ofFields entries)

theorem Faithful.textual {v : Value} (h : Faithful v) : Textual v := by
  induction h with
  | text _ => exact .text _
  | list _ ih => exact .list ih
  | fields _ _ _ ih => exact .fields ih

theorem rejoinedText_of_unpaired {s : String} (h : Unpaired s.toList) :
    rejoinedText s = s := by
  rw [rejoinedText, joinPairs_of_unpaired h, String.ofList_toList]

/-- A new key goes to the end. -/
theorem insertEntry_of_new {key : String} {v : Value}
    {fields : List (String × Value)} (h : key ∉ fields.map Prod.fst) :
    Value.insertEntry (.text key) v
        (fields.map fun e => (.text e.1, e.2))
      = (fields ++ [(key, v)]).map fun e => (.text e.1, e.2) := by
  induction fields with
  | nil => rfl
  | cons e rest ih =>
      rw [List.map_cons, List.mem_cons, not_or] at h
      have hother : (Value.text e.1).sameKey (.text key) = false :=
        beq_eq_false_iff_ne.mpr (Ne.symm h.1)
      rw [List.map_cons, Value.insertEntry, if_neg (by simp [hother]),
        ih h.2]
      rfl

/-- Entries under keys of their own are the fields of their mapping. -/
theorem ofEntries_of_nodup {fields : List (String × Value)}
    (h : (fields.map Prod.fst).Nodup) :
    Value.ofEntries (fields.map fun e => (.text e.1, e.2))
      = .ofFields fields := by
  -- along the fold, what is in the mapping so far are the entries in front
  have hfold : ∀ todo done : List (String × Value),
      ((done ++ todo).map Prod.fst).Nodup →
      (todo.map fun e => (Value.text e.1, e.2)).foldl
          (fun es e => Value.insertEntry e.1 e.2 es)
          (done.map fun e => (Value.text e.1, e.2))
        = (done ++ todo).map fun e => (Value.text e.1, e.2) := by
    intro todo
    induction todo with
    | nil =>
        intro done _
        rw [List.append_nil]
        rfl
    | cons e todo ih =>
        intro done hkeys
        obtain ⟨name, v⟩ := e
        have hnew : name ∉ done.map Prod.fst := by
          rw [List.map_append, List.nodup_append] at hkeys
          intro hin
          exact hkeys.2.2 name hin name (by simp) rfl
        have happend : done ++ (name, v) :: todo
            = (done ++ [(name, v)]) ++ todo := by simp
        rw [happend] at hkeys ⊢
        rw [List.map_cons, List.foldl_cons, ← ih _ hkeys,
          ← insertEntry_of_new hnew]
  exact congrArg Value.map (hfold fields [] h)

/-- A faithful value comes back as it is. -/
theorem Faithful.rejoined_eq {v : Value} (h : Faithful v) :
    rejoined v = v := by
  induction h with
  | text h => rw [rejoined, rejoinedText_of_unpaired h]
  | list _ ih =>
      rw [rejoined, rejoinedItems_eq_map, List.map_congr_left ih, List.map_id']
  | @fields fields hkeys htexts _ ih =>
      have hentries : (fields.map fun e =>
            (Value.text (rejoinedText e.1), rejoined e.2))
          = fields.map fun e => (.text e.1, e.2) :=
        List.map_congr_left fun e he => by
          rw [rejoinedText_of_unpaired (htexts e he), ih e he]
      rw [Value.ofFields, rejoined, rejoinedEntries_fields, hentries]
      exact ofEntries_of_nodup hkeys

end Toolsmith.Json
