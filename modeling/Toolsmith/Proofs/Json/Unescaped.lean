/-
JSON strings read back. A character is written in one of three shapes: after a
backslash as a letter, unit by unit in digits, or as it is. Each shape is read
as the character again. Only the halves of a pair are not kept apart: written
side by side, they are read as the character of the pair.
-/
import Toolsmith.Proofs.Json.Taken
import Toolsmith.Proofs.Json.Written
import Toolsmith.Proofs.Text.Escapes

namespace Toolsmith.Json

open Text

variable {c : Char} {s rest : List Char} {cur : Cursor}

-- ============================================================== shapes

/-- The shapes that a character is written in. -/
inductive WrittenAs (c : Char) : List Char → Prop where
  | short {e : Char} (he : e ≠ 'u') (h : shortEscape? e = some c) :
      WrittenAs c ['\\', e]
  | units : WrittenAs c (codeUnits (codePoint c))
  | plain (hquote : c ≠ '"') (hescape : c ≠ '\\') (h : ¬ c.toNat < 0x20) :
      WrittenAs c [c]

theorem writtenAs_stringChar (ascii : Bool) (c : Char) :
    WrittenAs c (stringChar ascii c) := by
  unfold stringChar
  split
  next h => rw [eq_of_beq h]; exact .short (by decide) rfl
  split
  next h => rw [eq_of_beq h]; exact .short (by decide) rfl
  split
  next h => rw [eq_of_beq h]; exact .short (by decide) rfl
  split
  next h => rw [eq_of_beq h]; exact .short (by decide) rfl
  split
  next h => rw [eq_of_beq h]; exact .short (by decide) rfl
  split
  next h => rw [eq_of_beq h]; exact .short (by decide) rfl
  split
  next h => rw [eq_of_beq h]; exact .short (by decide) rfl
  split
  · exact .units
  next hquote hescape _ _ _ _ _ h =>
    simp only [beq_iff_eq, Bool.or_eq_true, decide_eq_true_eq, not_or]
      at hquote hescape h
    exact .plain hquote hescape h.1

/-- No shape is empty. -/
theorem WrittenAs.length_pos {t : List Char} (h : WrittenAs c t) : 0 < t.length := by
  cases h with
  | short => simp
  | units =>
      unfold codeUnits unitEscape
      split <;> simp
  | plain => simp

-- =============================================================== units

/-- The first unit that a code point is written in. -/
def leadUnit (n : Nat) : Nat :=
  if n < 0x10000 then n else 0xd800 + (n - 0x10000) / 0x400

/-- The escapes of a code point begin with that of its first unit. -/
theorem exists_codeUnits (n : Nat) :
    ∃ more, codeUnits n = unitEscape (leadUnit n) ++ more := by
  unfold codeUnits leadUnit
  split
  · exact ⟨[], (List.append_nil _).symm⟩
  · exact ⟨_, rfl⟩

/-- Only a second half begins with the unit of a second half. -/
theorem isLowSurrogate_leadUnit (c : Char) :
    isLowSurrogate (leadUnit (codePoint c)) = isLowSurrogate (codePoint c) := by
  have hle := codePoint_le c
  unfold leadUnit
  split
  · rfl
  · rw [Bool.eq_iff_iff]
    simp only [isLowSurrogate, Bool.and_eq_true, decide_eq_true_eq]
    omega

theorem leadUnit_lt (c : Char) : leadUnit (codePoint c) < 0x10000 := by
  have hle := codePoint_le c
  unfold leadUnit
  split <;> omega

theorem unitEscape_append (n : Nat) (t : List Char) :
    unitEscape n ++ t = '\\' :: 'u' :: (hexText 4 n ++ t) :=
  rfl

@[simp]
theorem length_unitEscape (n : Nat) : (unitEscape n).length = 6 := by
  simp [unitEscape]

/-- The digits of a unit are read as the unit. -/
theorem unit?_hexText {n : Nat} (h : n < 0x10000) (x : Char) :
    unit? (hexText 4 n ++ x :: rest) = some (n, x :: rest) := by
  have hvalue := fun m : Nat =>
    hexValue?_hexDigit (Nat.mod_lt m (by decide : 0 < 16))
  simp only [hexText, List.nil_append, List.cons_append, unit?]
  simp only [List.mapM_cons, List.mapM_nil, hvalue, Option.pure_def,
    Option.bind_eq_bind, Option.bind_some, Number.ofDigits, List.foldl_cons,
    List.foldl_nil, Option.some.injEq, Prod.mk.injEq, and_true]
  omega

/-- Behind a backslash and a letter, digits and something more are an escape
by digits. -/
theorem digitsBehind?_unitEscape (n : Nat) (x : Char) :
    digitsBehind? (unitEscape n ++ x :: rest)
      = some (hexText 4 n ++ x :: rest) := by
  have hlong : ¬ ((hexText 4 n ++ x :: rest).take 5).length < 5 := by
    simp only [List.length_take, List.length_append, length_hexText,
      List.length_cons]
    omega
  rw [unitEscape_append, digitsBehind?, if_neg hlong]

/-- A first half is read alone unless the escape of a second half follows. -/
theorem pairing_alone {high : Nat} {t : List Char}
    (h : ∀ hex, digitsBehind? t = some hex →
      ∃ low more, unit? hex = some (low, more) ∧ isLowSurrogate low = false) :
    pairing high t = some (high, 6) := by
  unfold pairing
  split
  · split
    · rfl
    next hex hhex =>
      obtain ⟨low, more, hunit, hlow⟩ := h hex hhex
      rw [hunit, Option.map_some, hlow]
      rfl
  · rfl

/-- A first half and the escape of a second one are read as a pair. -/
theorem pairing_pair {high low : Nat} (hhigh : isHighSurrogate high = true)
    (hlow : isLowSurrogate low = true) (x : Char) :
    pairing high (unitEscape low ++ x :: rest)
      = some (pairValue high low, 12) := by
  have hlt : low < 0x10000 := by
    simp only [isLowSurrogate, Bool.and_eq_true, decide_eq_true_eq] at hlow
    omega
  unfold pairing
  rw [if_pos hhigh, digitsBehind?_unitEscape]
  dsimp only
  rw [unit?_hexText hlt, Option.map_some, if_pos hlow]

/-- Halves by halves, a code point beyond the units is the value of its
pair. -/
theorem pairValue_halves {n : Nat} (h : 0x10000 ≤ n) :
    pairValue (0xd800 + (n - 0x10000) / 0x400)
      (0xdc00 + (n - 0x10000) % 0x400) = n := by
  unfold pairValue
  omega

/-- What escapes by digits are read as, if their pairing is known. -/
theorem readString_unitEscape {opening fuel code n size : Nat} {x : Char}
    (h : cur.rest = unitEscape n ++ x :: rest) (hn : n < 0x10000)
    (hpairing : pairing n (x :: rest) = some (code, size)) :
    readString opening (fuel + 1) cur =
      (readString opening fuel (cur.forward size) >>= fun made =>
        .ok (ofCodePoint code :: made.1, made.2)) := by
  rw [unitEscape_append] at h
  rw [readString_unit h, unit?_hexText hn]
  dsimp only
  rw [hpairing]

-- ========================================================== characters

theorem exists_cons_append (t : List Char) (x : Char) (rest : List Char) :
    ∃ y behind, t ++ x :: rest = y :: behind := by
  cases t with
  | nil => exact ⟨_, _, rfl⟩
  | cons y t => exact ⟨_, _, rfl⟩

/-- The text does not go on with the second half of the pair that the
character begins. -/
def LeavesAlone (c : Char) (t : List Char) : Prop :=
  isHighSurrogate (codePoint c) = true →
    pairing (codePoint c) t = some (codePoint c, 6)

theorem leavesAlone_quote (c : Char) : LeavesAlone c ('"' :: rest) :=
  fun _ => pairing_alone fun _ h => by cases h

/-- What a character is written in leaves the one before it alone, unless the
two are a pair. -/
theorem leavesAlone_stringChar {d : Char} (hpair : ¬ isPair c d = true)
    {x : Char} : LeavesAlone c (stringChar true d ++ x :: rest) := by
  intro hhigh
  refine pairing_alone fun hex hhex => ?_
  have hshape := writtenAs_stringChar true d
  generalize stringChar true d = t at hhex hshape
  cases hshape with
  | @short e he _ =>
      -- the letter of the escape would have to be the one before digits
      simp only [List.cons_append, List.nil_append, digitsBehind?] at hhex
      split at hhex
      next heq =>
        cases heq
        exact absurd rfl he
      · cases hhex
  | units =>
      obtain ⟨more, hmore⟩ := exists_codeUnits (codePoint d)
      obtain ⟨y, behind, hbehind⟩ := exists_cons_append more x rest
      rw [hmore, List.append_assoc, hbehind, digitsBehind?_unitEscape] at hhex
      cases hhex
      refine ⟨_, _, unit?_hexText (leadUnit_lt d) y, ?_⟩
      rw [isLowSurrogate_leadUnit]
      unfold isPair at hpair
      rw [hhigh, Bool.true_and] at hpair
      exact Bool.eq_false_iff.mpr hpair
  | plain _ hescape _ =>
      simp only [List.cons_append, List.nil_append, digitsBehind?] at hhex
      split at hhex
      next heq =>
        cases heq
        exact absurd rfl hescape
      · cases hhex

/-- What holds a surrogate is written as its unit. -/
theorem stringChar_of_isSurrogate
    (h : isSurrogate (codePoint c) = true) :
    stringChar true c = unitEscape (codePoint c) := by
  have hfar : 0x10d800 ≤ c.toNat := by
    rw [isSurrogate_codePoint] at h
    simp only [isLone, isSurrogate, Bool.and_eq_true, decide_eq_true_eq] at h
    omega
  have hother : ∀ d : Char, d.toNat < 0x80 → (c == d) = false := by
    intro d hd
    refine beq_eq_false_iff_ne.mpr ?_
    intro heq
    rw [heq] at hfar
    omega
  have hescaped : (decide (c.toNat < 0x20) || (true && decide (0x7f ≤ c.toNat)))
      = true := by
    simp only [Bool.true_and, Bool.or_eq_true, decide_eq_true_eq]
    omega
  have hsmall : codePoint c < 0x10000 := by
    simp only [isSurrogate, Bool.and_eq_true, decide_eq_true_eq] at h
    omega
  unfold stringChar codeUnits
  rw [hother '"' (by decide), hother '\\' (by decide),
    hother '\n' (by decide), hother '\r' (by decide),
    hother '\t' (by decide), hother '\x0c' (by decide),
    hother '\x08' (by decide), hescaped, if_pos hsmall]
  rfl

/-- A character is read by what it is written in, if what follows leaves it
alone. -/
theorem readString_stringChar {opening fuel : Nat} {x : Char}
    (h : cur.rest = stringChar true c ++ x :: rest)
    (halone : LeavesAlone c (x :: rest)) :
    readString opening (fuel + 1) cur =
      (readString opening fuel (cur.forward (stringChar true c).length)
        >>= fun made => .ok (c :: made.1, made.2)) := by
  have hshape := writtenAs_stringChar true c
  generalize stringChar true c = t at h hshape
  cases hshape with
  | short he hc => exact readString_escape h he hc
  | plain hquote hescape hc => exact readString_plain h hquote hescape hc
  | units =>
      have hle := codePoint_le c
      by_cases hsmall : codePoint c < 0x10000
      · have hunits : codeUnits (codePoint c) = unitEscape (codePoint c) :=
          if_pos hsmall
        have hpairing : pairing (codePoint c) (x :: rest)
            = some (codePoint c, 6) := by
          by_cases hhigh : isHighSurrogate (codePoint c) = true
          · exact halone hhigh
          · exact if_neg hhigh
        rw [hunits] at h ⊢
        rw [readString_unitEscape h hsmall hpairing, ofCodePoint_codePoint]
        simp [unitEscape]
      · have hunits : codeUnits (codePoint c)
            = unitEscape (0xd800 + (codePoint c - 0x10000) / 0x400)
              ++ unitEscape (0xdc00 + (codePoint c - 0x10000) % 0x400) :=
          if_neg hsmall
        have hhigh : isHighSurrogate
            (0xd800 + (codePoint c - 0x10000) / 0x400) = true := by
          simp only [isHighSurrogate, Bool.and_eq_true, decide_eq_true_eq]
          omega
        have hlow : isLowSurrogate
            (0xdc00 + (codePoint c - 0x10000) % 0x400) = true := by
          simp only [isLowSurrogate, Bool.and_eq_true, decide_eq_true_eq]
          omega
        have hpairing : pairing (0xd800 + (codePoint c - 0x10000) / 0x400)
            (unitEscape (0xdc00 + (codePoint c - 0x10000) % 0x400)
              ++ x :: rest) = some (codePoint c, 12) := by
          rw [pairing_pair hhigh hlow, pairValue_halves (by omega)]
        rw [hunits] at h ⊢
        rw [List.append_assoc] at h
        rw [readString_unitEscape h (by omega) hpairing,
          ofCodePoint_codePoint]
        simp [unitEscape]

/-- The escapes of two halves are read as the character of the pair. -/
theorem readString_pair {opening fuel : Nat} {d x : Char}
    (h : cur.rest = stringChar true c ++ (stringChar true d ++ x :: rest))
    (hpair : isPair c d = true) :
    readString opening (fuel + 1) cur =
      (readString opening fuel
        (cur.forward ((stringChar true c).length + (stringChar true d).length))
        >>= fun made => .ok
          (ofCodePoint (pairValue (codePoint c) (codePoint d)) :: made.1,
            made.2)) := by
  obtain ⟨hhigh, hlow⟩ := Bool.and_eq_true_iff.mp hpair
  have hc : isSurrogate (codePoint c) = true ∧ codePoint c < 0x10000 := by
    simp only [isSurrogate, isHighSurrogate, Bool.and_eq_true,
      decide_eq_true_eq] at hhigh ⊢
    omega
  have hd : isSurrogate (codePoint d) = true := by
    simp only [isSurrogate, isLowSurrogate, Bool.and_eq_true,
      decide_eq_true_eq] at hlow ⊢
    omega
  rw [stringChar_of_isSurrogate hc.1, stringChar_of_isSurrogate hd] at h ⊢
  rw [readString_unitEscape h hc.2 (pairing_pair hhigh hlow x)]
  simp only [length_unitEscape]

-- ============================================================= strings

/-- What stands behind the characters that were gone over. -/
theorem Cursor.rest_forward {t : List Char} (h : cur.rest = t ++ rest) :
    (cur.forward t.length).rest = rest := by
  unfold Cursor.forward
  rw [h, List.drop_left]

/-- The characters of a string are read up to its closing quote, with its
pairs joined. -/
theorem readString_flatMap (opening : Nat) {fuel : Nat}
    (h : cur.rest = s.flatMap (stringChar true) ++ '"' :: rest)
    (hfuel : s.length < fuel) :
    readString opening fuel cur = .ok (joinPairs s,
      cur.forward ((s.flatMap (stringChar true)).length + 1)) := by
  obtain ⟨fuel, rfl⟩ := Nat.exists_eq_succ_of_ne_zero (Nat.ne_zero_of_lt hfuel)
  induction s using joinPairs.induct generalizing fuel cur with
  | case1 c d more hpair ih =>
      rw [List.flatMap_cons, List.flatMap_cons, List.append_assoc,
        List.append_assoc] at h
      obtain ⟨x, behind, hbehind⟩ := exists_cons_append
        (more.flatMap (stringChar true)) '"' rest
      have hafter := Cursor.rest_forward
        ((List.append_assoc _ _ _).trans h.symm).symm
      rw [List.length_append] at hafter
      rw [hbehind] at h
      have hlength : ((c :: d :: more).flatMap (stringChar true)).length + 1
          = (stringChar true c).length + (stringChar true d).length
            + ((more.flatMap (stringChar true)).length + 1) := by
        simp [Nat.add_assoc]
      cases fuel with
      | zero => simp at hfuel
      | succ fuel =>
          have hmore := ih hafter fuel (by simp at hfuel ⊢; omega)
          rw [readString_pair h hpair, hmore, Cursor.forward_forward,
            hlength, joinPairs, if_pos hpair]
          rfl
  | case2 c d more hpair ih =>
      rw [List.flatMap_cons, List.append_assoc] at h
      have hafter := Cursor.rest_forward h
      obtain ⟨x, behind, hbehind⟩ := exists_cons_append
        (more.flatMap (stringChar true)) '"' rest
      have halone : LeavesAlone c (stringChar true d ++ x :: behind) :=
        leavesAlone_stringChar hpair
      have hmany : (d :: more).flatMap (stringChar true) ++ '"' :: rest
          = stringChar true d ++ x :: behind := by
        rw [List.flatMap_cons, List.append_assoc, hbehind]
      obtain ⟨y, after, hafter'⟩ := exists_cons_append (stringChar true d) x
        behind
      rw [hmany, hafter'] at h
      rw [hafter'] at halone
      have hlength : ((c :: d :: more).flatMap (stringChar true)).length + 1
          = (stringChar true c).length
            + (((d :: more).flatMap (stringChar true)).length + 1) := by
        simp [Nat.add_assoc]
      cases fuel with
      | zero => simp at hfuel
      | succ fuel =>
          have hmore := ih hafter fuel (by simpa using hfuel)
          rw [readString_stringChar h halone, hmore, Cursor.forward_forward,
            hlength, joinPairs, if_neg hpair]
          rfl
  | case3 s hshort =>
      cases s with
      | nil => exact readString_quote h
      | cons c tail =>
          cases tail with
          | nil =>
              rw [List.flatMap_cons, List.append_assoc] at h
              have hafter := Cursor.rest_forward h
              cases fuel with
              | zero => simp at hfuel
              | succ fuel =>
                  rw [readString_stringChar h (leavesAlone_quote c),
                    readString_quote hafter, Cursor.forward_forward,
                    List.flatMap_singleton]
                  rfl
          | cons d more => exact absurd rfl (hshort c d more)

/-- No character of a text is lost in its string. -/
theorem length_le_flatMap (s : List Char) :
    s.length ≤ (s.flatMap (stringChar true)).length := by
  induction s with
  | nil => exact Nat.le_refl 0
  | cons c rest ih =>
      have hpos := (writtenAs_stringChar true c).length_pos
      rw [List.flatMap_cons, List.length_append, List.length_cons]
      omega

/-- The string of a text is read as the text with its pairs joined. -/
theorem readString_stringText (opening : Nat) {fuel : Nat}
    (h : cur.rest = stringText true s ++ rest)
    (hfuel : cur.rest.length < fuel + 2) :
    readString opening fuel (cur.forward 1)
      = .ok (joinPairs s, cur.forward (stringText true s).length) := by
  have hlength : (stringText true s).length
      = 1 + ((s.flatMap (stringChar true)).length + 1) := by
    simp only [stringText, List.length_append, List.length_cons,
      List.length_nil]
    omega
  have hinside : (cur.forward 1).rest
      = s.flatMap (stringChar true) ++ '"' :: rest := by
    refine Cursor.rest_forward (t := ['"']) ?_
    rw [h]
    simp only [stringText, List.append_assoc, List.cons_append,
      List.nil_append]
  have hle := length_le_flatMap s
  rw [h, List.length_append, hlength] at hfuel
  rw [readString_flatMap opening hinside (by omega), hlength,
    Cursor.forward_forward]

/-- Nothing stands behind a whole text. -/
theorem Cursor.rest_behind (text : List Char) :
    ((Cursor.start text).forward text.length).skipSpace.rest = [] := by
  rw [Cursor.rest_skipSpace]
  show (text.drop text.length).dropWhile isSpace = []
  rw [List.drop_length, List.dropWhile_nil]

/-- The string of a text, alone, is read as the text with its pairs joined. -/
theorem read_stringText (s : List Char) :
    read (stringText true s) = .ok (.text (String.ofList (joinPairs s))) := by
  have hopening : stringText true s
      = '"' :: (s.flatMap (stringChar true) ++ ['"']) := rfl
  have hhead : (stringText true s).head? = some '"' :=
    congrArg List.head? hopening
  have hskip : (Cursor.start (stringText true s)).skipSpace
      = Cursor.start (stringText true s) := rfl
  have hwhole : (Cursor.start (stringText true s)).rest
      = stringText true s ++ [] := (List.append_nil _).symm
  have hlimit : (Cursor.start (stringText true s)).rest.length
      < (Cursor.start (stringText true s)).limit + 2 :=
    Nat.lt_add_of_pos_right (by decide : 0 < 3)
  have hread := readString_stringText
    (Cursor.start (stringText true s)).offset hwhole hlimit
  unfold read
  rw [hhead, if_neg (by decide), hskip, readValue_text hopening, hread]
  show (if _ then _ else _) = _
  rw [Cursor.rest_behind]
  rfl

end Toolsmith.Json
