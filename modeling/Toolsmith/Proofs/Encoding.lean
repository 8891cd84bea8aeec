/-
Texts and octets that are encoded, read back.

In UTF-8 this goes character by character: the first octet says how many follow
and what the next one may be, each of those adds six bits, and reading ends
exactly where the next character begins. The bounds on the second octet keep out
what has a shorter form, what is a surrogate and what lies beyond the last code
point, and none of that is a character.

A component of a URL is made of plain characters and of triples, a percent sign
with two hexadecimal digits in upper case. No percent sign is plain, so a
component falls into these in one way, each of them is one octet, and the octets
are the text in UTF-8.

In base64 the bits of three octets fall into the four characters of a group
across the borders of the octets: the second character has the last two bits of
the first octet and four of the second one, the third character has the other
four and two of the last one. Reading keeps what a character has beyond the
octet that it completes, so it goes octet by octet, and each of them is settled
by the bits that the one before it has left. A last group of one octet or of two
has zeros for the bits that are not there, and paddings for the characters.
Reading ends at the padding that completes the group, and drops the zeros.
-/
import Toolsmith.Encoding.Base64
import Toolsmith.Encoding.Percent
import Toolsmith.Proofs.Text.Escapes

namespace Toolsmith

open Text

namespace Utf8

-- ============================================================== octets

/-- An octet that was made from a value between two bounds lies between
them. -/
theorem within_ofNat {low high n : Nat} (hlow : low ≤ n) (hhigh : n ≤ high)
    (h : n < 256) : within low high (UInt8.ofNat n) = true := by
  rw [within, UInt8.toNat_ofNat_of_lt' h]
  simp [hlow, hhigh]

/-- An octet that follows adds its six bits to those in front of it. -/
theorem continuation_ofNat {n : Nat} (h : n < 0x40) (count bits : Nat)
    (rest : List UInt8) :
    continuation (count + 1) bits (UInt8.ofNat (0x80 + n) :: rest)
      = continuation count (bits * 0x40 + n) rest := by
  have hbits : (0x80 + n) % 0x40 = n := by omega
  rw [continuation, if_pos (within_ofNat (by omega) (by omega) (by omega)),
    UInt8.toNat_ofNat_of_lt' (show 0x80 + n < 256 by omega), hbits]

/-- No octet of ASCII begins a longer sequence. -/
theorem lead?_ascii : ∀ n < 0x80, lead? false (UInt8.ofNat n) = none := by
  decide

/-- A first octet and a second one that it allows: the sequence is read if the
octets behind them are. -/
theorem unit_eq {lead : UInt8} {low high following bits second n : Nat}
    {more rest : List UInt8}
    (hlead : lead? false lead = some (low, high, following))
    (hbits : leadBits lead following = bits) (hsecond : second < 0x40)
    (hlow : low ≤ 0x80 + second) (hhigh : 0x80 + second ≤ high)
    (hmore : continuation (following - 1) (bits * 0x40 + second) more
      = (n, 0, rest)) :
    unit false lead (UInt8.ofNat (0x80 + second) :: more)
      = (some (ofCodePoint n), rest) := by
  have hlong : ¬ lead.toNat < 0x80 := by
    intro hshort
    have hnone := lead?_ascii lead.toNat hshort
    rw [UInt8.ofNat_toNat, hlead] at hnone
    cases hnone
  have hwithin := within_ofNat hlow hhigh (by omega)
  have hvalue : (UInt8.ofNat (0x80 + second)).toNat % 0x40 = second := by
    rw [UInt8.toNat_ofNat_of_lt' (show 0x80 + second < 256 by omega)]
    omega
  unfold unit
  rw [if_neg hlong]
  simp only [hlead, hwithin, if_true, hbits, hvalue, hmore]

/-- The first octet of two, and the bits that it keeps. -/
theorem lead?_two : ∀ n < 0x20, 2 ≤ n →
    lead? false (UInt8.ofNat (0xc0 + n)) = some (0x80, 0xbf, 1)
      ∧ leadBits (UInt8.ofNat (0xc0 + n)) 1 = n := by
  decide

/-- The first octet of three. Its bounds keep out what has a shorter form and
what is a surrogate. -/
theorem lead?_three : ∀ n < 0x10,
    lead? false (UInt8.ofNat (0xe0 + n))
        = some (if n = 0 then 0xa0 else 0x80, if n = 0xd then 0x9f else 0xbf, 2)
      ∧ leadBits (UInt8.ofNat (0xe0 + n)) 2 = n := by
  decide

/-- The first octet of four. Its bounds keep out what has a shorter form and
what lies beyond the last code point. -/
theorem lead?_four : ∀ n < 5,
    lead? false (UInt8.ofNat (0xf0 + n))
        = some (if n = 0 then 0x90 else 0x80, if n = 4 then 0x8f else 0xbf, 3)
      ∧ leadBits (UInt8.ofNat (0xf0 + n)) 3 = n := by
  decide

-- ========================================================== characters

/-- The first character is read off its octets, whatever follows them. -/
theorem unit_encodeNat (c : Char) (rest : List UInt8) :
    ∃ o more, encodeNat c.toNat = o :: more
      ∧ unit false o (more ++ rest) = (some c, rest) := by
  have hvalid := toNat_cases c
  have hown : ofCodePoint c.toNat = c := by
    rw [ofCodePoint, if_neg (by simp [isSurrogate_toNat]), Char.ofNat_toNat]
  have hplain : Char.ofNat c.toNat = c := Char.ofNat_toNat c
  generalize c.toNat = n at hvalid hown hplain
  unfold encodeNat
  split
  case isTrue hone =>
      refine ⟨_, _, rfl, ?_⟩
      unfold unit
      rw [UInt8.toNat_ofNat_of_lt' (show n < 256 by omega), if_pos hone, hplain]
      rfl
  split
  case isTrue htwo =>
      -- from here on the bits of the octets are the digits of `n` to base 64
      have hn : n / 0x40 * 0x40 + n % 0x40 = n := by omega
      obtain ⟨hlead, hbits⟩ := lead?_two (n / 0x40) (by omega) (by omega)
      refine ⟨_, _, rfl, ?_⟩
      rw [← hown]
      exact unit_eq hlead hbits (by omega) (by omega) (by omega)
        (by rw [hn]; rfl)
  split
  case isTrue hthree =>
      have hn : (n / 0x1000 * 0x40 + n / 0x40 % 0x40) * 0x40 + n % 0x40
          = n := by
        omega
      obtain ⟨hlead, hbits⟩ := lead?_three (n / 0x1000) (by omega)
      refine ⟨_, _, rfl, ?_⟩
      rw [← hown]
      refine unit_eq hlead hbits (by omega) (by split <;> omega)
        (by split <;> omega) ?_
      refine (continuation_ofNat (by omega) 0 _ rest).trans ?_
      rw [hn]
      rfl
  case isFalse hfour =>
      have hn : ((n / 0x40000 * 0x40 + n / 0x1000 % 0x40) * 0x40
          + n / 0x40 % 0x40) * 0x40 + n % 0x40 = n := by
        omega
      obtain ⟨hlead, hbits⟩ := lead?_four (n / 0x40000) (by omega)
      refine ⟨_, _, rfl, ?_⟩
      rw [← hown]
      refine unit_eq hlead hbits (by omega) (by split <;> omega)
        (by split <;> omega) ?_
      refine (continuation_ofNat (by omega) 1 _ _).trans ?_
      refine (continuation_ofNat (by omega) 0 _ rest).trans ?_
      rw [hn]
      rfl

/-- The octets of a text are read as its characters. -/
theorem units_encode (s : List Char) (fuel : Nat)
    (h : (encode s).length ≤ fuel) :
    units false fuel (encode s) = s.map some := by
  induction s generalizing fuel with
  | nil => cases fuel <;> rfl
  | cons c rest ih =>
      obtain ⟨o, more, hoctets, hunit⟩ := unit_encodeNat c (encode rest)
      have hall : encode (c :: rest) = o :: (more ++ encode rest) := by
        rw [encode, List.flatMap_cons, hoctets]
        rfl
      rw [hall, List.length_cons, List.length_append] at h
      obtain ⟨left, rfl⟩ : ∃ left, fuel = left + 1 := ⟨fuel - 1, by omega⟩
      rw [hall, units, hunit, List.map_cons, ← ih left (by omega)]

/-- The octets of a text give the text back. -/
theorem decode?_encode (s : List Char) : decode? (encode s) = some s := by
  rw [decode?, read, units_encode s _ (Nat.le_refl _)]
  calc (s.map some).mapM id
      = s.mapM fun c => pure (id c) := List.mapM_map
    _ = some (s.map id) := List.mapM_pure
    _ = some s := by rw [List.map_id]

end Utf8

namespace Percent

-- ========================================================== components

/-- A hexadecimal digit in upper case. -/
def isUpperHex (c : Char) : Bool := isAsciiDigit c || ('A' ≤ c && c ≤ 'F')

/-- A text of plain characters and of triples. -/
inductive IsComponent : List Char → Prop where
  | nil : IsComponent []
  | plain {c : Char} {rest : List Char} (hc : isPlain c = true)
      (hrest : IsComponent rest) : IsComponent (c :: rest)
  | triple {high low : Char} {rest : List Char}
      (hhigh : isUpperHex high = true) (hlow : isUpperHex low = true)
      (hrest : IsComponent rest) : IsComponent ('%' :: high :: low :: rest)

/-- The octets of a component. A triple is the octet with its two digits, and
any other character is the octet with its number; a percent sign without digits
and a character beyond ASCII are none. -/
def octets? : List Char → Option (List UInt8)
  | [] => some []
  | '%' :: high :: low :: rest => do
    let n := (← hexValue? high) * 16 + (← hexValue? low)
    return UInt8.ofNat n :: (← octets? rest)
  | c :: rest =>
    if c == '%' || 0x80 ≤ c.toNat then none
    else (octets? rest).map (UInt8.ofNat c.toNat :: ·)

/-- The text of a component, if its octets are UTF-8. -/
def decode? (s : List Char) : Option (List Char) :=
  (octets? s).bind Utf8.decode?

/-- A digit in upper case is plain. -/
theorem isPlain_of_isUpperHex {c : Char} (h : isUpperHex c = true) :
    isPlain c = true := by
  simp only [isUpperHex, isPlain, isAsciiLetter, Bool.or_eq_true,
    Bool.and_eq_true, decide_eq_true_eq] at h ⊢
  rcases h with hdigit | ⟨hlow, hhigh⟩
  · exact Or.inl (Or.inr hdigit)
  · exact Or.inl (Or.inl (Or.inr ⟨hlow, Char.le_trans hhigh (by decide)⟩))

/-- Nothing but plain characters and percent signs is in a component. -/
theorem IsComponent.isPlain_of_mem {s : List Char} (h : IsComponent s) :
    ∀ c ∈ s, isPlain c = true ∨ c = '%' := by
  induction h with
  | nil => exact fun c hc => absurd hc List.not_mem_nil
  | plain hc _ ih => exact List.forall_mem_cons.mpr ⟨Or.inl hc, ih⟩
  | triple hhigh hlow _ ih =>
      refine List.forall_mem_cons.mpr ⟨Or.inr rfl, List.forall_mem_cons.mpr
        ⟨Or.inl (isPlain_of_isUpperHex hhigh), List.forall_mem_cons.mpr
          ⟨Or.inl (isPlain_of_isUpperHex hlow), ih⟩⟩⟩

/-- The marks that part a URL, and the braces of its tokens. -/
def separators : List Char := ['/', '?', '#', '\x7b', '\x7d']

/-- So no mark that parts a URL is in it. -/
theorem IsComponent.not_mem {s : List Char} (h : IsComponent s) :
    ∀ c ∈ separators, c ∉ s := by
  have hmarks : (separators.all fun c => !isPlain c && c != '%') = true := by
    decide
  intro c hmark hc
  obtain ⟨hplain, hpercent⟩ :=
    Bool.and_eq_true_iff.mp (List.all_eq_true.mp hmarks c hmark)
  rcases h.isPlain_of_mem c hc with hc | rfl
  · rw [hc] at hplain
    cases hplain
  · exact absurd hpercent (by decide)

-- ============================================================== octets

/-- The digits of an octet are in upper case and have their values. -/
theorem digit_spec : ∀ n < 16,
    isUpperHex (digit n) = true ∧ hexValue? (digit n) = some n := by
  decide

/-- A plain character stands for the octet with its number, which is one of
ASCII, and is no percent sign. -/
theorem plain_spec : ∀ n < 256, isPlain (Char.ofNat n) = true →
    (Char.ofNat n).toNat = n ∧ n < 0x80 ∧ Char.ofNat n ≠ '%' := by
  decide +kernel

/-- A character of ASCII other than the percent sign is the octet with its
number. -/
theorem octets?_cons {c : Char} (hascii : c.toNat < 0x80) (hc : c ≠ '%')
    (s : List Char) :
    octets? (c :: s) = (octets? s).map (UInt8.ofNat c.toNat :: ·) := by
  have hfit : ¬ (c == '%' || 0x80 ≤ c.toNat) = true := by
    simp [hc, hascii]
  rw [octets?, if_neg hfit]
  exact fun _ _ _ hpercent => absurd hpercent hc

/-- An octet in front of a component leaves a component. -/
theorem IsComponent.encodeOctet_append {s : List Char} (h : IsComponent s)
    (o : UInt8) : IsComponent (encodeOctet o ++ s) := by
  have ho : o.toNat < 256 := o.toNat_lt
  unfold encodeOctet
  dsimp only
  split
  case isTrue hplain => exact .plain hplain h
  case isFalse =>
      exact .triple (digit_spec _ (by omega)).1 (digit_spec _ (by omega)).1 h

/-- An octet is read off the front of a component. -/
theorem octets?_encodeOctet_append (o : UInt8) (s : List Char) :
    octets? (encodeOctet o ++ s) = (octets? s).map (o :: ·) := by
  have ho : o.toNat < 256 := o.toNat_lt
  unfold encodeOctet
  dsimp only
  split
  case isTrue hplain =>
      obtain ⟨hvalue, hascii, hpercent⟩ := plain_spec _ ho hplain
      rw [List.singleton_append, octets?_cons (by omega) hpercent, hvalue,
        UInt8.ofNat_toNat]
  case isFalse =>
      have hhigh := (digit_spec (o.toNat / 16) (by omega)).2
      have hlow := (digit_spec (o.toNat % 16) (by omega)).2
      have hvalue : o.toNat / 16 * 16 + o.toNat % 16 = o.toNat := by omega
      show octets?
        ('%' :: digit (o.toNat / 16) :: digit (o.toNat % 16) :: s) = _
      rw [octets?, hhigh, hlow]
      dsimp only [Option.bind_eq_bind, Option.bind_some]
      rw [hvalue, UInt8.ofNat_toNat]
      cases octets? s <;> rfl

theorem isComponent_flatMap (octets : List UInt8) :
    IsComponent (octets.flatMap encodeOctet) := by
  induction octets with
  | nil => exact .nil
  | cons o rest ih =>
      rw [List.flatMap_cons]
      exact ih.encodeOctet_append o

theorem octets?_flatMap (octets : List UInt8) :
    octets? (octets.flatMap encodeOctet) = some octets := by
  induction octets with
  | nil => rfl
  | cons o rest ih =>
      rw [List.flatMap_cons, octets?_encodeOctet_append, ih]
      rfl

-- =============================================================== texts

theorem isComponent_encode (s : List Char) : IsComponent (encode s) :=
  isComponent_flatMap _

/-- The component of a text gives the text back. -/
theorem decode?_encode (s : List Char) : decode? (encode s) = some s := by
  rw [decode?, encode, octets?_flatMap, Option.bind_some, Utf8.decode?_encode]

end Percent

namespace Base64

-- ============================================================ alphabet

/-- The alphabet, each character at the place of its value. -/
def alphabet : List Char :=
  "ABCDEFGHIJKLMNOPQRSTUVWXYZabcdefghijklmnopqrstuvwxyz0123456789+/".toList

/-- A text of groups of four characters of the alphabet. Only the last group may
have paddings, one or two at its end. -/
inductive IsPadded : List Char → Prop where
  | nil : IsPadded []
  | two {c d : Char} (hc : c ∈ alphabet) (hd : d ∈ alphabet) :
    IsPadded [c, d, '=', '=']
  | one {c d e : Char} (hc : c ∈ alphabet) (hd : d ∈ alphabet)
    (he : e ∈ alphabet) : IsPadded [c, d, e, '=']
  | group {c d e f : Char} {rest : List Char} (hc : c ∈ alphabet)
    (hd : d ∈ alphabet) (he : e ∈ alphabet) (hf : f ∈ alphabet)
    (hrest : IsPadded rest) : IsPadded (c :: d :: e :: f :: rest)

/-- The character of a value stands at its place in the alphabet, and has the
value. -/
theorem symbol_spec : ∀ n < 64,
    alphabet[n]? = some (symbol n) ∧ value? (symbol n) = some n := by
  decide

theorem symbol_mem {n : Nat} (h : n < 64) : symbol n ∈ alphabet :=
  List.mem_of_getElem? (symbol_spec n h).1

-- ============================================================= writing

/-- A last octet, with zeros behind it. -/
theorem encode_one (a : UInt8) :
    encode [a]
      = [symbol (a.toNat / 4), symbol (a.toNat % 4 * 16 + 0), '=', '='] := by
  have hfirst : a.toNat * 16 / 64 = a.toNat / 4 := by omega
  have hsecond : a.toNat * 16 % 64 = a.toNat % 4 * 16 + 0 := by omega
  rw [encode, hfirst, hsecond]

/-- Two last octets, with zeros behind them. -/
theorem encode_two (a b : UInt8) :
    encode [a, b]
      = [symbol (a.toNat / 4), symbol (a.toNat % 4 * 16 + b.toNat / 16),
          symbol (b.toNat % 16 * 4 + 0), '='] := by
  have hb : b.toNat < 256 := b.toNat_lt
  have hfirst : (a.toNat * 256 + b.toNat) * 4 / 4096 = a.toNat / 4 := by omega
  have hsecond : (a.toNat * 256 + b.toNat) * 4 / 64 % 64
      = a.toNat % 4 * 16 + b.toNat / 16 := by
    omega
  have hthird : (a.toNat * 256 + b.toNat) * 4 % 64
      = b.toNat % 16 * 4 + 0 := by
    omega
  rw [encode, hfirst, hsecond, hthird]

/-- Three octets in front of others. -/
theorem encode_group (a b c : UInt8) (rest : List UInt8) :
    encode (a :: b :: c :: rest)
      = symbol (a.toNat / 4) :: symbol (a.toNat % 4 * 16 + b.toNat / 16)
          :: symbol (b.toNat % 16 * 4 + c.toNat / 64) :: symbol (c.toNat % 64)
          :: encode rest := by
  have hb : b.toNat < 256 := b.toNat_lt
  have hc : c.toNat < 256 := c.toNat_lt
  have hfirst : ((a.toNat * 256 + b.toNat) * 256 + c.toNat) / 262144
      = a.toNat / 4 := by
    omega
  have hsecond : ((a.toNat * 256 + b.toNat) * 256 + c.toNat) / 4096 % 64
      = a.toNat % 4 * 16 + b.toNat / 16 := by
    omega
  have hthird : ((a.toNat * 256 + b.toNat) * 256 + c.toNat) / 64 % 64
      = b.toNat % 16 * 4 + c.toNat / 64 := by
    omega
  have hfourth : ((a.toNat * 256 + b.toNat) * 256 + c.toNat) % 64
      = c.toNat % 64 := by
    omega
  rw [encode, hfirst, hsecond, hthird, hfourth]

/-- What is written is padded. -/
theorem isPadded_encode (octets : List UInt8) : IsPadded (encode octets) := by
  induction octets using encode.induct with
  | case1 => exact .nil
  | case2 a =>
      have ha : a.toNat < 256 := a.toNat_lt
      rw [encode_one]
      exact .two (symbol_mem (by omega)) (symbol_mem (by omega))
  | case3 a b =>
      have ha : a.toNat < 256 := a.toNat_lt
      have hb : b.toNat < 256 := b.toNat_lt
      rw [encode_two]
      exact .one (symbol_mem (by omega)) (symbol_mem (by omega))
        (symbol_mem (by omega))
  | case4 a b c rest ih =>
      have ha : a.toNat < 256 := a.toNat_lt
      have hb : b.toNat < 256 := b.toNat_lt
      have hc : c.toNat < 256 := c.toNat_lt
      rw [encode_group]
      exact .group (symbol_mem (by omega)) (symbol_mem (by omega))
        (symbol_mem (by omega)) (symbol_mem (by omega)) ih

-- ============================================================= reading

/-- A character of the alphabet is read by its value, and no padding stands
since. -/
theorem decodeFrom_symbol {n : Nat} (h : n < 64) (place left pads : Nat)
    (rest : List Char) :
    decodeFrom place left pads (symbol n :: rest)
      = match place with
        | 0 => decodeFrom 1 n 0 rest
        | 1 => (decodeFrom 2 (n % 16) 0 rest).map
            (UInt8.ofNat (left * 4 + n / 16) :: ·)
        | 2 => (decodeFrom 3 (n % 4) 0 rest).map
            (UInt8.ofNat (left * 16 + n / 4) :: ·)
        | _ => (decodeFrom 0 0 0 rest).map
            (UInt8.ofNat (left * 64 + n) :: ·) := by
  have hvalue := (symbol_spec n h).2
  have hpadding : symbol n = '=' → False := by
    intro heq
    rw [heq] at hvalue
    cases hvalue
  have hread := decodeFrom.eq_3 place left pads (symbol n) rest hpadding
  rw [hvalue] at hread
  exact hread

/-- The first octet of a group. -/
theorem decodeFrom_first (a : UInt8) {low : Nat} (hlow : low < 16)
    (left pads : Nat) (rest : List Char) :
    decodeFrom 0 left pads
        (symbol (a.toNat / 4) :: symbol (a.toNat % 4 * 16 + low) :: rest)
      = (decodeFrom 2 low 0 rest).map (a :: ·) := by
  have ha : a.toNat < 256 := a.toNat_lt
  have hleft : (a.toNat % 4 * 16 + low) % 16 = low := by omega
  have hoctet : a.toNat / 4 * 4 + (a.toNat % 4 * 16 + low) / 16 = a.toNat := by
    omega
  rw [decodeFrom_symbol (by omega), decodeFrom_symbol (by omega), hleft,
    hoctet, UInt8.ofNat_toNat]
  rfl

/-- The second one, of which the first four bits are left. -/
theorem decodeFrom_second (b : UInt8) {low : Nat} (hlow : low < 4)
    (pads : Nat) (rest : List Char) :
    decodeFrom 2 (b.toNat / 16) pads (symbol (b.toNat % 16 * 4 + low) :: rest)
      = (decodeFrom 3 low 0 rest).map (b :: ·) := by
  have hleft : (b.toNat % 16 * 4 + low) % 4 = low := by omega
  have hoctet : b.toNat / 16 * 16 + (b.toNat % 16 * 4 + low) / 4 = b.toNat := by
    omega
  rw [decodeFrom_symbol (by omega), hleft, hoctet, UInt8.ofNat_toNat]
  rfl

/-- The third one, of which the first two bits are left. -/
theorem decodeFrom_third (c : UInt8) (pads : Nat) (rest : List Char) :
    decodeFrom 3 (c.toNat / 64) pads (symbol (c.toNat % 64) :: rest)
      = (decodeFrom 0 0 0 rest).map (c :: ·) := by
  have hoctet : c.toNat / 64 * 64 + c.toNat % 64 = c.toNat := by omega
  rw [decodeFrom_symbol (by omega), hoctet, UInt8.ofNat_toNat]
  rfl

/-- The text of octets gives the octets back. -/
theorem decode?_encode (octets : List UInt8) :
    decode? (encode octets) = some octets := by
  unfold decode?
  induction octets using encode.induct with
  | case1 => rfl
  | case2 a =>
      rw [encode_one, decodeFrom_first a (by decide)]
      rfl
  | case3 a b =>
      have hb : b.toNat < 256 := b.toNat_lt
      rw [encode_two, decodeFrom_first a (by omega),
        decodeFrom_second b (by decide)]
      rfl
  | case4 a b c rest ih =>
      have hb : b.toNat < 256 := b.toNat_lt
      have hc : c.toNat < 256 := c.toNat_lt
      rw [encode_group, decodeFrom_first a (by omega),
        decodeFrom_second b (by omega), decodeFrom_third c, ih]
      rfl

end Base64

end Toolsmith
