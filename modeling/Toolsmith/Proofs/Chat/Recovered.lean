/-
Objects that are found in the reply of a model again, whatever stands around
them.

Taking the fences off a reply takes off a front without an opening brace and an
end without a closing one, so the span of the outermost braces is the same
before and after: prose and stray fences around an object never cut into it,
and what the object holds does not matter. An object alone, or in a block of
code, is what is left when the fences are off, so it is read as it stands.
-/
import Toolsmith.Proofs.Chat.Reply
import Toolsmith.Proofs.Json.Taken

namespace Toolsmith.Chat

open Text

-- =============================================================== braces

/-- The span of the outermost braces, which is empty if there is none. -/
def spanOf (s : List Char) : List Char :=
  ((s.dropWhile (· != '\x7b')).reverse.dropWhile (· != '\x7d')).reverse

theorem braced?_eq (s : List Char) :
    braced? s = if (spanOf s).isEmpty then none else some (spanOf s) :=
  rfl

/-- The outermost braces are found behind a front without an opening one and
before an end without a closing one. -/
theorem spanOf_append {front behind : List Char} (s : List Char)
    (hfront : '\x7b' ∉ front) (hbehind : '\x7d' ∉ behind) :
    spanOf (front ++ s ++ behind) = spanOf s := by
  have hskip : ∀ c ∈ front, (c != '\x7b') = true :=
    fun c hc => bne_iff_ne.mpr fun heq => hfront (heq ▸ hc)
  have hend : ∀ {rest : List Char}, rest <:+ behind →
      ∀ c ∈ rest.reverse, (c != '\x7d') = true :=
    fun hrest c hc => bne_iff_ne.mpr fun heq =>
      hbehind (hrest.mem (heq ▸ List.mem_reverse.mp hc))
  unfold spanOf
  rw [List.append_assoc, List.dropWhile_append_of_pos hskip,
    List.dropWhile_append]
  split
  next hnone =>
    -- without an opening brace there is no span on either side
    rw [List.isEmpty_iff.mp hnone, List.dropWhile_eq_nil_iff.mpr
      (hend (List.dropWhile_suffix _))]
    rfl
  · rw [List.reverse_append, List.dropWhile_append_of_pos
      (hend (List.suffix_refl behind))]

/-- A text in braces is all that they span. -/
theorem spanOf_object (inner : List Char) :
    spanOf ('\x7b' :: inner ++ ['\x7d']) = '\x7b' :: inner ++ ['\x7d'] := by
  have hreverse : ('\x7b' :: inner ++ ['\x7d']).reverse
      = '\x7d' :: ('\x7b' :: inner).reverse := by
    rw [List.reverse_append, List.reverse_singleton, List.singleton_append]
  change (('\x7b' :: inner ++ ['\x7d']).reverse.dropWhile _).reverse = _
  rw [hreverse]
  change ('\x7d' :: ('\x7b' :: inner).reverse).reverse = _
  rw [← hreverse, List.reverse_reverse]

-- ============================================================== peeling

/-- Of `s` only a front without an opening brace and an end without a closing
one have come off, and `t` is left. -/
def Peels (s t : List Char) : Prop :=
  ∃ front behind, s = front ++ t ++ behind
    ∧ '\x7b' ∉ front ∧ '\x7d' ∉ behind

variable {s t u : List Char}

theorem Peels.refl (s : List Char) : Peels s s :=
  ⟨[], [], (List.append_nil s).symm, List.not_mem_nil, List.not_mem_nil⟩

/-- Peeling twice is peeling. -/
theorem Peels.trans (hs : Peels s t) (ht : Peels t u) : Peels s u := by
  obtain ⟨front, behind, rfl, hfront, hbehind⟩ := hs
  obtain ⟨front', behind', rfl, hfront', hbehind'⟩ := ht
  refine ⟨front ++ front', behind' ++ behind, ?_, ?_, ?_⟩
  · simp only [List.append_assoc]
  · exact fun h => (List.mem_append.mp h).elim hfront hfront'
  · exact fun h => (List.mem_append.mp h).elim hbehind' hbehind

instance : Trans Peels Peels Peels := ⟨Peels.trans⟩

/-- A front comes off. -/
theorem Peels.of_front {front : List Char} (h : '\x7b' ∉ front) :
    Peels (front ++ s) s :=
  ⟨front, [], (List.append_nil _).symm, h, List.not_mem_nil⟩

/-- An end comes off. -/
theorem Peels.of_behind {behind : List Char} (h : '\x7d' ∉ behind) :
    Peels (s ++ behind) s :=
  ⟨[], behind, rfl, List.not_mem_nil, h⟩

/-- Peeling leaves the outermost braces where they are. -/
theorem Peels.braced?_eq (h : Peels s t) : braced? t = braced? s := by
  obtain ⟨front, behind, rfl, hfront, hbehind⟩ := h
  rw [braced?_eq, braced?_eq, spanOf_append t hfront hbehind]

/-- A brace is no blank. -/
theorem not_mem_of_isMargin {margin : List Char} (h : IsMargin margin) :
    '\x7b' ∉ margin ∧ '\x7d' ∉ margin :=
  ⟨fun hmem => absurd (h _ hmem) (by decide),
    fun hmem => absurd (h _ hmem) (by decide)⟩

theorem peels_stripLeft (s : List Char) : Peels s (stripLeft s) := by
  have hmargin : IsMargin (s.takeWhile isBlank) :=
    fun c hc => List.mem_takeWhile_imp hc
  have hpeels := Peels.of_front (s := stripLeft s)
    (not_mem_of_isMargin hmargin).1
  rwa [stripLeft, List.takeWhile_append_dropWhile] at hpeels

theorem peels_stripRight (s : List Char) : Peels s (stripRight s) := by
  have hmargin : IsMargin (s.reverse.takeWhile isBlank).reverse :=
    fun c hc => List.mem_takeWhile_imp (List.mem_reverse.mp hc)
  have hpeels := Peels.of_behind (s := stripRight s)
    (not_mem_of_isMargin hmargin).2
  rwa [stripRight, ← List.reverse_append, List.takeWhile_append_dropWhile,
    List.reverse_reverse] at hpeels

theorem peels_strip (s : List Char) : Peels s (strip s) :=
  (peels_stripLeft s).trans (peels_stripRight _)

/-- What follows the start of a text is left when the start comes off. -/
theorem peels_of_after? {start rest : List Char} (h : '\x7b' ∉ start)
    (hafter : after? start s = some rest) : Peels s rest :=
  after?_eq_some_iff.mp hafter ▸ Peels.of_front h

theorem peels_dropStart {start : List Char} (h : '\x7b' ∉ start)
    (s : List Char) : Peels s (dropStart start s) := by
  rw [dropStart]
  cases hafter : after? start s with
  | none => exact Peels.refl s
  | some rest => exact peels_of_after? h hafter

theorem peels_dropLastFence (s : List Char) : Peels s (dropLastFence s) := by
  rw [dropLastFence]
  split
  next hfence =>
    obtain ⟨before, rfl⟩ := List.isSuffixOf_iff_suffix.mp hfence
    rw [List.length_append, Nat.add_sub_cancel, List.take_left]
    exact Peels.of_behind (by decide)
  · exact Peels.refl s

/-- What stands between two fences is left when they come off. -/
theorem peels_of_fenced? (h : fenced? s = some t) : Peels s t := by
  rw [fenced?] at h
  obtain ⟨inside, hinside, h⟩ := Option.bind_eq_some_iff.mp h
  obtain ⟨_, _, h⟩ := Option.bind_eq_some_iff.mp h
  cases h
  calc
    Peels s inside := peels_of_after? (by decide) hinside
    Peels inside (dropLastFence inside) := peels_dropLastFence inside
    Peels _ (dropStart "json".toList _) := peels_dropStart (by decide) _
    Peels _ (strip _) := peels_strip _

/-- An opening mark and the blanks behind it come off. -/
theorem peels_opened (start : List Char) (h : '\x7b' ∉ start)
    (s : List Char) : Peels s (match after? start s with
      | some rest => stripLeft rest
      | none => s) := by
  split
  next rest hafter =>
    exact (peels_of_after? h hafter).trans (peels_stripLeft rest)
  · exact Peels.refl s

/-- Taking the fences off is peeling, whatever the text. -/
theorem peels_stripFences (s : List Char) : Peels s (stripFences s) := by
  have hfenced : Peels (strip s) ((fenced? (strip s)).getD (strip s)) := by
    cases h : fenced? (strip s) with
    | none => exact Peels.refl _
    | some inside => exact peels_of_fenced? h
  unfold stripFences
  calc
    Peels s (strip s) := peels_strip s
    Peels _ _ := hfenced
    Peels _ _ := peels_opened (fence ++ "json".toList) (by decide) _
    Peels _ _ := peels_opened fence (by decide) _
    Peels _ (stripRight _) := peels_stripRight _
    Peels _ (dropLastFence _) := peels_dropLastFence _
    Peels _ (strip _) := peels_strip _

-- =============================================================== objects

/-- The span of the outermost braces of a reply is that of the reply without
its fences. -/
theorem braced?_stripFences (s : List Char) :
    braced? (stripFences s) = braced? s :=
  (peels_stripFences s).braced?_eq

/-- A text that opens with a brace and ends with one. -/
def Braced (s : List Char) : Prop := ∃ inner, s = '\x7b' :: inner ++ ['\x7d']

theorem Braced.braced?_eq (h : Braced s) : braced? s = some s := by
  obtain ⟨inner, rfl⟩ := h
  rw [Chat.braced?_eq, spanOf_object]
  rfl

theorem Braced.strip_eq {left right : List Char} (h : Braced s)
    (hleft : IsMargin left) (hright : IsMargin right) :
    strip (left ++ s ++ right) = s := by
  obtain ⟨inner, rfl⟩ := h
  exact strip_margins hleft (by decide) (by decide) hright

/-- A mark that does not begin with a brace or a blank is not at the start. -/
theorem Braced.after?_eq {left : List Char} {x : Char} (h : Braced s)
    (hleft : IsMargin left) (hbrace : x ≠ '\x7b') (hblank : isBlank x = false)
    (start right : List Char) :
    after? (x :: start) (left ++ s ++ right) = none := by
  obtain ⟨inner, rfl⟩ := h
  cases left with
  | nil => exact after?_cons_of_ne hbrace _ _
  | cons c left =>
      refine after?_cons_of_ne (fun heq => ?_) _ _
      rw [heq, hleft c List.mem_cons_self] at hblank
      cases hblank

theorem Braced.not_fenced (h : Braced s) (start : List Char) :
    after? ('\x60' :: start) s = none := by
  have hnone := h.after?_eq isMargin_nil (show '\x60' ≠ '\x7b' by decide)
    (by decide) start []
  rwa [List.nil_append, List.append_nil] at hnone

theorem Braced.dropLastFence_eq (h : Braced s) : dropLastFence s = s := by
  obtain ⟨inner, rfl⟩ := h
  refine if_neg fun hfence => ?_
  have hlast := (List.isSuffixOf_iff_suffix.mp hfence).reverse
  rw [List.reverse_append] at hlast
  exact absurd (List.cons_prefix_cons.mp hlast).1 (by decide)

/-- A text in braces inside of the fences is what is left of them. -/
theorem stripFences_of_inside (h : Braced t)
    (hinside : (fenced? (strip s)).getD (strip s) = t) :
    stripFences s = t := by
  have hnamed : after? (fence ++ "json".toList) t = none := h.not_fenced _
  have hplain : after? fence t = none := h.not_fenced _
  have hstrip : strip t = t := by
    have hbare := h.strip_eq isMargin_nil isMargin_nil
    rwa [List.nil_append, List.append_nil] at hbare
  have hright : stripRight t = t := by
    obtain ⟨inner, rfl⟩ := h
    have hbare := stripRight_margin (s := '\x7b' :: inner) isMargin_nil
      (show isBlank '\x7d' = false by decide)
    rwa [List.append_nil] at hbare
  unfold stripFences
  dsimp only
  rw [hinside, hnamed]
  dsimp only
  rw [hplain]
  dsimp only
  rw [hright, h.dropLastFence_eq, hstrip]

/-- Between margins and without fences. -/
theorem stripFences_bare {left right : List Char} (h : Braced t)
    (hleft : IsMargin left) (hright : IsMargin right) :
    stripFences (left ++ t ++ right) = t := by
  have hplain : after? fence t = none := h.not_fenced _
  refine stripFences_of_inside h ?_
  rw [h.strip_eq hleft hright, fenced?, hplain]
  rfl

/-- A block of code that holds a text; its first line may name the format. -/
def block (isNamed : Bool) (s : List Char) : List Char :=
  fence ++ (if isNamed then "json".toList else []) ++ s ++ fence

/-- A block begins with a mark and ends with one. -/
theorem exists_block (isNamed : Bool) (s : List Char) :
    ∃ inner, block isNamed s = '\x60' :: inner ++ ['\x60'] := by
  refine ⟨['\x60', '\x60'] ++ (if isNamed then "json".toList else []) ++ s
    ++ ['\x60', '\x60'], ?_⟩
  change ['\x60', '\x60', '\x60'] ++ _ ++ s ++ ['\x60', '\x60', '\x60'] = _
  simp only [List.append_assoc, List.cons_append, List.nil_append]

/-- A block holds what stands in it, without the name of the format. -/
theorem fenced?_block (isNamed : Bool) (s : List Char) :
    fenced? (block isNamed s) = some (strip (dropStart "json".toList
      ((if isNamed then "json".toList else []) ++ s))) := by
  generalize hbody : (if isNamed then "json".toList else []) ++ s = body
  have hafter : after? fence (block isNamed s) = some (body ++ fence) := by
    rw [after?_eq_some_iff, block, ← hbody]
    simp only [List.append_assoc]
  have hsuffix : fence.isSuffixOf (body ++ fence) = true :=
    List.isSuffixOf_iff_suffix.mpr (List.suffix_append body fence)
  have hdrop : dropLastFence (body ++ fence) = body := by
    rw [dropLastFence, if_pos hsuffix, List.length_append,
      Nat.add_sub_cancel, List.take_left]
  rw [fenced?, hafter]
  change (guard (fence.isSuffixOf (body ++ fence) = true) >>= fun _ =>
    some (strip (dropStart _ (dropLastFence (body ++ fence))))) = _
  rw [hsuffix, hdrop]
  rfl

/-- Between margins in a block, and that between margins. -/
theorem stripFences_block {left right before behind : List Char}
    (isNamed : Bool) (h : Braced t) (hleft : IsMargin left)
    (hbefore : IsMargin before) (hbehind : IsMargin behind)
    (hright : IsMargin right) :
    stripFences (left ++ block isNamed (before ++ t ++ behind) ++ right)
      = t := by
  refine stripFences_of_inside h ?_
  have hstrip : strip (left ++ block isNamed (before ++ t ++ behind) ++ right)
      = block isNamed (before ++ t ++ behind) := by
    obtain ⟨inner, hinner⟩ := exists_block isNamed (before ++ t ++ behind)
    rw [hinner]
    exact strip_margins hleft (by decide) (by decide) hright
  rw [hstrip, fenced?_block, Option.getD_some]
  have hdrop : dropStart "json".toList
      ((if isNamed then "json".toList else []) ++ (before ++ t ++ behind))
      = before ++ t ++ behind := by
    rw [dropStart]
    cases isNamed with
    | true => rw [if_pos rfl, after?_eq_some_iff.mpr rfl, Option.getD_some]
    | false =>
        have hnone : after? "json".toList (before ++ t ++ behind) = none :=
          h.after?_eq (x := 'j') hbefore (by decide) (by decide) _ behind
        rw [if_neg Bool.false_ne_true, List.nil_append, hnone,
          Option.getD_none]
  rw [hdrop, h.strip_eq hbefore hbehind]

-- ============================================================ recovering

/-- What may stand between the parts of JSON is blank. -/
theorem isBlank_of_isSpace {c : Char} (h : Json.isSpace c = true) :
    isBlank c = true := by
  simp only [Json.isSpace, Bool.or_eq_true, beq_iff_eq] at h
  rcases h with ((rfl | rfl) | rfl) | rfl <;> decide

/-- What is read as an object is a text in braces between margins, and that
is read as the same object. -/
theorem exists_braced_of_read {t : List Char}
    {entries : List (Value × Value)}
    (h : Json.read t = .ok (.map entries)) :
    ∃ core left right, t = left ++ core ++ right ∧ Braced core
      ∧ IsMargin left ∧ IsMargin right
      ∧ Json.read core = .ok (.map entries) := by
  obtain ⟨before, inner, behind, ht, hbefore, hbehind, hread⟩ :=
    Json.exists_object_of_read h
  exact ⟨_, before, behind, ht, ⟨inner, rfl⟩,
    fun c hc => isBlank_of_isSpace (hbefore c hc),
    fun c hc => isBlank_of_isSpace (hbehind c hc), hread⟩

/-- The JSON of a reply that is JSON without its fences. -/
theorem json?_of_read {v : Value} (h : Json.read (stripFences s) = .ok v) :
    json? (String.ofList s) = .ok (some v) := by
  rw [json?, String.toList_ofList, readJson?, h]
  rfl

/-- The JSON of a reply that is none without its fences. -/
theorem json?_of_braced {span : List Char} {v : Value} {cause : Json.Cause}
    {offset : Nat}
    (hclean : Json.read (stripFences s) = .error (.malformed cause offset))
    (hspan : braced? s = some span) (h : Json.read span = .ok v) :
    json? (String.ofList s) = .ok (some v) := by
  rw [← braced?_stripFences] at hspan
  rw [json?, String.toList_ofList]
  refine Steps.bind_eq_ok.mpr
    ⟨none, readJson?_eq_none_iff.mpr ⟨cause, offset, hclean⟩, ?_⟩
  dsimp only
  rw [hspan]
  dsimp only
  rw [readJson?, h]

/-- A text as a reply of its own: bare, or in a block of code that may name
the format, with blanks around it and around the block. -/
inductive Wraps (t : List Char) : List Char → Prop where
  | bare {left right : List Char} (hleft : IsMargin left)
      (hright : IsMargin right) : Wraps t (left ++ t ++ right)
  | fenced {left right before behind : List Char} (isNamed : Bool)
      (hleft : IsMargin left) (hbefore : IsMargin before)
      (hbehind : IsMargin behind) (hright : IsMargin right) :
      Wraps t (left ++ block isNamed (before ++ t ++ behind) ++ right)

/-- What is left of a wrapped text is all of it but its margins. -/
theorem stripFences_of_wraps {core left right : List Char}
    (hcore : Braced core) (hleft : IsMargin left) (hright : IsMargin right)
    (h : Wraps (left ++ core ++ right) s) : stripFences s = core := by
  -- the margins of the text and those around it are margins together
  have hmerge : ∀ left' right' : List Char,
      left' ++ (left ++ core ++ right) ++ right'
        = (left' ++ left) ++ core ++ (right ++ right') := by
    intro left' right'
    simp only [List.append_assoc]
  cases h with
  | bare hleft' hright' =>
      rw [hmerge]
      exact stripFences_bare hcore (hleft'.append hleft)
        (hright.append hright')
  | fenced isNamed hleft' hbefore hbehind hright' =>
      rw [hmerge]
      exact stripFences_block isNamed hcore hleft' (hbefore.append hleft)
        (hright.append hbehind) hright'

/-- Replies with the same JSON in them are the same verdict. -/
theorem ofReply_congr {reply reply' : String}
    (h : json? reply = json? reply') :
    Verdict.ofReply reply = Verdict.ofReply reply' := by
  rw [Verdict.ofReply, Verdict.ofReply, h]

/-- The resolver reads what the backend answers. -/
theorem run_resolve_of_ok {endpoints : List Endpoint}
    {utterance reply : String}
    {backend : Phase → Question → Except Failure String}
    (engine : Phase → Endpoint → Arguments → Except Failure Outcome)
    (h : backend .resolving (analysisQuestion endpoints utterance)
      = .ok reply) :
    (resolve endpoints utterance).run (m := Id) backend engine
      = Intent.ofReply endpoints reply := by
  rw [run_resolve, h]
  exact pure_bind reply (Intent.ofReply endpoints)

/-- Every text that is read as an object is found again in a reply. Bare or in
a block of code, with any blanks around it, the reply is that object, whatever
its texts hold; so all of these replies are the same verdict, and an utterance
comes to the same intent whichever of them the backend gives. Between prose
without an opening brace before it and without a closing one behind it the
reply is that object too, unless it is something else when its fences are
off. -/
theorem object_recovered {t : List Char} {entries : List (Value × Value)}
    (h : Json.read t = .ok (.map entries)) :
    (∀ s, Wraps t s →
        json? (String.ofList s) = .ok (some (.map entries)))
      ∧ (∀ s s', Wraps t s → Wraps t s' →
          Verdict.ofReply (String.ofList s)
              = Verdict.ofReply (String.ofList s')
            ∧ ∀ endpoints utterance
                (backend backend' :
                  Phase → Question → Except Failure String)
                (engine engine' :
                  Phase → Endpoint → Arguments → Except Failure Outcome),
                backend .resolving (analysisQuestion endpoints utterance)
                  = .ok (String.ofList s) →
                backend' .resolving (analysisQuestion endpoints utterance)
                  = .ok (String.ofList s') →
                (resolve endpoints utterance).run (m := Id) backend engine
                  = (resolve endpoints utterance).run (m := Id) backend'
                      engine')
      ∧ ∀ (before behind : List Char) (cause : Json.Cause) (offset : Nat),
          '\x7b' ∉ before → '\x7d' ∉ behind →
          Json.read (stripFences (before ++ t ++ behind))
            = .error (.malformed cause offset) →
          json? (String.ofList (before ++ t ++ behind))
            = .ok (some (.map entries)) := by
  obtain ⟨core, left, right, rfl, hcore, hleft, hright, hread⟩ :=
    exists_braced_of_read h
  have hwraps : ∀ s, Wraps (left ++ core ++ right) s →
      json? (String.ofList s) = .ok (some (.map entries)) := by
    intro s hs
    refine json?_of_read ?_
    rw [stripFences_of_wraps hcore hleft hright hs, hread]
  refine ⟨hwraps, fun s s' hs hs' => ?_,
    fun before behind cause offset hbefore hbehind hclean => ?_⟩
  · have hsame := ofReply_congr ((hwraps s hs).trans (hwraps s' hs').symm)
    refine ⟨hsame, fun endpoints utterance backend backend' engine engine'
      hanswer hanswer' => ?_⟩
    rw [run_resolve_of_ok engine hanswer, run_resolve_of_ok engine' hanswer',
      Intent.ofReply, Intent.ofReply, hsame]
  · have hspan : braced? (before ++ (left ++ core ++ right) ++ behind)
        = some core := by
      have hbare : Peels (left ++ core ++ right) core :=
        ⟨left, right, rfl, (not_mem_of_isMargin hleft).1,
          (not_mem_of_isMargin hright).2⟩
      have hpeels : Peels (before ++ (left ++ core ++ right) ++ behind) _ :=
        ⟨before, behind, rfl, hbefore, hbehind⟩
      rw [← (hpeels.trans hbare).braced?_eq, hcore.braced?_eq]
    exact json?_of_braced hclean hspan hread

/-- An object with a fence and braces in one of its texts. -/
def markedObject : List Char :=
  "\x7b\"shouldExecute\": false, \"reasoning\": \"\x60\x60\x60\x7d\x7b\"\x7d".toList

/-- The marked object is found in a block of code, and in prose with marks of
its own. -/
theorem object_recovered_marked :
    json? (String.ofList (['\n'] ++ block true (['\n'] ++ markedObject ++ ['\n'])
        ++ [' ']))
      = .ok (some (.map [(.text "shouldExecute", .bool false),
          (.text "reasoning", .text "\x60\x60\x60\x7d\x7b")]))
      ∧ json? (String.ofList ("Sure \x60\x60\x60json ".toList ++ markedObject
          ++ " \x60\x60\x60 \x7b done".toList))
        = .ok (some (.map [(.text "shouldExecute", .bool false),
            (.text "reasoning", .text "\x60\x60\x60\x7d\x7b")])) := by
  have hread : Json.read markedObject
      = .ok (.map [(.text "shouldExecute", .bool false),
          (.text "reasoning", .text "\x60\x60\x60\x7d\x7b")]) := by
    rfl
  obtain ⟨hwraps, -, hprose⟩ := object_recovered hread
  refine ⟨hwraps _ (.fenced true ?_ ?_ ?_ ?_),
    hprose _ _ .value 0 (by decide) (by decide) rfl⟩
  all_goals
    intro c hc
    cases List.mem_singleton.mp hc
    decide

end Toolsmith.Chat
