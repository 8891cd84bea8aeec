/-
Which replies of a model end in a failure. Text that is no JSON, and JSON
that is no verdict, make an intent that calls nothing; what is left are the
limits of the JSON reader and a confidence beyond the doubles. Both are
conditions on the reply, and a reply with short numbers and few openings
can only fail by its confidence.
-/
import Toolsmith.Chat.Conversation
import Toolsmith.Proofs.Json.Limits
import Toolsmith.Proofs.Number.Rounding
import Toolsmith.Proofs.Text.Parts

namespace Toolsmith.Chat

open Text

-- ======================================================== parts of a text

/-- Dropping the start of a text leaves a suffix. -/
theorem dropStart_suffix (start s : List Char) : dropStart start s <:+ s := by
  rw [dropStart]
  cases h : after? start s with
  | none => exact List.suffix_refl s
  | some rest => exact suffix_of_after? h

/-- Dropping a fence at the end leaves a prefix. -/
theorem dropLastFence_isPrefix (s : List Char) : dropLastFence s <+: s := by
  rw [dropLastFence]
  split
  · exact List.take_prefix _ s
  · exact List.prefix_refl s

/-- What stands between two fences stands in the text. -/
theorem infix_of_fenced? {s inside : List Char}
    (h : fenced? s = some inside) : inside <:+: s := by
  rw [fenced?] at h
  obtain ⟨rest, hrest, h⟩ := Option.bind_eq_some_iff.mp h
  obtain ⟨_, _, h⟩ := Option.bind_eq_some_iff.mp h
  cases h
  exact (strip_isInfix _).trans
    ((dropStart_suffix _ _).isInfix.trans
      ((dropLastFence_isPrefix rest).isInfix.trans
        (suffix_of_after? hrest).isInfix))

/-- A text without its fences stands in the text. -/
theorem stripFences_isInfix (s : List Char) : stripFences s <:+: s := by
  have hfenced : (fenced? (strip s)).getD (strip s) <:+: strip s := by
    cases h : fenced? (strip s) with
    | none => exact List.infix_refl _
    | some inside => exact infix_of_fenced? h
  have hopened : ∀ {start t rest : List Char}, after? start t = some rest →
      t <:+: s → stripLeft rest <:+: s := fun h ht =>
    ((List.dropWhile_suffix _).trans (suffix_of_after? h)).isInfix.trans ht
  have hinner := hfenced.trans (strip_isInfix s)
  rw [stripFences]
  refine (strip_isInfix _).trans ((dropLastFence_isPrefix _).isInfix.trans
    ((stripRight_isPrefix _).isInfix.trans ?_))
  cases hjson : after? (fence ++ "json".toList)
      ((fenced? (strip s)).getD (strip s)) with
  | none =>
      dsimp only
      split
      next rest hplain => exact hopened hplain hinner
      · exact hinner
  | some inside =>
      have hinside := hopened hjson hinner
      dsimp only
      split
      next rest hplain => exact hopened hplain hinside
      · exact hinside

/-- What stands between the outermost braces stands in the text. -/
theorem infix_of_braced? {s span : List Char} (h : braced? s = some span) :
    span <:+: s := by
  rw [braced?] at h
  split at h
  · cases h
  cases h
  refine List.IsInfix.trans ?_ (List.dropWhile_suffix (· != '\x7b')).isInfix
  rw [← List.reverse_infix, List.reverse_reverse]
  exact (List.dropWhile_suffix _).isInfix

-- ============================================================== escapes

/-- The text goes beyond a limit of the JSON reader. -/
def Oversized (s : List Char) (fault : Json.Fault) : Prop :=
  Json.read s = .error fault
    ∧ ∀ cause offset, fault ≠ .malformed cause offset

/-- The reply of a model ends in the given failure: the reply or its braced
part is too much for the JSON reader, or its confidence is too large an
integer for a double. -/
inductive Escapes (reply : String) : Failure → Prop where
  /-- The reply without fences goes beyond a limit. -/
  | whole {fault : Json.Fault}
      (h : Oversized (stripFences reply.toList) fault) :
      Escapes reply (.ofJson fault)
  /-- The reply is no JSON, and its braced part goes beyond a limit. -/
  | span {cause : Json.Cause} {offset : Nat} {inner : List Char}
      {fault : Json.Fault}
      (hclean : Json.read (stripFences reply.toList)
        = .error (.malformed cause offset))
      (hspan : braced? (stripFences reply.toList) = some inner)
      (h : Oversized inner fault) :
      Escapes reply (.ofJson fault)
  /-- The reply decides, with a confidence beyond the doubles. -/
  | confidence {entries : List (Value × Value)} {n : Int}
      (hjson : json? reply = .ok (some (.map entries)))
      (hdecided : (Value.entry? "shouldExecute" entries).isSome = true)
      (hstated : Value.entry? "confidence" entries = some (.int n))
      (hsize : 2 ^ 1024 - 2 ^ 970 ≤ n.natAbs) :
      Escapes reply (.misuse .size)

/-- Reading JSON fails exactly at a limit of the reader. -/
theorem readJson?_eq_error_iff {s : List Char} {failure : Failure} :
    readJson? s = .error failure
      ↔ ∃ fault, Oversized s fault ∧ failure = .ofJson fault := by
  rw [readJson?]
  constructor
  · intro h
    split at h
    · cases h
    · cases h
    next fault hmalformed hread =>
      cases h
      exact ⟨fault, ⟨hread, hmalformed⟩, rfl⟩
  · rintro ⟨fault, ⟨hread, hmalformed⟩, rfl⟩
    rw [hread]
    cases fault with
    | malformed cause offset => exact absurd rfl (hmalformed cause offset)
    | integerTooLong digits => rfl
    | tooDeep isMapping => rfl

/-- Reading JSON finds none exactly in a malformed text. -/
theorem readJson?_eq_none_iff {s : List Char} :
    readJson? s = .ok none
      ↔ ∃ cause offset, Json.read s = .error (.malformed cause offset) := by
  rw [readJson?]
  constructor
  · intro h
    split at h
    · cases h
    next cause offset hread => exact ⟨cause, offset, hread⟩
    · cases h
  · rintro ⟨cause, offset, hread⟩
    rw [hread]

/-- Finding JSON in a reply fails exactly at a limit of the reader. -/
theorem json?_eq_error_iff {reply : String} {failure : Failure} :
    json? reply = .error failure
      ↔ (∃ fault, Oversized (stripFences reply.toList) fault
          ∧ failure = .ofJson fault)
        ∨ ∃ cause offset inner fault,
            Json.read (stripFences reply.toList)
              = .error (.malformed cause offset)
            ∧ braced? (stripFences reply.toList) = some inner
            ∧ Oversized inner fault ∧ failure = .ofJson fault := by
  rw [json?, Steps.bind_eq_error, readJson?_eq_error_iff]
  refine or_congr_right ⟨?_, ?_⟩
  · rintro ⟨found, hfound, h⟩
    cases found with
    | some v => cases h
    | none =>
        obtain ⟨cause, offset, hread⟩ := readJson?_eq_none_iff.mp hfound
        cases hspan : braced? (stripFences reply.toList) with
        | none =>
            rw [hspan] at h
            cases h
        | some inner =>
            rw [hspan] at h
            obtain ⟨fault, hsize, hfault⟩ := readJson?_eq_error_iff.mp h
            exact ⟨cause, offset, inner, fault, hread, rfl, hsize, hfault⟩
  · rintro ⟨cause, offset, inner, fault, hread, hspan, hsize, hfault⟩
    refine ⟨none, readJson?_eq_none_iff.mpr ⟨cause, offset, hread⟩, ?_⟩
    rw [hspan]
    exact readJson?_eq_error_iff.mpr ⟨fault, hsize, hfault⟩

/-- A confidence is a failure exactly if it is an integer beyond the
doubles. -/
theorem confidenceOf_eq_error_iff {v : Value} {failure : Failure} :
    Verdict.confidenceOf v = .error failure
      ↔ ∃ n, v = .int n ∧ 2 ^ 1024 - 2 ^ 970 ≤ n.natAbs
          ∧ failure = .misuse .size := by
  cases v with
  | int n =>
      rw [Verdict.confidenceOf]
      constructor
      · intro h
        split at h
        next negative hbeyond =>
          cases h
          exact ⟨n, rfl,
            (Binary64.ofInt_eq_infinity_iff n).mp ⟨negative, hbeyond⟩, rfl⟩
        · cases h
      · rintro ⟨_, ⟨⟩, hsize, rfl⟩
        obtain ⟨negative, hbeyond⟩ :=
          (Binary64.ofInt_eq_infinity_iff n).mpr hsize
        rw [hbeyond]
  | _ =>
      constructor
      · intro h
        cases h
      · rintro ⟨_, ⟨⟩, _⟩

/-- A reply is read unless it escapes. -/
theorem ofReply_eq_error_iff {reply : String} {failure : Failure} :
    Verdict.ofReply reply = .error failure ↔ Escapes reply failure := by
  rw [Verdict.ofReply, Steps.bind_eq_error, json?_eq_error_iff]
  constructor
  · rintro ((⟨fault, h, rfl⟩ | ⟨_, _, _, fault, hread, hspan, h, rfl⟩)
      | ⟨found, hjson, h⟩)
    · exact .whole h
    · exact .span hread hspan h
    · split at h
      next entries =>
        split at h
        · cases h
        next hdecided =>
        rcases Steps.bind_eq_error.mp h with hconf | ⟨confidence, _, h⟩
        · obtain ⟨n, hn, hsize, rfl⟩ := confidenceOf_eq_error_iff.mp hconf
          have hsome : (Value.entry? "shouldExecute" entries).isSome = true :=
            Option.isSome_iff_ne_none.mpr (by simpa using hdecided)
          refine .confidence hjson hsome ?_ hsize
          cases hstated : Value.entry? "confidence" entries with
          | none =>
              rw [hstated] at hn
              cases hn
          | some stated =>
              rw [hstated] at hn
              exact congrArg some hn
        · split at h <;> cases h
      · cases h
  · intro h
    cases h with
    | whole h => exact Or.inl (Or.inl ⟨_, h, rfl⟩)
    | span hread hspan h =>
        exact Or.inl (Or.inr ⟨_, _, _, _, hread, hspan, h, rfl⟩)
    | @confidence entries n hjson hdecided hstated hsize =>
        refine Or.inr ⟨_, hjson, ?_⟩
        have hsome : (Value.entry? "shouldExecute" entries).isNone = false := by
          simpa using hdecided
        have hconf : Verdict.confidenceOf (.int n) = .error (.misuse .size) :=
          confidenceOf_eq_error_iff.mpr ⟨n, rfl, hsize, rfl⟩
        dsimp only
        rw [hsome, if_neg Bool.false_ne_true, hstated, Option.getD_some, hconf]
        rfl

/-- The intent of a reply fails exactly as the reply does. -/
theorem intent_eq_error_iff {endpoints : List Endpoint} {reply : String}
    {failure : Failure} :
    Intent.ofReply endpoints reply = .error failure
      ↔ Escapes reply failure := by
  rw [Intent.ofReply, Steps.bind_eq_error, ofReply_eq_error_iff]
  refine or_iff_left ?_
  rintro ⟨reading, _, h⟩
  cases reading <;> cases h

/-- What goes beyond a limit shows in every text around it. -/
theorem Oversized.bears {s t : List Char} {fault : Json.Fault}
    (h : Oversized s fault) (hin : s <:+: t) :
    (∃ run, run <:+: t ∧ Number.digitLimit < run.length
        ∧ ∀ c ∈ run, isAsciiDigit c = true)
      ∨ Json.depthLimit < t.countP Json.isOpening := by
  have hbears := Json.bears_of_read_eq_error h.1
  cases fault with
  | malformed cause offset => exact absurd rfl (h.2 cause offset)
  | integerTooLong digits =>
      obtain ⟨hlimit, run, hrun, rfl, hdigits⟩ := hbears
      exact Or.inl ⟨run, hrun.trans hin, hlimit, hdigits⟩
  | tooDeep isMapping =>
      exact Or.inr (Nat.lt_of_lt_of_le hbears hin.sublist.countP_le)

/-- A reply in which no number is too long and not too much is opened
escapes by its confidence alone. -/
theorem Escapes.eq_size {reply : String} {failure : Failure}
    (h : Escapes reply failure)
    (hdigits : ∀ run, run <:+: reply.toList →
      (∀ c ∈ run, isAsciiDigit c = true) → run.length ≤ Number.digitLimit)
    (hdepth : reply.toList.countP Json.isOpening ≤ Json.depthLimit) :
    failure = .misuse .size := by
  have hfits : ∀ {s : List Char} {fault : Json.Fault}, Oversized s fault →
      ¬ s <:+: reply.toList := by
    intro s fault hsize hin
    rcases hsize.bears hin with ⟨run, hrun, hlimit, hall⟩ | hdeep
    · exact absurd (hdigits run hrun hall) (Nat.not_le.mpr hlimit)
    · exact absurd hdepth (Nat.not_le.mpr hdeep)
  cases h with
  | whole h => exact absurd (stripFences_isInfix _) (hfits h)
  | span _ hspan h =>
      exact absurd ((infix_of_braced? hspan).trans (stripFences_isInfix _))
        (hfits h)
  | confidence => rfl

-- ============================================================ resolving

/-- The answer of a resolver is the answer of the backend, read. -/
theorem run_resolve (endpoints : List Endpoint) (utterance : String)
    (backend : Phase → Question → Except Failure String)
    (engine : Phase → Endpoint → Arguments → Except Failure Outcome) :
    (resolve endpoints utterance).run (m := Id) backend engine
      = (backend .resolving (analysisQuestion endpoints utterance)
          >>= Intent.ofReply endpoints) :=
  rfl

/-- A reply that is no verdict makes an intent that calls nothing. -/
theorem intent_of_malformed {endpoints : List Endpoint} {reply : String}
    {why : Malformed} (h : Verdict.ofReply reply = .ok (.malformed why)) :
    ∃ i, Intent.ofReply endpoints reply = .ok i
      ∧ i.shouldExecute = false := by
  refine ⟨⟨Intent.zero, none, [], none⟩, ?_, rfl⟩
  rw [Intent.ofReply, h]
  rfl

/-- What can go wrong between an utterance and its intent, for every catalog,
utterance and backend. The resolver fails as the backend does, or because
the reply escapes; a reply is read as a verdict or as malformed exactly if
it does not escape, and a malformed one makes an intent that calls nothing.
A reply in which no number is longer than the reader takes, and no more is
opened than it follows, can escape by its confidence alone. -/
theorem resolve_failures (endpoints : List Endpoint) (utterance : String)
    (backend : Phase → Question → Except Failure String)
    (engine : Phase → Endpoint → Arguments → Except Failure Outcome) :
    let answer := backend .resolving (analysisQuestion endpoints utterance)
    let result := (resolve endpoints utterance).run (m := Id) backend engine
    (∀ failure, result = .error failure ↔ answer = .error failure
        ∨ ∃ reply, answer = .ok reply ∧ Escapes reply failure)
      ∧ (∀ reply failure,
          Verdict.ofReply reply = .error failure ↔ Escapes reply failure)
      ∧ (∀ reply why, answer = .ok reply →
          Verdict.ofReply reply = .ok (.malformed why) →
          ∃ i, result = .ok i ∧ i.shouldExecute = false)
      ∧ ∀ reply failure, Escapes reply failure →
          (∀ run, run <:+: reply.toList →
            (∀ c ∈ run, isAsciiDigit c = true) →
            run.length ≤ Number.digitLimit) →
          reply.toList.countP Json.isOpening ≤ Json.depthLimit →
          failure = .misuse .size := by
  intro answer result
  have hresult : result = answer >>= Intent.ofReply endpoints :=
    run_resolve endpoints utterance backend engine
  refine ⟨fun failure => ?_, fun reply failure => ofReply_eq_error_iff,
    fun reply why hanswer hmalformed => ?_,
    fun reply failure h hdigits hdepth => h.eq_size hdigits hdepth⟩
  · rw [hresult, Steps.bind_eq_error]
    simp only [intent_eq_error_iff]
  · obtain ⟨i, hi, hnone⟩ := intent_of_malformed hmalformed
    refine ⟨i, ?_, hnone⟩
    rw [hresult]
    exact Steps.bind_eq_ok.mpr ⟨reply, hanswer, hi⟩

/-- A reply whose confidence is ten to the power of 309. -/
def hugeConfidence : String :=
  String.ofList ("\x7b\"shouldExecute\": true, \"confidence\": 1".toList
    ++ List.replicate 309 '0' ++ ['\x7d'])

/-- Not every reply is read: this one escapes. -/
theorem ofReply_hugeConfidence :
    ¬ ∀ reply, ∃ reading, Verdict.ofReply reply = .ok reading := by
  intro hall
  obtain ⟨reading, hreading⟩ := hall hugeConfidence
  have hrun : (Verdict.ofReply hugeConfidence).toOption.isSome = false := by
    decide +kernel
  rw [hreading] at hrun
  cases hrun

end Toolsmith.Chat
