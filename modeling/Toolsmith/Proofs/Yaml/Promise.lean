/-
Which node is to blame if a YAML document has a scalar without a value. The
fault of a document is that of one of its nodes: a scalar whose text has no
value under its kind, or a mapping that stands for such a text. Depths decide
which of several faults counts, but they make none; and taking over the
entries of other mappings moves faults about within the node that does it.
-/
import Toolsmith.Proofs.Steps
import Toolsmith.Yaml.Meaning

namespace Toolsmith.Yaml

/-- A node breaks the promise of a tag: it is a scalar whose text has no value
under its kind, it is a mapping that stands for such a text or for one that is
asked for a moment, or it holds a node that breaks one. -/
inductive Node.Breaks (cause : ScalarFault) : Node → Prop where
  | scalar {number : Nat} {kind : Kind} {text : List Char}
      (h : scalarValue kind text = .error (.scalar cause)) :
      Breaks cause (.scalar number kind text)
  | item {number : Nat} {kind : Kind} {items : List Node} {n : Node}
      (hn : n ∈ items) (h : n.Breaks cause) :
      Breaks cause (.sequence number kind items)
  | key {number : Nat} {kind : Kind} {entries : List (Node × Node)}
      {e : Node × Node} (he : e ∈ entries) (h : e.1.Breaks cause) :
      Breaks cause (.mapping number kind entries)
  | value {number : Nat} {kind : Kind} {entries : List (Node × Node)}
      {e : Node × Node} (he : e ∈ entries) (h : e.2.Breaks cause) :
      Breaks cause (.mapping number kind entries)
  | text {number : Nat} {kind : Kind} {entries : List (Node × Node)}
      {text : List Char} (htext : valueText? entries = some text)
      (h : scalarValue kind text = .error (.scalar cause)) :
      Breaks cause (.mapping number kind entries)
  | moment {number : Nat} {entries : List (Node × Node)} {text : List Char}
      (htext : valueText? entries = some text) (h : cause = .noText) :
      Breaks cause (.mapping number .timestamp entries)

/-- One of the entries breaks a promise, in its key or in its value. -/
def EntryBreaks (entries : List (Node × Node)) (cause : ScalarFault) : Prop :=
  ∃ e ∈ entries, e.1.Breaks cause ∨ e.2.Breaks cause

/-- One of the nodes breaks a promise. -/
def ItemBreaks (items : List Node) (cause : ScalarFault) : Prop :=
  ∃ n ∈ items, n.Breaks cause

-- ============================================================== blame

/-- A scalar has no value for want of a meaning or for a fault of its own. -/
theorem fault_of_scalarValue {kind : Kind} {text : List Char} {fault : Fault}
    (h : scalarValue kind text = .error fault) :
    fault = .meaning ∨ ∃ cause, fault = .scalar cause := by
  have hown : ∀ {x : Except ScalarFault Value},
      x.mapError Fault.scalar = .error fault →
        fault = .meaning ∨ ∃ cause, fault = .scalar cause := by
    intro x hx
    cases x with
    | ok v => cases hx
    | error cause =>
        cases hx
        exact Or.inr ⟨cause, rfl⟩
  cases kind with
  | bool | int | float | timestamp => exact hown h
  | null | str => cases h
  | binary =>
      unfold scalarValue at h
      dsimp only at h
      split at h
      · split at h
        · cases h
        · cases h
          exact Or.inl rfl
      · cases h
        exact Or.inl rfl
  | _ =>
      cases h
      exact Or.inl rfl

/-- Why a value is missing: for want of a meaning, or for the sake of a scalar
that there is. -/
inductive Lacks (p : ScalarFault → Prop) : Fault → Prop where
  | meaning : Lacks p .meaning
  | scalar {cause : ScalarFault} (h : p cause) : Lacks p (.scalar cause)

/-- If a value is missing for the sake of a scalar, there is one to blame. -/
structure Blames {α : Type} (x : Judged α) (p : ScalarFault → Prop) :
    Prop where
  lacks : ∀ {depth fault}, x = .error (depth, fault) → Lacks p fault

namespace Blames

variable {α β : Type} {p q : ScalarFault → Prop} {x : Judged α}

theorem ok (a : α) : Blames (.ok a) p := ⟨fun h => by cases h⟩

theorem meaning (depth : Nat) :
    Blames (.error (depth, .meaning) : Judged α) p :=
  ⟨fun h => by cases h; exact .meaning⟩

theorem mono (h : Blames x p) (hpq : ∀ {cause}, p cause → q cause) :
    Blames x q where
  lacks heq := by
    cases h.lacks heq with
    | meaning => exact .meaning
    | scalar hp => exact .scalar (hpq hp)

theorem map (h : Blames x p) (f : α → β) : Blames (x.map f) p where
  lacks heq := by
    cases x with
    | ok a => cases heq
    | error e =>
        cases heq
        exact h.lacks rfl

theorem both {y : Judged β} (hx : Blames x p) (hy : Blames y p) :
    Blames (x.both y) p where
  lacks heq := by
    cases x with
    | ok a =>
        cases y with
        | ok b => cases heq
        | error f =>
            cases heq
            exact hy.lacks rfl
    | error e =>
        cases y with
        | ok b =>
            cases heq
            exact hx.lacks rfl
        | error f =>
            unfold Judged.both at heq
            dsimp only at heq
            split at heq
            · cases heq
              exact hy.lacks rfl
            · cases heq
              exact hx.lacks rfl

theorem all {xs : List (Judged α)} (h : ∀ x ∈ xs, Blames x p) :
    Blames (Judged.all xs) p := by
  induction xs with
  | nil => exact ok []
  | cons x rest ih =>
      obtain ⟨hx, hrest⟩ := List.forall_mem_cons.mp h
      exact (hx.both (ih hrest)).map _

/-- A scalar without a value is put at its depth. -/
theorem scalarValue {kind : Kind} {text : List Char} {depth : Nat}
    (h : ∀ {cause}, scalarValue kind text = .error (.scalar cause) →
      p cause) :
    Blames ((scalarValue kind text).mapError (depth, ·)) p where
  lacks heq := by
    cases hvalue : Yaml.scalarValue kind text with
    | ok v =>
        rw [hvalue] at heq
        cases heq
    | error fault =>
        rw [hvalue] at heq
        cases heq
        rcases fault_of_scalarValue hvalue with rfl | ⟨cause, rfl⟩
        · exact .meaning
        · exact .scalar (h hvalue)

theorem judgeEntry {depth : Nat} {node : Node} {k v : Judged Value}
    (hk : Blames k p) (hv : Blames v p) :
    Blames (judgeEntry depth node k v) p := by
  refine (both ⟨fun heq => ?_⟩ hv).map _
  rcases Steps.bind_eq_error.mp heq with heq | ⟨key, -, heq⟩
  · exact hk.lacks heq
  · split at heq
    · cases heq
    · cases heq
      exact .meaning

end Blames

/-- All of the parts that come out have somebody to blame, or there are none
for want of a meaning. -/
structure BlamesAll {α : Type} (parts : α → List (Judged Entry))
    (x : Except Fault α) (p : ScalarFault → Prop) : Prop where
  ok : ∀ {a}, x = .ok a → ∀ e ∈ parts a, Blames e p
  error : ∀ {fault}, x = .error fault → fault = .meaning

namespace BlamesAll

variable {α β : Type} {p q : ScalarFault → Prop} {x : Except Fault α}
  {parts : α → List (Judged Entry)} {parts' : β → List (Judged Entry)}

theorem pure {a : α} (h : ∀ e ∈ parts a, Blames e p) :
    BlamesAll parts (.ok a) p where
  ok heq := by cases heq; exact h
  error heq := by cases heq

theorem refuse : BlamesAll parts (.error .meaning) p where
  ok heq := by cases heq
  error heq := by cases heq; rfl

theorem mono (h : BlamesAll parts x p) (hpq : ∀ {cause}, p cause → q cause) :
    BlamesAll parts x q where
  ok heq e he := (h.ok heq e he).mono hpq
  error := h.error

theorem bind {f : α → Except Fault β} (hx : BlamesAll parts x p)
    (hf : ∀ a, (∀ e ∈ parts a, Blames e p) → BlamesAll parts' (f a) p) :
    BlamesAll parts' (x >>= f) p where
  ok h := by
    obtain ⟨a, ha, h⟩ := Steps.bind_eq_ok.mp h
    exact (hf a (hx.ok ha)).ok h
  error h := by
    rcases Steps.bind_eq_error.mp h with h | ⟨a, ha, h⟩
    · exact hx.error h
    · exact (hf a (hx.ok ha)).error h

end BlamesAll

/-- All entries: those that are taken over and the own ones. -/
def Entries.all (es : Entries) : List (Judged Entry) := es.merged ++ es.own

/-- A mapping blames its entries. -/
theorem blames_mappingValue {kind : Kind} {depth : Nat}
    {es : Except Fault Entries} {p : ScalarFault → Prop}
    (h : BlamesAll Entries.all es p) :
    Blames (mappingValue kind depth es) p := by
  unfold mappingValue
  split
  next e =>
    cases h.error rfl
    exact .meaning depth
  next es => exact (Blames.all (h.ok rfl)).map _

/-- An entry that breaks a promise makes its mapping break it. -/
theorem EntryBreaks.mapping {entries : List (Node × Node)}
    {cause : ScalarFault} (h : EntryBreaks entries cause) (number : Nat)
    (kind : Kind) : (Node.mapping number kind entries).Breaks cause := by
  obtain ⟨e, he, h | h⟩ := h
  · exact .key he h
  · exact .value he h

theorem ItemBreaks.cons {items : List Node} {cause : ScalarFault}
    (h : ItemBreaks items cause) (n : Node) : ItemBreaks (n :: items) cause :=
  let ⟨m, hm, hbreaks⟩ := h
  ⟨m, List.mem_cons_of_mem _ hm, hbreaks⟩

theorem EntryBreaks.cons {entries : List (Node × Node)} {cause : ScalarFault}
    (h : EntryBreaks entries cause) (e : Node × Node) :
    EntryBreaks (e :: entries) cause :=
  let ⟨f, hf, hbreaks⟩ := h
  ⟨f, List.mem_cons_of_mem _ hf, hbreaks⟩

-- =============================================================== nodes

mutual

/-- A node blames itself or what it holds. -/
theorem blames_meaning (n : Node) (depth : Nat) :
    Blames (meaning depth n) (Node.Breaks · n) := by
  cases n with
  | scalar number kind text =>
      unfold meaning
      split
      · exact .meaning _
      · exact .scalarValue .scalar
  | sequence number kind items =>
      have hitems : ∀ depth, Blames (Judged.all (meanings depth items))
          (Node.Breaks · (.sequence number kind items)) :=
        fun depth => (Blames.all (blames_meanings items depth)).mono
          fun ⟨_, hn, h⟩ => .item hn h
      have hpairs : ∀ depth, Blames (Judged.all (pairMeanings depth items))
          (Node.Breaks · (.sequence number kind items)) :=
        fun depth => (Blames.all (blames_pairMeanings items depth)).mono
          fun ⟨_, hn, h⟩ => .item hn h
      unfold meaning
      split
      · exact (hitems _).map _
      · exact (hpairs _).map _
      · exact (hpairs _).map _
      all_goals exact .meaning _
  | mapping number kind entries =>
      have hentries : ∀ depth, Blames
          (mappingValue kind depth (entryMeanings depth entries))
          (Node.Breaks · (.mapping number kind entries)) := by
        intro depth
        exact (blames_mappingValue (blames_entryMeanings entries depth)).mono
          fun h => h.mapping number kind
      unfold meaning
      split
      · exact hentries _
      · exact hentries _
      all_goals first | exact .meaning _ | skip
      split
      next text htext =>
        split
        next hkind =>
          rw [beq_iff_eq] at hkind
          subst hkind
          exact ⟨fun h => by cases h; exact .scalar (.moment htext rfl)⟩
        next => exact .scalarValue (.text htext)
      next => exact .meaning _
  | loop number isMapping => exact .ok _

/-- Values of nodes blame the nodes. -/
theorem blames_meanings (items : List Node) (depth : Nat) :
    ∀ x ∈ meanings depth items, Blames x (ItemBreaks items) := by
  cases items with
  | nil =>
      intro x hx
      unfold meanings at hx
      cases hx
  | cons n rest =>
      unfold meanings
      refine List.forall_mem_cons.mpr ⟨(blames_meaning n depth).mono
        fun h => ⟨n, List.mem_cons_self, h⟩, fun x hx => ?_⟩
      exact (blames_meanings rest depth x hx).mono fun h => h.cons n

/-- So do pairs of values. -/
theorem blames_pairMeanings (items : List Node) (depth : Nat) :
    ∀ x ∈ pairMeanings depth items, Blames x (ItemBreaks items) := by
  cases items with
  | nil =>
      intro x hx
      unfold pairMeanings at hx
      cases hx
  | cons n rest =>
  have hrest : ∀ x ∈ pairMeanings depth rest,
      Blames x (ItemBreaks (n :: rest)) :=
    fun x hx => (blames_pairMeanings rest depth x hx).mono fun h => h.cons n
  match n with
  | .mapping number kind [(k, v)] =>
      have hk := (blames_meaning k depth).mono fun {cause} h =>
        (⟨_, List.mem_cons_self, .key List.mem_cons_self h⟩ :
          ItemBreaks (.mapping number kind [(k, v)] :: rest) cause)
      have hv := (blames_meaning v depth).mono fun {cause} h =>
        (⟨_, List.mem_cons_self, .value List.mem_cons_self h⟩ :
          ItemBreaks (.mapping number kind [(k, v)] :: rest) cause)
      unfold pairMeanings
      exact List.forall_mem_cons.mpr ⟨(hk.both hv).map _, hrest⟩
  | .mapping _ _ [] | .mapping _ _ (_ :: _ :: _) | .scalar _ _ _
  | .sequence _ _ _ | .loop _ _ =>
      unfold pairMeanings
      exact List.forall_mem_cons.mpr ⟨.meaning _, hrest⟩

/-- Entries of values blame the entries of nodes. -/
theorem blames_entryMeanings (entries : List (Node × Node)) (depth : Nat) :
    BlamesAll Entries.all (entryMeanings depth entries)
      (EntryBreaks entries) := by
  match entries with
  | [] =>
      unfold entryMeanings
      exact .pure fun e he => (by cases he)
  | (k, v) :: rest =>
      have hk := (blames_meaning k depth).mono fun {cause} h =>
        (⟨(k, v), List.mem_cons_self, Or.inl h⟩ :
          EntryBreaks ((k, v) :: rest) cause)
      have hv := (blames_meaning v depth).mono fun {cause} h =>
        (⟨(k, v), List.mem_cons_self, Or.inr h⟩ :
          EntryBreaks ((k, v) :: rest) cause)
      have htaken := (blames_mergedMeanings v depth).mono fun {cause} h =>
        (⟨(k, v), List.mem_cons_self, Or.inr h⟩ :
          EntryBreaks ((k, v) :: rest) cause)
      have hrest := (blames_entryMeanings rest depth).mono
        fun h => h.cons (k, v)
      unfold entryMeanings
      split
      · refine .bind htaken fun taken htaken => .bind hrest fun more hmore =>
          .pure ?_
        dsimp only [Entries.all]
        rw [List.append_assoc]
        exact List.forall_mem_append.mpr ⟨htaken, hmore⟩
      · refine .bind hrest fun more hmore => .pure ?_
        obtain ⟨hmerged, hown⟩ := List.forall_mem_append.mp hmore
        dsimp only [Entries.all]
        refine List.forall_mem_append.mpr ⟨hmerged,
          List.forall_mem_cons.mpr ⟨.judgeEntry ?_ hv, hown⟩⟩
        split
        · split
          · exact .ok _
          · exact .meaning _
        · split
          · exact .meaning _
          · exact hk

/-- Entries that are taken over blame the node that has them. -/
theorem blames_mergedMeanings (n : Node) (depth : Nat) :
    BlamesAll id (mergedMeanings depth n) (Node.Breaks · n) := by
  cases n with
  | scalar number kind text =>
      unfold mergedMeanings
      exact .refuse
  | sequence number kind items =>
      unfold mergedMeanings
      exact (blames_mergedLists items depth).mono
        fun ⟨m, hm, h⟩ => .item hm h
  | mapping number kind entries =>
      unfold mergedMeanings
      exact .bind ((blames_entryMeanings entries depth).mono
        fun h => h.mapping number kind) fun es hes => .pure hes
  | loop number isMapping =>
      unfold mergedMeanings
      split
      · exact .pure fun e he => (by cases he)
      · exact .refuse

/-- Entries of several mappings blame these. -/
theorem blames_mergedLists (items : List Node) (depth : Nat) :
    BlamesAll id (mergedLists depth items) (ItemBreaks items) := by
  match items with
  | [] =>
      unfold mergedLists
      exact .pure fun e he => (by cases he)
  | .mapping number kind entries :: rest =>
      have hentries := (blames_entryMeanings entries depth).mono
        fun {cause} h => (⟨_, List.mem_cons_self, h.mapping number kind⟩ :
          ItemBreaks (.mapping number kind entries :: rest) cause)
      have hrest := (blames_mergedLists rest depth).mono
        fun h => h.cons (.mapping number kind entries)
      unfold mergedLists
      refine .bind hentries fun es hes => .bind hrest fun more hmore =>
        .pure ?_
      rw [id, List.append_assoc]
      exact List.forall_mem_append.mpr ⟨hmore, hes⟩
  | .loop number true :: rest =>
      unfold mergedLists
      exact (blames_mergedLists rest depth).mono fun h => h.cons _
  | .loop _ false :: _ | .scalar _ _ _ :: _ | .sequence _ _ _ :: _ =>
      unfold mergedLists
      exact .refuse

end

/-- If a document has no web it is for want of a meaning, or its node breaks the
promise of a tag. -/
theorem lacks_of_web {n : Node} {fault : Fault} (h : web n = .error fault) :
    Lacks (Node.Breaks · n) fault := by
  unfold web at h
  split at h
  next heq =>
    cases h
    exact (blames_meaning n 0).lacks heq
  next =>
    dsimp only at h
    split at h <;> cases h

end Toolsmith.Yaml
