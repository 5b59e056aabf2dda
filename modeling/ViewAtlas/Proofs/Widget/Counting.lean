import ViewAtlas.Component.Analysis
import ViewAtlas.Proofs.Text.Trimming
/-!
# How tags are counted

An element says what it is for by an attribute, a text or an input, in this order (`Tells`); one that says nothing is
numbered.  On any run of steps, the counter of a tag is the number of steps that numbered it, and each of these is
answered with the count that it makes (`run_counts`).
-/
namespace ViewAtlas
namespace Widget

open Component (Numbering)
open Template (Head Node)

/-! ## What an element says -/

/-- The first static attribute of a name has a value other than blanks. -/
def Names (h : Head) (name : Text) : Prop := ∃ a, h.attribute? name = some a ∧ Text.isBlankText a.value = false

/-- A text that is no blank and holds no interpolation. -/
def Speaks : Node → Prop
  | .text value _ => Template.hasInterpolation value = false ∧ Text.isBlankText value = false
  | .element _ _ => False

/-- **An element that says what it is for**, by the strategy for its tag. -/
def HasSignal (h : Head) (children : List Node) : Prop :=
  (∃ name ∈ (Strategy.ofTag h.name).attributes, Names h name) ∨
    ((Strategy.ofTag h.name).fallback = .text ∧ ∃ n ∈ children, Speaks n) ∨
    ((Strategy.ofTag h.name).fallback = .binding ∧ ∃ a, h.inputs.head? = some a ∧ Text.isBlankText a.value = false)

/-- **What an element says**: its first signal, attributes first. -/
inductive Tells (h : Head) (children : List Node) : Text → Prop where
  | attribute {before after : List Text} {name : Text} {a : Template.Attribute}
      (hnames : (Strategy.ofTag h.name).attributes = before ++ name :: after) (hbefore : ∀ n ∈ before, ¬ Names h n)
      (ha : h.attribute? name = some a) (hsaid : Text.isBlankText a.value = false) :
      Tells h children (normalize a.value)
  | text {before after : List Node} {value : Text} {r : Span}
      (hnames : ∀ n ∈ (Strategy.ofTag h.name).attributes, ¬ Names h n)
      (htext : (Strategy.ofTag h.name).fallback = .text)
      (hchildren : children = before ++ .text value r :: after) (hbefore : ∀ n ∈ before, ¬ Speaks n)
      (hsaid : Speaks (.text value r)) : Tells h children (normalize value)
  | binding {a : Template.Attribute} {word : Text}
      (hnames : ∀ n ∈ (Strategy.ofTag h.name).attributes, ¬ Names h n)
      (hbinding : (Strategy.ofTag h.name).fallback = .binding) (ha : h.inputs.head? = some a)
      (hword : word.IsFirstWord a.value) : Tells h children word

section
variable {h : Head} {children : List Node}

theorem attributeSignal?_eq_none_iff {names : List Text} :
    attributeSignal? names h = none ↔ ∀ n ∈ names, ¬ Names h n := by
  unfold attributeSignal? Names
  rw [List.findSome?_eq_none_iff]
  refine forall₂_congr fun n _ => ?_
  cases h.attribute? n <;> simp

theorem attributeSignal?_eq_some {names : List Text} {s : Text} (hs : attributeSignal? names h = some s) :
    ∃ before name after a, names = before ++ name :: after ∧ (∀ n ∈ before, ¬ Names h n) ∧
      h.attribute? name = some a ∧ Text.isBlankText a.value = false ∧ s = normalize a.value := by
  unfold attributeSignal? at hs
  obtain ⟨before, name, after, rfl, hname, hbefore⟩ := List.findSome?_eq_some_iff.1 hs
  have hnone : attributeSignal? before h = none := List.findSome?_eq_none_iff.2 hbefore
  cases ha : h.attribute? name with
  | none => simp [ha] at hname
  | some a =>
    by_cases hblank : Text.isBlankText a.value = true
    · simp [ha, hblank] at hname
    · have hsame : normalize a.value = s := by simpa [ha, hblank] using hname
      exact ⟨before, name, after, a, rfl, attributeSignal?_eq_none_iff.1 hnone, ha, by simpa using hblank, hsame.symm⟩

theorem textSignal?_eq_none_iff : textSignal? children = none ↔ ∀ n ∈ children, ¬ Speaks n := by
  unfold textSignal?
  rw [List.findSome?_eq_none_iff]
  refine forall₂_congr fun n _ => ?_
  cases n with
  | text value r => simp [Speaks]
  | element => simp [Speaks]

theorem textSignal?_eq_some {s : Text} (hs : textSignal? children = some s) :
    ∃ before value r after, children = before ++ .text value r :: after ∧ (∀ n ∈ before, ¬ Speaks n) ∧
      Speaks (.text value r) ∧ s = normalize value := by
  unfold textSignal? at hs
  obtain ⟨before, n, after, rfl, hn, hbefore⟩ := List.findSome?_eq_some_iff.1 hs
  have hnone : textSignal? before = none := List.findSome?_eq_none_iff.2 hbefore
  cases n with
  | element => cases hn
  | text value r =>
    by_cases hmute : (Template.hasInterpolation value || Text.isBlankText value) = true
    · simp [hmute] at hn
    · have hsame : normalize value = s := by simpa [hmute] using hn
      exact ⟨before, value, r, after, rfl, textSignal?_eq_none_iff.1 hnone, by simpa [Speaks] using hmute, hsame.symm⟩

theorem bindingSignal?_eq : bindingSignal? h = h.inputs.head?.bind fun a => Text.firstWord? a.value := by
  unfold bindingSignal?
  cases h.inputs <;> rfl

theorem signal?_tells {s : Text} (hs : signal? h children = some s) : Tells h children s := by
  unfold signal? at hs
  dsimp only at hs
  split at hs
  · rename_i t ht
    cases hs
    obtain ⟨before, name, after, a, hnames, hbefore, ha, hsaid, rfl⟩ := attributeSignal?_eq_some ht
    exact .attribute hnames hbefore ha hsaid
  · rename_i hnone
    have hnames := attributeSignal?_eq_none_iff.1 hnone
    split at hs
    · rename_i htext
      obtain ⟨before, value, r, after, hchildren, hbefore, hsaid, rfl⟩ := textSignal?_eq_some hs
      exact .text hnames htext hchildren hbefore hsaid
    · rename_i hbinding
      rw [bindingSignal?_eq, Option.bind_eq_some_iff] at hs
      obtain ⟨a, ha, hword⟩ := hs
      exact .binding hnames hbinding ha (Text.firstWord?_isFirstWord hword)
    · cases hs

theorem signal?_eq_none_iff : signal? h children = none ↔ ¬ HasSignal h children := by
  have hbinding : bindingSignal? h = none ↔ ¬ ∃ a, h.inputs.head? = some a ∧ Text.isBlankText a.value = false := by
    rw [bindingSignal?_eq, Option.bind_eq_none_iff]
    simp [Text.firstWord?_eq_none_iff]
  unfold signal? HasSignal
  dsimp only
  cases hattribute : attributeSignal? (Strategy.ofTag h.name).attributes h with
  | some s =>
    have hsome : ∃ name ∈ (Strategy.ofTag h.name).attributes, Names h name := by
      by_contra hnone
      rw [attributeSignal?_eq_none_iff.2 fun n hn hnames => hnone ⟨n, hn, hnames⟩] at hattribute
      cases hattribute
    simp [hsome]
  | none =>
    have hnone : ¬ ∃ name ∈ (Strategy.ofTag h.name).attributes, Names h name :=
      fun ⟨n, hn, hnames⟩ => attributeSignal?_eq_none_iff.1 hattribute n hn hnames
    cases (Strategy.ofTag h.name).fallback with
    | text => simp [hnone, textSignal?_eq_none_iff]
    | binding => simp [hnone, hbinding]
    | none => simp [hnone]

instance : Decidable (HasSignal h children) :=
  decidable_of_iff ((signal? h children).isSome = true) (by
    rw [← not_iff_not, ← signal?_eq_none_iff, Option.not_isSome_iff_eq_none])

end

/-! ## Steps -/

theorem Counters.count_next (c : Counters) (tag tag' : Text) :
    (c.next tag).2.count tag' = if tag = tag' then c.count tag + 1 else c.count tag' := by
  simp only [Counters.next, Counters.count, Table.get?_set]
  split <;> rfl

/-- **A step of a run**: an identifier for an element, a number for a tag, or another scope. -/
inductive Step where
  | identify (h : Head) (children : List Node)
  | next (tag : Text)
  | rescope (scope : Text)

inductive Answer where
  | id (id : Text)
  | number (n : Nat)
  | done
  deriving DecidableEq, Repr

def serve (n : Numbering) : Step → Answer × Numbering
  | .identify h children =>
    let (id, c) := identify n.scope n.counters h children
    (.id id, ⟨n.scope, c⟩)
  | .next tag =>
    let (k, c) := n.counters.next tag
    (.number k, ⟨n.scope, c⟩)
  | .rescope scope => (.done, ⟨scope, n.counters⟩)

def run (n : Numbering) (steps : List Step) : Numbering := steps.foldl (fun n s => (serve n s).2) n

def answers : Numbering → List Step → List Answer
  | _, [] => []
  | n, s :: steps => (serve n s).1 :: answers (serve n s).2 steps

namespace Step

/-- **A step that numbers a tag**: one that asks for its number, or an element of it that says nothing. -/
def Numbers (tag : Text) : Step → Prop
  | .identify h children => Text.upper h.name = tag ∧ ¬ HasSignal h children
  | .next t => t = tag
  | .rescope _ => False

instance (tag : Text) : DecidablePred (Numbers tag)
  | .identify h children => inferInstanceAs (Decidable (Text.upper h.name = tag ∧ ¬ HasSignal h children))
  | .next t => inferInstanceAs (Decidable (t = tag))
  | .rescope _ => inferInstanceAs (Decidable False)

def told (tag : Text) (k : Nat) : Step → Answer
  | .identify _ _ => .id (numberedId tag k)
  | .next _ => .number k
  | .rescope _ => .done

end Step

section
variable {n : Numbering} {s : Step} {tag : Text}

/-- **A step that numbers a tag** counts it and answers with the count. -/
theorem serve_of_numbers (h : s.Numbers tag) :
    serve n s = (s.told tag (n.counters.count tag + 1), ⟨n.scope, (n.counters.next tag).2⟩) := by
  cases s with
  | identify head children =>
    obtain ⟨rfl, hmute⟩ := h
    simp only [serve, identify, signal?_eq_none_iff.2 hmute]
    rfl
  | next t =>
    obtain rfl : t = tag := h
    rfl
  | rescope scope => cases h

/-- **Any other step** leaves the counter of the tag. -/
theorem count_serve_of_not_numbers (h : ¬ s.Numbers tag) : (serve n s).2.counters.count tag = n.counters.count tag := by
  cases s with
  | identify head children =>
    simp only [serve, identify]
    cases hs : signal? head children with
    | some signal => rfl
    | none =>
      have hne : Text.upper head.name ≠ tag := fun heq => h ⟨heq, signal?_eq_none_iff.1 hs⟩
      dsimp only
      rw [Counters.count_next, if_neg hne]
  | next t =>
    have hne : t ≠ tag := h
    change (n.counters.next t).2.count tag = _
    rw [Counters.count_next, if_neg hne]
  | rescope scope => rfl

theorem count_serve : (serve n s).2.counters.count tag = n.counters.count tag + if s.Numbers tag then 1 else 0 := by
  split
  · rename_i h
    rw [serve_of_numbers h, Counters.count_next, if_pos rfl]
  · rename_i h
    rw [count_serve_of_not_numbers h, Nat.add_zero]

theorem serve_of_hasSignal {h : Head} {children : List Node} (hsaid : HasSignal h children) :
    ∃ signal, Tells h children signal ∧
      serve n (.identify h children) = (.id (signalId n.scope (Text.upper h.name) signal h.span.start), n) := by
  cases hs : signal? h children with
  | none => exact absurd hsaid (signal?_eq_none_iff.1 hs)
  | some signal => exact ⟨signal, signal?_tells hs, by simp only [serve, identify, hs]⟩

end

/-! ## Runs -/

theorem count_run (tag : Text) : ∀ (steps : List Step) (n : Numbering),
    (run n steps).counters.count tag = n.counters.count tag + steps.countP (·.Numbers tag)
  | [], n => rfl
  | s :: steps, n => by
    change (run (serve n s).2 steps).counters.count tag = _
    rw [count_run tag steps, count_serve, List.countP_cons, Nat.add_assoc, Nat.add_comm (List.countP ..)]
    simp

/-- **The steps that number a tag are told one number after another.** -/
theorem answers_of_numbers (tag : Text) : ∀ (steps : List Step) (n : Numbering),
    (steps.zip (answers n steps)).filter (fun p => p.1.Numbers tag) =
      ((steps.filter (·.Numbers tag)).zipIdx (n.counters.count tag + 1)).map fun p => (p.1, p.1.told tag p.2)
  | [], _ => rfl
  | s :: steps, n => by
    rw [answers, List.zip_cons_cons, List.filter_cons, List.filter_cons, answers_of_numbers tag steps, count_serve]
    by_cases h : s.Numbers tag
    · simp [h, serve_of_numbers h]
    · simp [h]

/-- **Tags are numbered without gap or repetition on every run**: after each step the counter of a tag is the number of
steps so far that numbered it; such a step answers with this count, so these answers are 1, 2, 3 and so on; all other
steps leave the counter; and an element that says what it is for is named after its first signal. -/
theorem run_counts (scope : Text) (earlier : List Step) (s : Step) :
    let before := run ⟨scope, []⟩ earlier
    let after := (serve before s).2
    (∀ tag, after.counters.count tag = (earlier ++ [s]).countP (·.Numbers tag)) ∧
      (∀ tag, s.Numbers tag → (serve before s).1 = s.told tag (after.counters.count tag)) ∧
      (∀ tag, ¬ s.Numbers tag → after.counters.count tag = before.counters.count tag) ∧
      (∀ tag, ((earlier ++ [s]).zip (answers ⟨scope, []⟩ (earlier ++ [s]))).filter (fun p => p.1.Numbers tag) =
        (((earlier ++ [s]).filter (·.Numbers tag)).zipIdx 1).map fun p => (p.1, p.1.told tag p.2)) ∧
      ∀ h children, s = .identify h children → HasSignal h children → ∃ signal, Tells h children signal ∧
        (serve before s).1 = .id (signalId before.scope (Text.upper h.name) signal h.span.start) := by
  intro before after
  have hafter : after = run ⟨scope, []⟩ (earlier ++ [s]) := by
    rw [run, List.foldl_append]
    rfl
  refine ⟨fun tag => ?_, fun tag h => ?_, fun tag h => count_serve_of_not_numbers h,
    fun tag => answers_of_numbers tag _ _, ?_⟩
  · rw [hafter, count_run]
    exact Nat.zero_add _
  · change (serve before s).1 = s.told tag ((serve before s).2.counters.count tag)
    rw [count_serve, if_pos h, serve_of_numbers h]
  · rintro h children rfl hsaid
    obtain ⟨signal, htells, hserve⟩ := serve_of_hasSignal (n := before) hsaid
    exact ⟨signal, htells, by rw [hserve]⟩

end Widget
end ViewAtlas
