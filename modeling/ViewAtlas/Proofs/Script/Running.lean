import ViewAtlas.Proofs.Script.Lexing
import ViewAtlas.Script.Expressions
/-!
# How readers run

`Reads` says what a reader takes off a script and what it gives, `Refuses` that it takes nothing and leaves the script to
others.  Each of the readers that others are made of has a lemma for either; what the ones that look for a token do hangs
on `lead` and `nextWord` only.
-/
namespace ViewAtlas
namespace Script

variable {α β : Type} {N : Nat} {s r t : Text}

/-- **A reader reads** `a` off the script `s` and leaves `r`, in a script that ends at the place `N`. -/
structure Reads (N : Nat) (p : Reader α) (s r : Text) (a : α) : Prop where
  le : r.length ≤ s.length
  run : ∀ pos, pos + s.length = N → p ⟨s, pos⟩ = .ok (a, ⟨r, N - r.length⟩)

/-- **A reader refuses** the script `s`. -/
def Refuses (N : Nat) (p : Reader α) (s : Text) : Prop := ∀ pos, pos + s.length = N → p ⟨s, pos⟩ = .error .refused

/-! ## Sequences -/

theorem bind_run (p : Reader α) (f : α → Reader β) (c : Cursor) : (p >>= f) c = (p c).bind fun x => f x.1 x.2 := rfl

theorem reads_pure (a : α) : Reads N (pure a) s s a where
  le := le_refl _
  run pos hpos := by rw [← hpos, Nat.add_sub_cancel]; rfl

theorem Reads.bind {p : Reader α} {f : α → Reader β} {a : α} {b : β} (hp : Reads N p s t a) (hf : Reads N (f a) t r b) :
    Reads N (p >>= f) s r b where
  le := le_trans hf.le hp.le
  run pos hpos := by
    have hle := hp.le
    rw [bind_run, hp.run pos hpos]
    exact hf.run _ (by omega)

theorem Refuses.bind {p : Reader α} (hp : Refuses N p s) (f : α → Reader β) : Refuses N (p >>= f) s := by
  intro pos hpos
  rw [bind_run, hp pos hpos]
  rfl

theorem Reads.bind_refuses {p : Reader α} {f : α → Reader β} {a : α} (hp : Reads N p s t a) (hf : Refuses N (f a) t) :
    Refuses N (p >>= f) s := by
  intro pos hpos
  have hle := hp.le
  rw [bind_run, hp.run pos hpos]
  exact hf _ (by omega)

theorem reads_get {f : Cursor → Reader β} {b : β} (hle : r.length ≤ s.length)
    (hf : ∀ pos, pos + s.length = N → Reads N (f ⟨s, pos⟩) s r b) : Reads N (get >>= f) s r b :=
  ⟨hle, fun pos hpos => (hf pos hpos).run pos hpos⟩

theorem refuses_get {f : Cursor → Reader β} (hf : ∀ pos, pos + s.length = N → Refuses N (f ⟨s, pos⟩) s) :
    Refuses N (get >>= f) s := fun pos hpos => hf pos hpos pos hpos

theorem Reads.discard {p : Reader α} {a : α} (hp : Reads N p s r a) : Reads N (Functor.discard p) s r () :=
  show Reads N (p >>= fun _ => pure ()) s r () from hp.bind (reads_pure ())

theorem Refuses.discard {p : Reader α} (hp : Refuses N p s) : Refuses N (Functor.discard p) s :=
  show Refuses N (p >>= fun _ => pure ()) s from hp.bind _

theorem refuses_refuse : Refuses N (refuse : Reader α) s := fun _ _ => rfl

/-! ## Choices -/

theorem Reads.either {p : Reader α} {a : α} (hp : Reads N p s r a) (q : Reader α) :
    Reads N (Script.either p q) s r a where
  le := hp.le
  run pos hpos := by rw [Script.either, hp.run pos hpos]

theorem Refuses.either_reads {p q : Reader α} {a : α} (hp : Refuses N p s) (hq : Reads N q s r a) :
    Reads N (Script.either p q) s r a where
  le := hq.le
  run pos hpos := by
    rw [Script.either, hp pos hpos]
    exact hq.run pos hpos

theorem Refuses.either {p q : Reader α} (hp : Refuses N p s) (hq : Refuses N q s) : Refuses N (Script.either p q) s := by
  intro pos hpos
  rw [Script.either, hp pos hpos]
  exact hq pos hpos

theorem Reads.oneOf {p : Reader α} {a : α} (hp : Reads N p s r a) (ps : List (Reader α)) :
    Reads N (Script.oneOf (p :: ps)) s r a := by
  cases ps with
  | nil => exact hp
  | cons q ps => exact hp.either _

theorem Refuses.oneOf_reads {p q : Reader α} {ps : List (Reader α)} {a : α} (hp : Refuses N p s)
    (hq : Reads N (Script.oneOf (q :: ps)) s r a) : Reads N (Script.oneOf (p :: q :: ps)) s r a := hp.either_reads hq

theorem refuses_oneOf {ps : List (Reader α)} (h : ∀ p ∈ ps, Refuses N p s) : Refuses N (oneOf ps) s := by
  induction ps with
  | nil => exact refuses_refuse
  | cons p ps ih =>
    cases ps with
    | nil => exact h p (List.mem_singleton.2 rfl)
    | cons q ps => exact (h p (List.mem_cons_self ..)).either (ih fun q hq => h q (List.mem_cons_of_mem _ hq))

theorem Reads.attempt {p : Reader α} {a : α} (hp : Reads N p s r a) : Reads N (Script.attempt p) s r (some a) := by
  change Reads N (Script.either (p >>= fun a => pure (some a)) (pure none)) s r (some a)
  exact (hp.bind (reads_pure (some a))).either _

theorem Refuses.attempt {p : Reader α} (hp : Refuses N p s) : Reads N (Script.attempt p) s s none := by
  change Reads N (Script.either (p >>= fun a => pure (some a)) (pure none)) s s none
  exact (hp.bind _).either_reads (reads_pure none)

/-! ## Repetitions -/

/-- **A reader reads one thing after another**, each of at least a character, until it refuses. -/
inductive Rows (N : Nat) (p : Reader α) : Text → Text → List α → Prop
  | done {s : Text} (h : Refuses N p s) : Rows N p s s []
  | step {s t r : Text} {a : α} {as : List α} (h : Reads N p s t a) (hless : t.length < s.length) (hrest : Rows N p t r as) :
      Rows N p s r (a :: as)

theorem Rows.repeated {p : Reader α} {as : List α} (h : Rows N p s r as) :
    ∀ n, s.length < n → Reads N (Script.repeated p n) s r as := by
  induction h with
  | done h =>
    intro n hn
    obtain ⟨m, rfl⟩ : ∃ m, n = m + 1 := ⟨n - 1, by omega⟩
    exact h.attempt.bind (reads_pure [])
  | step h hless _ ih =>
    intro n hn
    obtain ⟨m, rfl⟩ : ∃ m, n = m + 1 := ⟨n - 1, by omega⟩
    exact h.attempt.bind ((ih m (by omega)).bind (reads_pure _))

/-- **What is read again and again.** -/
theorem Rows.many {p : Reader α} {as : List α} (h : Rows N p s r as) : Reads N (Script.many p) s r as where
  le := (h.repeated _ (Nat.lt_succ_self _)).le
  run := (h.repeated _ (Nat.lt_succ_self _)).run

theorem Refuses.many {p : Reader α} (h : Refuses N p s) : Reads N (Script.many p) s s [] := (Rows.done h).many

/-- **A step is made again and again** on what it gives, until it refuses. -/
inductive Steps (N : Nat) (step : Tree → Reader Tree) : Text → Text → Tree → Tree → Prop
  | done {s : Text} {x : Tree} (h : Refuses N (step x) s) : Steps N step s s x x
  | step {s t r : Text} {x y z : Tree} (h : Reads N (step x) s t y) (hless : t.length < s.length)
      (hrest : Steps N step t r y z) : Steps N step s r x z

theorem Steps.extended {step : Tree → Reader Tree} {x z : Tree} (h : Steps N step s r x z) :
    ∀ n, s.length < n → Reads N (Script.extended step n x) s r z := by
  induction h with
  | done h =>
    intro n hn
    obtain ⟨m, rfl⟩ : ∃ m, n = m + 1 := ⟨n - 1, by omega⟩
    exact h.attempt.bind (reads_pure _)
  | step h hless _ ih =>
    intro n hn
    obtain ⟨m, rfl⟩ : ∃ m, n = m + 1 := ⟨n - 1, by omega⟩
    exact h.attempt.bind (ih m (by omega))

theorem Steps.extendedAll {step : Tree → Reader Tree} {x z : Tree} (h : Steps N step s r x z) :
    Reads N (Script.extendedAll step x) s r z where
  le := (h.extended _ (Nat.lt_succ_self _)).le
  run := (h.extended _ (Nat.lt_succ_self _)).run

/-- **Items are listed** with commas between them, and perhaps one after the last. -/
inductive Lists (N : Nat) (item : Reader α) : Text → Text → List α → Prop
  | nothing {s : Text} (h : Refuses N item s) (hcomma : Refuses N (mark ",") s) : Lists N item s s []
  | last {s r : Text} {a : α} (h : Reads N item s r a) (hcomma : Refuses N (mark ",") r) : Lists N item s r [a]
  | more {s t u r : Text} {a : α} {as : List α} (h : Reads N item s t a) (hcomma : Reads N (mark ",") t u ())
      (hless : u.length < t.length) (hrest : Lists N item u r as) : Lists N item s r (a :: as)

theorem Lists.rows {item : Reader α} {as : List α} (h : Lists N item s r as) :
    ∃ t first more, Reads N (attempt item) s t first ∧ Rows N (do mark ","; attempt item) t r more ∧
      first.toList ++ more.filterMap id = as := by
  induction h with
  | nothing h hcomma => exact ⟨_, none, [], h.attempt, .done (hcomma.bind _), rfl⟩
  | last h hcomma => exact ⟨_, some _, [], h.attempt, .done (hcomma.bind _), rfl⟩
  | more h hcomma hless _ ih =>
    obtain ⟨t, first, more, hfirst, hmore, rfl⟩ := ih
    refine ⟨_, some _, first :: more, h.attempt, .step (hcomma.bind hfirst) (lt_of_le_of_lt hfirst.le hless) hmore, ?_⟩
    cases first <;> rfl

theorem Lists.listed {item : Reader α} {as : List α} (h : Lists N item s r as) : Reads N (Script.listed item) s r as := by
  obtain ⟨t, first, more, hfirst, hmore, rfl⟩ := h.rows
  exact hfirst.bind (hmore.many.bind (reads_pure _))

theorem Reads.separated {item : Reader α} {a : α} (h : Reads N item s r a) (hcomma : Refuses N (mark ",") r) :
    Reads N (Script.separated item) s r [a] :=
  h.bind ((hcomma.bind _).many.bind (reads_pure _))

/-! ## What comes next -/

/-- The first character of the next token. -/
def lead (s : Text) : Option Char := (beyond s).head?

/-- The next word, empty where none stands. -/
def nextWord (s : Text) : Text := (beyond s).take (wordLength (beyond s))

theorem lead_append {g : Text} (hg : IsGap g) (hs : gapLength s = 0) : lead (g ++ s) = s.head? := by
  rw [lead, beyond_append hg hs]

theorem nextWord_append {g w : Text} (hg : IsGap g) (hw : IsWord w) (hr : EndsWord r) : nextWord (g ++ (w ++ r)) = w := by
  rw [nextWord, beyond_append hg (gapLength_word hw r), wordLength_append hw hr, List.take_left]

@[simp] theorem lead_beyond : lead (beyond s) = lead s := by rw [lead, beyond_beyond, lead]

@[simp] theorem nextWord_beyond : nextWord (beyond s) = nextWord s := by rw [nextWord, beyond_beyond, nextWord]

theorem nextWord_eq_nil (h : ∀ c ∈ lead s, startsWord c = false) : nextWord s = [] := by
  rw [nextWord, wordLength_eq_zero h, List.take_zero]

theorem beyond_length_le : (beyond s).length ≤ s.length := by
  rw [beyond, List.length_drop]
  exact Nat.sub_le ..

theorem reads_gap : Reads N gap s (beyond s) () where
  le := beyond_length_le
  run pos hpos := by
    have hle := gapLength_le s
    rw [gap, show pos + gapLength s = N - (beyond s).length from by rw [beyond, List.length_drop]; omega]
    rfl

theorem reads_upcoming : Reads N upcoming s s (beyond s) where
  le := le_refl _
  run pos hpos := by
    rw [← hpos, Nat.add_sub_cancel]
    rfl

theorem reads_lineEnds : ∃ b, Reads N lineEnds s s b :=
  ⟨(s.take (gapLength s)).any isLineEnd, le_refl _, fun pos hpos => by rw [← hpos, Nat.add_sub_cancel]; rfl⟩

theorem refuses_lineEnds {f : Bool → Reader α} (h : ∀ b, Refuses N (f b) s) : Refuses N (lineEnds >>= f) s := by
  obtain ⟨b, hb⟩ := reads_lineEnds (N := N) (s := s)
  exact hb.bind_refuses (h b)

theorem reads_take (x : Text) : Reads N (take x.length) (x ++ r) r x where
  le := by rw [List.length_append]; exact Nat.le_add_left ..
  run pos hpos := by
    rw [take, List.take_left, List.drop_left, ← hpos, List.length_append, ← Nat.add_assoc, Nat.add_sub_cancel]

/-! ## Marks -/

theorem refuses_mark_of_ne {m : String} (h : mark? (beyond s) ≠ some m.toList) : Refuses N (mark m) s := by
  refine reads_gap.bind_refuses (refuses_get fun pos _ => ?_)
  rw [if_neg h]
  exact refuses_refuse

theorem refuses_mark {m : String} (h : ∀ c ∈ lead s, m.toList.head? ≠ some c) : Refuses N (mark m) s := by
  refine refuses_mark_of_ne fun hm => ?_
  obtain ⟨hsome, hhead⟩ := head?_of_mark? hm
  obtain ⟨c, hc⟩ := Option.ne_none_iff_exists'.1 (by simpa using hsome : m.toList.head? ≠ none)
  exact h c (hhead.symm.trans hc) hc

theorem reads_gap_append {g : Text} (hg : IsGap g) (hs : gapLength s = 0) : Reads N gap (g ++ s) s () := by
  have h := reads_gap (N := N) (s := g ++ s)
  rwa [beyond_append hg hs] at h

theorem reads_mark {m : String} {g : Text} (hg : IsGap g) (hs : gapLength (m.toList ++ r) = 0)
    (hm : mark? (m.toList ++ r) = some m.toList) : Reads N (mark m) (g ++ (m.toList ++ r)) r () := by
  have htake := reads_take (N := N) (r := r) m.toList
  refine (reads_gap_append hg hs).bind (reads_get htake.le fun pos _ => ?_)
  rw [if_pos hm]
  exact htake.discard

theorem gapLength_single {c : Char} (hc : c ∈ singles) : gapLength (c :: s) = 0 := by
  have hall : ∀ c ∈ singles, isSpace c = false ∧ c ≠ '/' := Text.forall_mem_of_all (by decide)
  exact gapLength_cons (hall c hc) s

theorem reads_single {m : String} {c : Char} {g : Text} (hc : c ∈ singles) (hm : m.toList = [c]) (hg : IsGap g) :
    Reads N (mark m) (g ++ c :: r) r () := by
  have h := reads_mark (N := N) (m := m) (r := r) hg
  rw [hm, List.singleton_append] at h
  exact h (gapLength_single hc) (mark?_single hc r)

theorem reads_markAhead (m : String) : Reads N (markAhead m) s s (mark? (beyond s) = some m.toList) :=
  reads_upcoming.bind (reads_pure _)

theorem reads_markAhead_ne {m : String} (h : ∀ c ∈ lead s, m.toList.head? ≠ some c) : Reads N (markAhead m) s s false := by
  have hm := reads_markAhead (N := N) (s := s) m
  rwa [decide_eq_false fun hm => ?_] at hm
  obtain ⟨hsome, hhead⟩ := head?_of_mark? hm
  obtain ⟨c, hc⟩ := Option.ne_none_iff_exists'.1 (by simpa using hsome : m.toList.head? ≠ none)
  exact h c (hhead.symm.trans hc) hc

theorem reads_markAhead_single {m : String} {c : Char} (hc : c ∈ singles) (hm : m.toList = [c]) (hs : lead s = some c) :
    Reads N (markAhead m) s s true := by
  have h := reads_markAhead (N := N) (s := s) m
  obtain ⟨t, ht⟩ := List.head?_eq_some_iff.1 hs
  rwa [decide_eq_true (by rw [ht, mark?_single hc, hm])] at h

theorem refuses_markOf {ms : List String} (h : ∀ c ∈ lead s, ∀ m ∈ ms, m.toList.head? ≠ some c) :
    Refuses N (markOf ms) s := by
  refine reads_gap.bind_refuses (refuses_get fun pos _ => ?_)
  dsimp only
  split
  · rename_i m hm
    rw [if_neg fun hmem => ?_]
    · exact refuses_refuse
    · obtain ⟨m', hm', rfl⟩ := List.mem_map.1 (List.contains_iff_mem.1 hmem)
      obtain ⟨hsome, hhead⟩ := head?_of_mark? hm
      obtain ⟨c, hc⟩ := Option.ne_none_iff_exists'.1 (by simpa using hsome : m'.toList.head? ≠ none)
      exact h c (hhead.symm.trans hc) m' hm' hc
  · exact refuses_refuse

theorem reads_markOf {ms : List String} {m : String} {g : Text} (hg : IsGap g) (hs : gapLength (m.toList ++ r) = 0)
    (hm : mark? (m.toList ++ r) = some m.toList) (hmem : m ∈ ms) : Reads N (markOf ms) (g ++ (m.toList ++ r)) r m.toList := by
  have htake := reads_take (N := N) (r := r) m.toList
  refine (reads_gap_append hg hs).bind (reads_get htake.le fun pos _ => ?_)
  dsimp only
  rw [hm]
  dsimp only
  rw [if_pos (List.contains_iff_mem.2 (List.mem_map.2 ⟨m, hmem, rfl⟩))]
  exact htake

theorem refuses_exactly {m : String} (h : ∀ c ∈ lead s, m.toList.head? ≠ some c) (hm : m.toList ≠ []) :
    Refuses N (exactly m) s := by
  refine reads_gap.bind_refuses (refuses_get fun pos _ => ?_)
  dsimp only
  split
  · rename_i r hr
    have htext := Text.eq_append_of_after? hr
    obtain ⟨c, x, hc⟩ := List.exists_cons_of_ne_nil hm
    refine absurd (by rw [hc]; rfl) (h c ?_)
    rw [lead, htext, hc]
    rfl
  · exact refuses_refuse

theorem reads_exactly {m : String} {g : Text} (hg : IsGap g) (hs : gapLength (m.toList ++ r) = 0) :
    Reads N (exactly m) (g ++ (m.toList ++ r)) r () := by
  have htake := reads_take (N := N) (r := r) m.toList
  refine (reads_gap_append hg hs).bind (reads_get htake.le fun pos _ => ?_)
  simp only [Text.after?_append]
  exact htake.discard

/-! ## Words -/

theorem nextWord_eq_nil_iff : nextWord s = [] ↔ wordLength (beyond s) = 0 := by
  rw [nextWord, List.take_eq_nil_iff]
  refine ⟨fun h => h.elim id fun hnil => ?_, .inl⟩
  rw [hnil]
  exact wordLength_eq_zero fun c hc => by cases hc

theorem refuses_word (h : nextWord s = []) : Refuses N word s := by
  refine reads_gap.bind_refuses (refuses_get fun pos _ => ?_)
  rw [if_pos (nextWord_eq_nil_iff.1 h)]
  exact refuses_refuse

theorem reads_nextWord (h : nextWord s ≠ []) : Reads N word s ((beyond s).drop (wordLength (beyond s))) (nextWord s) := by
  have hsplit : beyond s = nextWord s ++ (beyond s).drop (wordLength (beyond s)) := (List.take_append_drop _ _).symm
  have hlength : (nextWord s).length = wordLength (beyond s) := by
    rw [nextWord, List.length_take, Nat.min_eq_left (wordLength_le _)]
  have htake := reads_take (N := N) (r := (beyond s).drop (wordLength (beyond s))) (nextWord s)
  rw [← hsplit, hlength] at htake
  refine reads_gap.bind (reads_get htake.le fun pos _ => ?_)
  rw [if_neg fun hzero => h (nextWord_eq_nil_iff.2 hzero)]
  exact htake

theorem reads_word {g w : Text} (hg : IsGap g) (hw : IsWord w) (hr : EndsWord r) : Reads N word (g ++ (w ++ r)) r w := by
  have hword := nextWord_append hg hw hr
  have h := reads_nextWord (N := N) (s := g ++ (w ++ r)) (by rw [hword]; exact hw.ne_nil)
  rwa [hword, beyond_append hg (gapLength_word hw r), wordLength_append hw hr, List.drop_left] at h

theorem refuses_keyword {k : String} (h : nextWord s ≠ k.toList) : Refuses N (keyword k) s := by
  by_cases hnil : nextWord s = []
  · exact (refuses_word hnil).bind _
  · refine (reads_nextWord hnil).bind_refuses ?_
    rw [if_neg h]
    exact refuses_refuse

theorem reads_keyword {k : String} {g : Text} (hg : IsGap g) (hw : IsWord k.toList) (hr : EndsWord r) :
    Reads N (keyword k) (g ++ (k.toList ++ r)) r () := by
  refine (reads_word hg hw hr).bind ?_
  rw [if_pos rfl]
  exact reads_pure ()

theorem refuses_keywordOf {ws : List String} (h : nextWord s ∉ ws.map String.toList) : Refuses N (keywordOf ws) s := by
  by_cases hnil : nextWord s = []
  · exact (refuses_word hnil).bind _
  · refine (reads_nextWord hnil).bind_refuses ?_
    rw [if_neg (by rwa [List.contains_iff_mem])]
    exact refuses_refuse

theorem reads_wordAhead : Reads N wordAhead s s (if nextWord s = [] then none else some (nextWord s)) := by
  have h : Reads N wordAhead s s (if wordLength (beyond s) = 0 then none else some (nextWord s)) :=
    reads_upcoming.bind (reads_pure _)
  simp only [← nextWord_eq_nil_iff] at h
  exact h

theorem reads_keywordAhead_ne {k : String} (h : nextWord s ≠ k.toList) : Reads N (keywordAhead k) s s false := by
  refine reads_wordAhead.bind ?_
  rw [← decide_eq_false (p := (if nextWord s = [] then none else some (nextWord s)) = some k.toList) fun heq => ?_]
  · exact reads_pure _
  · split at heq
    · cases heq
    · exact h (Option.some.inj heq)

/-! ## Nodes -/

theorem Reads.node {k : Kind} {p : Reader (List Tree)} {cs : List Tree} {g x : Text} (h : Reads N p (x ++ r) r cs)
    (hg : IsGap g) (hx : gapLength (x ++ r) = 0) : Reads N (Script.node k p) (g ++ (x ++ r)) r (.node .part k x cs) := by
  refine (reads_gap_append hg hx).bind (reads_get h.le fun pos hpos => h.bind (reads_get (le_refl _) fun pos' hpos' => ?_))
  have hlength : pos' - pos = x.length := by
    rw [List.length_append] at hpos
    omega
  dsimp only
  rw [hlength, List.take_left]
  exact reads_pure _

theorem refuses_node {k : Kind} {p : Reader (List Tree)} (h : Refuses N p (beyond s)) : Refuses N (node k p) s :=
  reads_gap.bind_refuses (refuses_get fun _ _ => h.bind _)

theorem reads_since {k : Kind} {cs : List Tree} {x : Text} {pos : Nat} (hpos : pos + (x ++ r).length = N) :
    Reads N (since ⟨x ++ r, pos⟩ k cs) r r (.node .part k x cs) := by
  refine reads_get (le_refl _) fun pos' hpos' => ?_
  have hlength : pos' - pos = x.length := by
    rw [List.length_append] at hpos
    omega
  dsimp only
  rw [hlength, List.take_left]
  exact reads_pure _

theorem reads_identifier {g w : Text} (hg : IsGap g) (hw : IsWord w) (hfree : w ∉ reservedWords) (hr : EndsWord r) :
    Reads N identifier (g ++ (w ++ r)) r (.node .part .identifier w []) := by
  refine Reads.node ((reads_word .nil hw hr).bind ?_) hg (gapLength_word hw r)
  rw [if_neg (by rwa [List.contains_iff_mem])]
  exact reads_pure []

theorem refuses_identifier (h : nextWord s = [] ∨ nextWord s ∈ reservedWords) : Refuses N identifier s := by
  refine refuses_node ?_
  by_cases hnil : nextWord s = []
  · exact (refuses_word (by rwa [nextWord_beyond])).bind _
  · refine (reads_nextWord (by rwa [nextWord_beyond])).bind_refuses ?_
    rw [nextWord_beyond, if_pos (by rw [List.contains_iff_mem]; exact h.resolve_left hnil)]
    exact refuses_refuse

theorem reads_stringLiteral {g x : Text} (hg : IsGap g) (hx : IsQuoted x) :
    Reads N stringLiteral (g ++ (x ++ r)) r (.node .part .string x []) := by
  have htake := reads_take (N := N) (r := r) x
  refine Reads.node (reads_get htake.le fun pos _ => ?_) hg (gapLength_quoted hx r)
  simp only [stringLength?_append hx]
  exact htake.discard.bind (reads_pure [])

theorem refuses_stringLiteral (h : ∀ c ∈ lead s, c ≠ '"' ∧ c ≠ '\'') : Refuses N stringLiteral s := by
  refine refuses_node (refuses_get fun pos _ => ?_)
  rw [show stringLength? (beyond s) = none from ?_]
  · exact refuses_refuse
  · rw [lead] at h
    cases hs : beyond s with
    | nil => rfl
    | cons c r =>
      rw [hs] at h
      obtain ⟨hdouble, hsingle⟩ := h c rfl
      rw [stringLength?, if_neg (by simp [hdouble, hsingle])]

theorem reads_number {g x : Text} (hg : IsGap g) (hx : IsNumber x) (hr : EndsNumber r) :
    Reads N number (g ++ (x ++ r)) r (.node .part .other x []) := by
  have htake := reads_take (N := N) (r := r) x
  refine Reads.node (reads_get htake.le fun pos _ => ?_) hg (gapLength_number hx r)
  simp only [numberLength_append hx hr, Nat.ne_of_gt hx.length_pos, if_false]
  exact htake.discard.bind (reads_pure [])

theorem refuses_number (h : ∀ c ∈ lead s, c.isDigit = false ∧ c ≠ '.') : Refuses N number s := by
  refine refuses_node (refuses_get fun pos _ => ?_)
  simp only [numberLength_eq_zero h, if_true]
  exact refuses_refuse

end Script
end ViewAtlas
