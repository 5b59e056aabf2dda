import Mathlib.Data.List.TakeWhile
import ViewAtlas.Template.Mask
/-!
# Expressions

An expression is an opening, a body and an ending.  An opening is two braces, or an `@` with words, blanks and a name
behind it (`Expression.eq_of_opening?`).  None reaches over a quote or a `<` (`Expression.opening?_staysBefore`), so an
expression that ends in a text is the same whatever follows that text after a quote or a `<`
(`Expression.match?_append`).
-/
namespace ViewAtlas
namespace Template

-- Characters are finitely many, so what is said of each member of a text could also be decided by running over all of
-- them.  It is decided along the text.
instance (priority := 1100) (p : Char → Prop) [DecidablePred p] (s : Text) : Decidable (∀ c ∈ s, p c) :=
  List.decidableBAll p s

inductive Expression where
  | interpolation
  | declaration
  | block

/-- **A text that a piece may stand before**: at the end, before a quote or before a `<`. -/
def Bounds (x : Text) : Prop := ∀ c ∈ x.head?, c = '"' ∨ c = '<'

theorem bounds_quote (x : Text) : Bounds ('"' :: x) := fun _ hc => .inl (Option.some.inj hc).symm

namespace Expression

def opening? : Expression → Text → Option Text
  | interpolation, s => Text.after? ['{', '{'] s
  | declaration, s => do
    let r ← Text.after? "@let".toList s
    guard (r.head?.any Text.isBlank)
    let r := skipBlanks r
    guard (r.head?.any isDeclaredNameChar)
    Text.after? ['='] (skipBlanks (r.dropWhile isDeclaredNameChar))
  | block, s => do
    let r ← Text.after? ['@'] s
    (afterElseIf? r) <|> blockWords.findSome? (afterBlockOpening? · r)

def length? : Expression → Text → Option Nat
  | interpolation, s => Text.offset? ['}', '}'] s
  | declaration, s => Text.offset? [';'] s
  | block, s => if parameterLength 1 none s < s.length then some (parameterLength 1 none s) else none

def match? : Expression → Text → Option BodyMatch
  | interpolation => interpolation?
  | declaration => declaration?
  | block => block?

/-- The match of an expression, by the lengths of its opening and its body. -/
def found : Expression → Nat → Nat → BodyMatch
  | interpolation, lead, n => ⟨lead, n, lead + n + 2⟩
  | declaration, lead, n => ⟨lead, n, lead + n + 1⟩
  | block, lead, n => ⟨lead, n, lead⟩

end Expression

/-! ## Openings -/

/-- **A reader that stays before `x`**: what it leaves of a text, it leaves of the text with `x` behind it, and `x`. -/
structure StaysBefore (x : Text) (f : Text → Option Text) : Prop where
  le : ∀ s r, f s = some r → r.length ≤ s.length
  append : ∀ s, f (s ++ x) = (f s).map (· ++ x)

namespace StaysBefore

variable {x : Text} {f g : Text → Option Text}

theorem after? {p : Text} (hx : ∀ c ∈ x.head?, c ∉ p) : StaysBefore x (Text.after? p) where
  le s r h := by
    rw [Text.eq_append_of_after? h, List.length_append]
    exact Nat.le_add_left _ _
  append := Text.after?_append_of_head hx

theorem bind (hf : StaysBefore x f) (hg : StaysBefore x g) : StaysBefore x fun s => (f s).bind g where
  le s r h := by
    obtain ⟨t, ht, hr⟩ := Option.bind_eq_some_iff.1 h
    exact Nat.le_trans (hg.le t r hr) (hf.le s t ht)
  append s := by
    rw [hf.append s]
    cases f s with
    | none => rfl
    | some r => exact hg.append r

theorem dropWhile {p : Char → Bool} (hx : ∀ c ∈ x.head?, p c = false) (hf : StaysBefore x f) :
    StaysBefore x fun s => f (s.dropWhile p) where
  le s r h := Nat.le_trans (hf.le _ r h) (List.dropWhile_suffix p).length_le
  append s := by
    rw [Text.dropWhile_append_of_head hx s]
    exact hf.append _

theorem guard {p : Char → Bool} (hx : ∀ c ∈ x.head?, p c = false) (hf : StaysBefore x f) :
    StaysBefore x fun s => (guard (s.head?.any p) : Option Unit).bind fun _ => f s where
  le s r h := by
    obtain ⟨_, _, hr⟩ := Option.bind_eq_some_iff.1 h
    exact hf.le s r hr
  append s := by
    have hp : (s ++ x).head?.any p = s.head?.any p := by
      cases s with
      | nil =>
        cases x with
        | nil => rfl
        | cons c x => exact hx c rfl
      | cons c s => rfl
    rw [hp, hf.append s]
    cases s.head?.any p <;> rfl

theorem orElse (hf : StaysBefore x f) (hg : StaysBefore x g) : StaysBefore x fun s => f s <|> g s where
  le s r h := by
    cases hs : f s with
    | none =>
      rw [hs] at h
      exact hg.le s r h
    | some t =>
      rw [hs] at h
      cases h
      exact hf.le s _ hs
  append s := by
    rw [hf.append s, hg.append s]
    cases f s <;> rfl

theorem findSome? {ι : Type} {f : ι → Text → Option Text} : ∀ {l : List ι}, (∀ i ∈ l, StaysBefore x (f i)) →
    StaysBefore x fun s => l.findSome? (f · s)
  | [], _ => ⟨fun _ _ h => (nomatch h), fun _ => rfl⟩
  | i :: l, h => by
    have heq : (fun s => (i :: l).findSome? (f · s)) = fun s => f i s <|> l.findSome? (f · s) := by
      funext s
      rw [List.findSome?_cons]
      cases f i s <;> rfl
    rw [heq]
    exact (h i (List.mem_cons_self ..)).orElse (findSome? fun j hj => h j (List.mem_cons_of_mem _ hj))

end StaysBefore

/-! ## What an opening takes -/

/-- **A reader that takes characters of a class only.** -/
def Takes (p : Char → Prop) (f : Text → Option Text) : Prop := ∀ s r, f s = some r → ∃ w, s = w ++ r ∧ ∀ c ∈ w, p c

namespace Takes

variable {p : Char → Prop} {f g : Text → Option Text}

theorem after? {w : Text} (hw : ∀ c ∈ w, p c) : Takes p (Text.after? w) := fun _ _ h =>
  ⟨w, Text.eq_append_of_after? h, hw⟩

theorem bind (hf : Takes p f) (hg : Takes p g) : Takes p fun s => (f s).bind g := by
  intro s r h
  obtain ⟨t, ht, hr⟩ := Option.bind_eq_some_iff.1 h
  obtain ⟨v, rfl, hv⟩ := hf s t ht
  obtain ⟨w, rfl, hw⟩ := hg t r hr
  exact ⟨v ++ w, (List.append_assoc ..).symm, List.forall_mem_append.2 ⟨hv, hw⟩⟩

theorem dropWhile {q : Char → Bool} (hq : ∀ c, q c = true → p c) (hf : Takes p f) :
    Takes p fun s => f (s.dropWhile q) := by
  intro s r h
  obtain ⟨w, hs, hw⟩ := hf _ r h
  refine ⟨s.takeWhile q ++ w, ?_, List.forall_mem_append.2 ⟨fun c hc => hq c (List.mem_takeWhile_imp hc), hw⟩⟩
  rw [List.append_assoc, ← hs, List.takeWhile_append_dropWhile]

theorem guard {q : Char → Bool} (hf : Takes p f) :
    Takes p fun s => (guard (s.head?.any q) : Option Unit).bind fun _ => f s := by
  intro s r h
  obtain ⟨_, _, hr⟩ := Option.bind_eq_some_iff.1 h
  exact hf s r hr

theorem orElse (hf : Takes p f) (hg : Takes p g) : Takes p fun s => f s <|> g s := by
  intro s r h
  dsimp only at h
  cases hs : f s with
  | none =>
    rw [hs] at h
    exact hg s r h
  | some t =>
    rw [hs] at h
    cases h
    exact hf s _ hs

theorem findSome? {ι : Type} {f : ι → Text → Option Text} {l : List ι} (hf : ∀ i ∈ l, Takes p (f i)) :
    Takes p fun s => l.findSome? (f · s) := by
  intro s r h
  obtain ⟨i, hi, hr⟩ := List.exists_of_findSome?_eq_some h
  exact hf i hi s r hr

end Takes

/-- **A character that may stand behind the `@` of an opening**: none that begins or ends an expression. -/
def InOpening (c : Char) : Prop := c ∉ ['@', ';', '{', '}', ')']

instance (c : Char) : Decidable (InOpening c) := inferInstanceAs (Decidable (c ∉ _))

theorem inOpening_of {q : Char → Bool} (hq : ['@', ';', '{', '}', ')'].any q = false) {c : Char} (hc : q c = true) :
    InOpening c := by
  intro hmem
  rw [List.any_eq_false] at hq
  exact hq c hmem hc

namespace Expression

/-- **A character that no opening of an expression reaches over**: it stands in none, and in none of their names. -/
def Stops (e : Expression) (c : Char) : Prop :=
  Text.isBlank c = false ∧ isDeclaredNameChar c = false ∧ c ∉ ['@', '=', '('] ∧ (e = interpolation → c ≠ '{')

/-- **An opening does not reach over a character that stands in none.** -/
theorem opening?_staysBefore_of_stops {x : Text} : ∀ {e : Expression}, (∀ c ∈ x.head?, e.Stops c) →
    StaysBefore x e.opening?
  | interpolation, hx => .after? fun c hc hm => (hx c hc).2.2.2 rfl (by simpa using hm)
  | declaration, hx => by
    have hblank := fun c hc => (hx c hc).1
    have hname := fun c hc => (hx c hc).2.1
    have hmark : ∀ p : Text, (∀ d ∈ p, isDeclaredNameChar d = true ∨ d ∈ ['@', '=', '(']) → StaysBefore x (Text.after? p) :=
      fun p hp => .after? fun c hc hm => (hp c hm).elim (fun h => by rw [hname c hc] at h; cases h) (hx c hc).2.2.1
    have hequals : StaysBefore x fun r => Text.after? ['='] (skipBlanks r) :=
      .dropWhile hblank (hmark _ (by decide +kernel))
    have hdeclared : StaysBefore x fun r => (guard (r.head?.any isDeclaredNameChar) : Option Unit).bind fun _ =>
        Text.after? ['='] (skipBlanks (r.dropWhile isDeclaredNameChar)) := .guard hname (.dropWhile hname hequals)
    exact (hmark _ (by decide +kernel)).bind (.guard hblank (.dropWhile hblank hdeclared))
  | block, hx => by
    have hblank := fun c hc => (hx c hc).1
    have hname := fun c hc => (hx c hc).2.1
    have hmark : ∀ p : Text, (∀ d ∈ p, isDeclaredNameChar d = true ∨ d ∈ ['@', '=', '(']) → StaysBefore x (Text.after? p) :=
      fun p hp => .after? fun c hc hm => (hp c hm).elim (fun h => by rw [hname c hc] at h; cases h) (hx c hc).2.2.1
    have hblock : ∀ word : Text, (∀ d ∈ word, isDeclaredNameChar d = true ∨ d ∈ ['@', '=', '(']) →
        StaysBefore x (afterBlockOpening? word) := fun word hw =>
      (hmark word hw).bind (.dropWhile hblank (hmark ['('] (by decide +kernel)))
    have hwords : ∀ word ∈ blockWords, ∀ d ∈ word, isDeclaredNameChar d = true ∨ d ∈ ['@', '=', '('] := by decide +kernel
    have helse : StaysBefore x afterElseIf? :=
      (hmark _ (by decide +kernel)).bind (.guard hblank (.dropWhile hblank (hblock _ (by decide +kernel))))
    exact (hmark _ (by decide +kernel)).bind
      (.orElse helse (.findSome? fun word hword => hblock word (hwords word hword)))

theorem opening?_staysBefore {x : Text} (hx : Bounds x) (e : Expression) : StaysBefore x e.opening? :=
  opening?_staysBefore_of_stops fun c hc => by
    rcases hx c hc with rfl | rfl <;> exact ⟨by decide, by decide, by decide, fun _ => by decide⟩

theorem opening?_le {e : Expression} {s r : Text} (h : e.opening? s = some r) : r.length ≤ s.length :=
  (opening?_staysBefore (fun _ h => nomatch h : Bounds []) e).le s r h

/-- **An opening is two braces, or an `@` and what may stand behind it.** -/
theorem eq_of_opening? {s r : Text} : ∀ {e : Expression}, e.opening? s = some r →
    (e = interpolation ∧ s = '{' :: '{' :: r) ∨
      (e ≠ interpolation ∧ ∃ w, s = '@' :: (w ++ r) ∧ ∀ c ∈ w, InOpening c)
  | interpolation, h => .inl ⟨rfl, Text.eq_append_of_after? h⟩
  | declaration, h => by
    have hblank : ∀ c, Text.isBlank c = true → InOpening c := fun c => inOpening_of (by decide)
    have hname : ∀ c, isDeclaredNameChar c = true → InOpening c := fun c => inOpening_of (by decide)
    have hequals : Takes InOpening fun r => Text.after? ['='] (skipBlanks r) :=
      .dropWhile hblank (.after? (by decide))
    have hdeclared : Takes InOpening fun r => (guard (r.head?.any isDeclaredNameChar) : Option Unit).bind fun _ =>
        Text.after? ['='] (skipBlanks (r.dropWhile isDeclaredNameChar)) := .guard (.dropWhile hname hequals)
    obtain ⟨t, ht, hr⟩ := Option.bind_eq_some_iff.1 h
    obtain ⟨w, rfl, hw⟩ := Takes.guard (.dropWhile hblank hdeclared) t r hr
    refine .inr ⟨nofun, "let".toList ++ w, ?_, List.forall_mem_append.2 ⟨by decide, hw⟩⟩
    rw [Text.eq_append_of_after? ht, List.append_assoc]
    rfl
  | block, h => by
    have hblank : ∀ c, Text.isBlank c = true → InOpening c := fun c => inOpening_of (by decide)
    have hblock : ∀ word : Text, (∀ c ∈ word, InOpening c) → Takes InOpening (afterBlockOpening? word) :=
      fun word hw => .bind (.after? hw) (.dropWhile hblank (.after? (by decide)))
    have helse : Takes InOpening afterElseIf? :=
      .bind (.after? (by decide)) (.guard (.dropWhile hblank (hblock _ (by decide))))
    have hwords : ∀ word ∈ blockWords, ∀ c ∈ word, InOpening c := by decide
    have htakes : Takes InOpening fun r => afterElseIf? r <|> blockWords.findSome? (afterBlockOpening? · r) :=
      .orElse helse (.findSome? fun word hword => hblock word (hwords word hword))
    obtain ⟨t, ht, hr⟩ := Option.bind_eq_some_iff.1 h
    obtain ⟨w, rfl, hw⟩ := htakes t r hr
    exact .inr ⟨nofun, w, Text.eq_append_of_after? ht, hw⟩

/-! ## Matches -/

theorem interpolation?_eq (s : Text) : interpolation? s = (interpolation.opening? s).bind fun r =>
    (Text.offset? ['}', '}'] r).map fun n => ⟨s.length - r.length, n, s.length - r.length + n + 2⟩ := by
  rw [opening?]
  cases h : Text.after? ['{', '{'] s with
  | none =>
    unfold interpolation?
    split
    · cases h
    · rfl
  | some r =>
    have hlead : s.length - r.length = 2 := by
      rw [Text.eq_append_of_after? h, List.length_append, Nat.add_sub_cancel]
      rfl
    rw [Option.bind_some, hlead, Text.eq_append_of_after? h]
    change (Text.offset? ['}', '}'] r).map _ = _
    congr 1
    funext n
    rw [show 2 + n + 2 = n + 4 by omega]

theorem declaration?_eq (s : Text) : declaration? s = (declaration.opening? s).bind fun r =>
    (Text.offset? [';'] r).map fun n => ⟨s.length - r.length, n, s.length - r.length + n + 1⟩ := by
  refine Eq.trans ?_ (Option.bind_assoc _ _ _).symm
  refine congrArg (Option.bind _) (funext fun r => ?_)
  refine Eq.trans ?_ (Option.bind_assoc _ _ _).symm
  refine congrArg (Option.bind _) (funext fun _ => ?_)
  refine Eq.trans ?_ (Option.bind_assoc _ _ _).symm
  refine congrArg (Option.bind _) (funext fun _ => ?_)
  refine congrArg (Option.bind _) (funext fun body => ?_)
  rw [Option.map_eq_bind]
  rfl

theorem block?_eq (s : Text) : block? s = (block.opening? s).map fun r =>
    ⟨s.length - r.length, parameterLength 1 none r, s.length - r.length⟩ := by
  unfold block? opening?
  simp only [bind, Option.bind_assoc, pure, Option.map_eq_bind]
  rfl

theorem match?_eq_none {s : Text} : ∀ {e : Expression}, e.opening? s = none → e.match? s = none
  | interpolation, h => by rw [match?, interpolation?_eq, h, Option.bind_none]
  | declaration, h => by rw [match?, declaration?_eq, h, Option.bind_none]
  | block, h => by rw [match?, block?_eq, h, Option.map_none]

theorem match?_eq_found {s r : Text} {n : Nat} : ∀ {e : Expression}, e.opening? s = some r → e.length? r = some n →
    e.match? s = some (e.found (s.length - r.length) n)
  | interpolation, h, hn => by
    rw [length?] at hn
    rw [match?, interpolation?_eq, h, Option.bind_some, hn]
    rfl
  | declaration, h, hn => by
    rw [length?] at hn
    rw [match?, declaration?_eq, h, Option.bind_some, hn]
    rfl
  | block, h, hn => by
    rw [length?] at hn
    split at hn
    · cases hn
      rw [match?, block?_eq, h]
      rfl
    · cases hn

theorem parameterLength_le (depth : Nat) (quote : Option Char) (s : Text) :
    parameterLength depth quote s ≤ s.length := by
  fun_induction parameterLength depth quote s with
  | case1 => exact Nat.le_refl _
  | case2 | case3 | case4 | case5 | case6 | case7 =>
    rw [List.length_cons]
    omega

/-- The scan of a parameter goes from left to right: in a part of the text it goes as far as in all of it. -/
theorem parameterLength_eq_min (x : Text) (depth : Nat) (quote : Option Char) (s : Text) :
    parameterLength depth quote s = min s.length (parameterLength depth quote (s ++ x)) := by
  fun_induction parameterLength depth quote s with
  | case1 => rw [List.length_nil, Nat.zero_min]
  | case2 _ c r q ih =>
    rw [ih, List.cons_append, parameterLength, List.length_cons]
    omega
  | case3 _ c r hq ih =>
    simp only [ih, List.cons_append, parameterLength, if_pos hq, List.length_cons]
    omega
  | case4 depth r _ ih =>
    have hopening : parameterLength depth none ('(' :: (r ++ x)) = 1 + parameterLength (depth + 1) none (r ++ x) := by
      simp [parameterLength]
    rw [ih, List.cons_append, hopening, List.length_cons]
    omega
  | case5 _ r hd => simp [parameterLength, hd]
  | case6 depth r hd _ _ ih =>
    have hclosing : parameterLength depth none (')' :: (r ++ x)) = 1 + parameterLength (depth - 1) none (r ++ x) := by
      simp [parameterLength, hd]
    rw [ih, List.cons_append, hclosing, List.length_cons]
    omega
  | case7 _ c r hq ho hc ih =>
    simp only [ih, List.cons_append, parameterLength, if_neg hq, if_neg ho, if_neg hc, List.length_cons]
    omega

theorem parameterLength_append (x : Text) {depth : Nat} {quote : Option Char} {s : Text}
    (h : parameterLength depth quote s < s.length) :
    parameterLength depth quote (s ++ x) = parameterLength depth quote s := by
  have := parameterLength_eq_min x depth quote s
  omega

theorem match?_fits {s : Text} {m : BodyMatch} : ∀ {e : Expression}, e.match? s = some m →
    m.lead + m.length ≤ s.length ∧ m.taken ≤ s.length
  | interpolation, h => by
    rw [match?, interpolation?_eq] at h
    obtain ⟨r, hr, h⟩ := Option.bind_eq_some_iff.1 h
    obtain ⟨n, hn, rfl⟩ := Option.map_eq_some_iff.1 h
    have h1 := opening?_le hr
    have h2 : n + 2 ≤ r.length := Text.offset?_le hn
    dsimp only
    omega
  | declaration, h => by
    rw [match?, declaration?_eq] at h
    obtain ⟨r, hr, h⟩ := Option.bind_eq_some_iff.1 h
    obtain ⟨n, hn, rfl⟩ := Option.map_eq_some_iff.1 h
    have h1 := opening?_le hr
    have h2 : n + 1 ≤ r.length := Text.offset?_le hn
    dsimp only
    omega
  | block, h => by
    rw [match?, block?_eq] at h
    obtain ⟨r, hr, rfl⟩ := Option.map_eq_some_iff.1 h
    have h1 := opening?_le hr
    have h2 := parameterLength_le 1 none r
    dsimp only
    omega

/-- **An expression that ends in a text ends there whatever follows.** -/
theorem length?_append {r : Text} {n : Nat} (x : Text) : ∀ {e : Expression}, e.length? r = some n →
    e.length? (r ++ x) = some n
  | interpolation, h => Text.offset?_append h x
  | declaration, h => Text.offset?_append h x
  | block, h => by
    rw [length?] at h ⊢
    split at h
    · rename_i hr
      rw [parameterLength_append x hr, List.length_append, if_pos (by omega)]
      exact h
    · cases h

/-- **The match of an expression that ends in its piece** is the same before a quote, before a `<` and at the end. -/
theorem match?_append {e : Expression} {s x : Text} (hx : Bounds x)
    (h : ∀ r, e.opening? s = some r → (e.length? r).isSome) : e.match? (s ++ x) = e.match? s := by
  have hopen := (opening?_staysBefore hx e).append s
  cases hs : e.opening? s with
  | none =>
    rw [hs] at hopen
    rw [match?_eq_none hs, match?_eq_none hopen]
  | some r =>
    rw [hs] at hopen
    obtain ⟨n, hn⟩ := Option.isSome_iff_exists.1 (h r hs)
    rw [match?_eq_found hs hn, match?_eq_found hopen (length?_append x hn), List.length_append, List.length_append,
      Nat.add_sub_add_right]

end Expression

end Template
end ViewAtlas
