import ViewAtlas.Notice
/-!
# Noted results

An analysis ends with a result or a failure.  Either way it has noted things up to there, and `Noted` keeps them in
order.
-/
namespace ViewAtlas

/-- **A result or a failure, with the notices up to it.** -/
structure Noted (ε α : Type) where
  notices : List Notice
  result : Except ε α

namespace Noted

variable {ε α β : Type}

def done (a : α) : Noted ε α := ⟨[], .ok a⟩

def fail (e : ε) : Noted ε α := ⟨[], .error e⟩

def note (n : Notice) : Noted ε Unit := ⟨[n], .ok ()⟩

def noteAll (l : List Notice) : Noted ε Unit := ⟨l, .ok ()⟩

def ofExcept (r : Except ε α) : Noted ε α := ⟨[], r⟩

/-- One analysis after another, unless the first fails. -/
def andThen (a : Noted ε α) (f : α → Noted ε β) : Noted ε β :=
  match a.result with
  | .ok x => ⟨a.notices ++ (f x).notices, (f x).result⟩
  | .error e => ⟨a.notices, .error e⟩

instance : Monad (Noted ε) where
  pure := done
  bind := andThen

/-- The same with another word for its failure. -/
def mapFailure {ε' : Type} (f : ε → ε') (a : Noted ε α) : Noted ε' α := ⟨a.notices, a.result.mapError f⟩

@[simp] theorem pure_eq_done (a : α) : (pure a : Noted ε α) = done a := rfl

@[simp] theorem bind_eq_andThen (a : Noted ε α) (f : α → Noted ε β) : a >>= f = a.andThen f := rfl

@[simp] theorem done_andThen (a : α) (f : α → Noted ε β) : (done a).andThen f = f a := rfl

@[simp] theorem fail_andThen (e : ε) (f : α → Noted ε β) : (fail e).andThen f = fail e := rfl

theorem result_andThen_ok_iff {a : Noted ε α} {f : α → Noted ε β} {y : β} :
    (a.andThen f).result = .ok y ↔ ∃ x, a.result = .ok x ∧ (f x).result = .ok y := by
  obtain ⟨n, r⟩ := a
  cases r <;> simp [andThen]

theorem result_andThen {a : Noted ε α} {x : α} (h : a.result = .ok x) (f : α → Noted ε β) :
    (a.andThen f).result = (f x).result := by
  unfold andThen
  rw [h]

theorem result_mapFailure_ok_iff {ε' : Type} {f : ε → ε'} {a : Noted ε α} {x : α} :
    (a.mapFailure f).result = .ok x ↔ a.result = .ok x := by
  obtain ⟨n, r⟩ := a
  cases r with
  | ok y => exact ⟨fun h => congrArg Except.ok (Except.ok.inj h), fun h => congrArg Except.ok (Except.ok.inj h)⟩
  | error e => exact ⟨fun h => (nomatch (h : Except.error (f e) = .ok x)), fun h => nomatch h⟩

theorem result_foldlM_cons {f : β → α → Noted ε β} {a : α} {l : List α} {b c : β} :
    ((a :: l).foldlM f b).result = .ok c ↔ ∃ x, (f b a).result = .ok x ∧ (l.foldlM f x).result = .ok c := by
  rw [List.foldlM_cons, bind_eq_andThen, result_andThen_ok_iff]

theorem result_andThen_congr {a : Noted ε α} {f g : α → Noted ε β}
    (h : ∀ x, a.result = .ok x → (f x).result = (g x).result) : (a.andThen f).result = (a.andThen g).result := by
  unfold andThen
  cases hx : a.result with
  | ok x => exact h x hx
  | error e => rfl

theorem result_foldlM_congr {f g : β → α → Noted ε β} : ∀ {l : List α} {b : β},
    (∀ a ∈ l, ∀ b, (f b a).result = (g b a).result) → (l.foldlM f b).result = (l.foldlM g b).result
  | [], _, _ => rfl
  | a :: l, b, h => by
    have hhead := h a (List.mem_cons_self ..) b
    simp only [List.foldlM_cons, bind_eq_andThen, andThen, hhead]
    cases (g b a).result with
    | ok x => exact result_foldlM_congr fun a ha => h a (List.mem_cons_of_mem _ ha)
    | error e => rfl

/-- **Steps that change nothing can be left out of a run.** -/
theorem result_foldlM_filter {f : β → α → Noted ε β} {skip : α → Bool} : ∀ {l : List α} {b : β},
    (∀ a ∈ l, skip a = true → ∀ b, (f b a).result = .ok b) →
      ((l.filter fun a => !skip a).foldlM f b).result = (l.foldlM f b).result
  | [], _, _ => rfl
  | a :: l, b, h => by
    have htail : ∀ x ∈ l, skip x = true → ∀ b, (f b x).result = .ok b := fun x hx =>
      h x (List.mem_cons_of_mem _ hx)
    rw [List.foldlM_cons, bind_eq_andThen]
    cases ha : skip a with
    | true =>
      rw [List.filter_cons_of_neg (by simp [ha]), result_andThen (h a (List.mem_cons_self ..) ha b)]
      exact result_foldlM_filter htail
    | false =>
      rw [List.filter_cons_of_pos (by simp [ha]), List.foldlM_cons, bind_eq_andThen]
      exact result_andThen_congr fun x _ => result_foldlM_filter htail

/-- **What each step keeps, a run of steps keeps.** -/
theorem foldlM_keeps {f : β → α → Noted ε β} {P : β → Prop}
    (hstep : ∀ a b b', P b → (f b a).result = .ok b' → P b') : ∀ {l : List α} {b c : β}, P b →
      (l.foldlM f b).result = .ok c → P c
  | [], _, _, hb, h => by
    cases h
    exact hb
  | a :: l, b, c, hb, h => by
    obtain ⟨x, hx, hl⟩ := result_foldlM_cons.1 h
    exact foldlM_keeps hstep (hstep a b x hb hx) hl

/-- **What each step adds to a trace, a run of steps adds**, in order. -/
theorem foldlM_traces {γ : Type} {f : β → α → Noted ε β} {own : α → List γ} {P : List γ → β → Prop}
    (hstep : ∀ a trace b b', P trace b → (f b a).result = .ok b' → P (trace ++ own a) b') :
    ∀ {l : List α} {trace : List γ} {b c : β}, P trace b → (l.foldlM f b).result = .ok c →
      P (trace ++ l.flatMap own) c
  | [], _, _, _, hb, h => by
    cases h
    simpa using hb
  | a :: l, trace, b, c, hb, h => by
    obtain ⟨x, hx, hl⟩ := result_foldlM_cons.1 h
    have hrest := foldlM_traces hstep (hstep a trace b x hb hx) hl
    rwa [List.append_assoc, ← List.flatMap_cons] at hrest

/-- **What each step appends, a run of steps appends**, in order. -/
theorem foldlM_appends {γ : Type} {f : β → α → Noted ε β} {held : β → List γ} {own : α → List γ}
    (hstep : ∀ a b b', (f b a).result = .ok b' → held b' = held b ++ own a) {l : List α} {b c : β}
    (h : (l.foldlM f b).result = .ok c) : held c = held b ++ l.flatMap own := by
  refine foldlM_traces (P := fun trace b => held b = trace) (fun a trace b b' hb hstep' => ?_) rfl h
  rw [hstep a b b' hstep', hb]

theorem andThen_andThen {γ : Type} (a : Noted ε α) (f : α → Noted ε β) (g : β → Noted ε γ) :
    (a.andThen f).andThen g = a.andThen fun x => (f x).andThen g := by
  obtain ⟨n, r⟩ := a
  cases r with
  | error e => rfl
  | ok x =>
    simp only [andThen]
    cases (f x).result <;> simp

end Noted
end ViewAtlas
