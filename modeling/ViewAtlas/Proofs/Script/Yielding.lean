import ViewAtlas.Proofs.Script.Lexing
import ViewAtlas.Script.Reader
/-!
# What readers give

Where a reader made of others succeeds, these have succeeded (`bind_eq_ok` and the lemmas after it).  So a property of
everything that a reader gives (`Yields`) follows from properties of what its parts give.
-/
namespace ViewAtlas
namespace Script

variable {α β : Type} {d d' : Cursor}

/-! ## Success -/

theorem bind_eq_ok {p : Reader α} {f : α → Reader β} {x : β × Cursor} :
    (p >>= f) d = .ok x ↔ ∃ a e, p d = .ok (a, e) ∧ f a e = .ok x := by
  change (p d).bind (fun y => f y.1 y.2) = _ ↔ _
  cases p d with
  | error => simp [Except.bind]
  | ok y =>
    obtain ⟨a, e⟩ := y
    simp [Except.bind]

theorem get_bind_eq_ok {f : Cursor → Reader β} {x : β × Cursor} : (get >>= f) d = .ok x ↔ f d d = .ok x := Iff.rfl

theorem either_eq_ok {p q : Reader α} {x : α × Cursor} (h : either p q d = .ok x) : p d = .ok x ∨ q d = .ok x := by
  unfold either at h
  split at h
  · exact .inr h
  · exact .inl h

theorem attempt_eq_ok {p : Reader α} {o : Option α} (h : attempt p d = .ok (o, d')) :
    o = none ∧ d' = d ∨ ∃ a, o = some a ∧ p d = .ok (a, d') := by
  change either (p >>= fun a => pure (some a)) (pure none) d = _ at h
  rcases either_eq_ok h with h | h
  · obtain ⟨a, e, ha, h⟩ := bind_eq_ok.1 h
    cases h
    exact .inr ⟨a, rfl, ha⟩
  · cases h
    exact .inl ⟨rfl, rfl⟩

theorem repeated_succ_eq_ok {p : Reader α} {n : Nat} {as : List α} (h : repeated p (n + 1) d = .ok (as, d')) :
    as = [] ∧ d' = d ∨ ∃ a e bs, as = a :: bs ∧ p d = .ok (a, e) ∧ repeated p n e = .ok (bs, d') := by
  obtain ⟨o, e, ho, h⟩ := bind_eq_ok.1 h
  have hmove := attempt_eq_ok ho
  cases o with
  | none =>
    cases h
    simpa using hmove
  | some a =>
    obtain ⟨bs, e', hbs, h⟩ := bind_eq_ok.1 h
    cases h
    exact .inr ⟨a, e, bs, rfl, by simpa using hmove, hbs⟩

theorem node_eq_ok {k : Kind} {p : Reader (List Tree)} {t : Tree} (h : node k p d = .ok (t, d')) :
    ∃ cs, p ⟨beyond d.rest, d.pos + gapLength d.rest⟩ = .ok (cs, d') ∧
      t = .node .part k ((beyond d.rest).take (d'.pos - (d.pos + gapLength d.rest))) cs := by
  obtain ⟨_, e, hgap, h⟩ := bind_eq_ok.1 h
  cases hgap
  rw [get_bind_eq_ok] at h
  obtain ⟨cs, e, hcs, h⟩ := bind_eq_ok.1 h
  cases h
  exact ⟨cs, hcs, rfl⟩

theorem exactly_eq_ok {m : String} (h : exactly m d = .ok ((), d')) :
    ∃ x, beyond d.rest = m.toList ++ x ∧ d' = ⟨x, d.pos + gapLength d.rest + m.toList.length⟩ := by
  obtain ⟨_, e, hgap, h⟩ := bind_eq_ok.1 h
  cases hgap
  rw [get_bind_eq_ok] at h
  cases hx : Text.after? m.toList (d.rest.drop (gapLength d.rest)) with
  | none =>
    simp only [hx] at h
    cases h
  | some x =>
    simp only [hx] at h
    have htext : beyond d.rest = m.toList ++ x := Text.eq_append_of_after? hx
    have hdrop : (beyond d.rest).drop m.toList.length = x := by rw [htext, List.drop_left]
    cases h
    exact ⟨x, htext, by rw [← hdrop]; rfl⟩

/-! ## Properties of what is given -/

/-- **Whatever a reader gives** has a property. -/
def Yields (p : Reader α) (Q : α → Prop) : Prop := ∀ ⦃d a d'⦄, p d = .ok (a, d') → Q a

namespace Yields

variable {p q : Reader α} {f : α → Reader β} {P Q : α → Prop} {R : β → Prop}

theorem pure {a : α} (h : Q a) : Yields (pure a) Q := fun _ _ _ hrun => by
  cases hrun
  exact h

theorem refuse : Yields (refuse : Reader α) Q := fun _ _ _ h => by cases h

theorem bind (hp : Yields p Q) (hf : ∀ a, Q a → Yields (f a) R) : Yields (p >>= f) R := fun _ _ _ h => by
  obtain ⟨a, e, ha, h⟩ := bind_eq_ok.1 h
  exact hf a (hp ha) h

theorem skip (hf : ∀ a, Yields (f a) R) : Yields (p >>= f) R :=
  bind (Q := fun _ => True) (fun _ _ _ _ => trivial) fun a _ => hf a

theorem stop : Yields (Script.refuse >>= f) R := fun _ _ _ h => by cases h

theorem either (hp : Yields p Q) (hq : Yields q Q) : Yields (either p q) Q := fun _ _ _ h =>
  (either_eq_ok h).elim (hp ·) (hq ·)

theorem ite {c : Prop} [Decidable c] (hp : Yields p Q) (hq : Yields q Q) : Yields (if c then p else q) Q := by
  split
  · exact hp
  · exact hq

theorem branch {c : Prop} [Decidable c] (hp : Yields p Q) (hq : Yields q Q) (hf : ∀ a, Q a → Yields (f a) R) :
    Yields (if c then p >>= f else q >>= f) R := ite (bind hp hf) (bind hq hf)

theorem last (hp : Yields p Q) : Yields (oneOf [p]) Q := hp

theorem oneOf {ps : List (Reader α)} (hp : Yields p Q) (hps : Yields (oneOf (q :: ps)) Q) :
    Yields (oneOf (p :: q :: ps)) Q := hp.either hps

theorem attempt (hp : Yields p Q) : Yields (attempt p) fun o => ∀ a ∈ o, Q a := fun _ _ _ h => by
  rcases attempt_eq_ok h with ⟨rfl, -⟩ | ⟨a, rfl, ha⟩
  · simp
  · simpa using hp ha

theorem repeated (hp : Yields p Q) : ∀ n, Yields (repeated p n) fun as => ∀ a ∈ as, Q a
  | 0, _, _, _, h => by cases h
  | n + 1, _, _, _, h => by
    rcases repeated_succ_eq_ok h with ⟨rfl, -⟩ | ⟨a, e, bs, rfl, ha, hbs⟩
    · simp
    · exact List.forall_mem_cons.2 ⟨hp ha, repeated hp n hbs⟩

theorem many (hp : Yields p Q) : Yields (many p) fun as => ∀ a ∈ as, Q a := fun _ _ _ h => hp.repeated _ h

theorem listed (hp : Yields p Q) : Yields (listed p) fun as => ∀ a ∈ as, Q a :=
  .bind hp.attempt fun first hfirst => .bind (.many (.skip fun _ => hp.attempt)) fun more hmore => .pure fun a ha => by
    rcases List.mem_append.1 ha with ha | ha
    · exact hfirst a (Option.mem_toList.1 ha)
    · obtain ⟨o, ho, hoa⟩ := List.mem_filterMap.1 ha
      exact hmore o ho a hoa

theorem separated (hp : Yields p Q) : Yields (separated p) fun as => ∀ a ∈ as, Q a :=
  .bind hp fun _ hfirst => .bind (.many (.skip fun _ => hp)) fun _ hmore => .pure (List.forall_mem_cons.2 ⟨hfirst, hmore⟩)

theorem listed1 (hp : Yields p Q) : Yields (listed1 p) fun as => ∀ a ∈ as, Q a :=
  .bind hp fun _ hfirst => .bind (.many (.skip fun _ => hp)) fun _ hmore =>
    .skip fun _ => .pure (List.forall_mem_cons.2 ⟨hfirst, hmore⟩)

end Yields
end Script
end ViewAtlas
