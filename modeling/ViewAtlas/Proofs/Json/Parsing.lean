import Mathlib.Data.List.Chain
import ViewAtlas.Proofs.Json.Lexing
/-!
# Reading phrases

The reader of tokens comes through the phrase of a value and has that value (`Phrase.takes`).  The lists and records
that are open around it are not touched, which is what carries the induction over the phrase.
-/
namespace ViewAtlas
namespace Json

/-! ## Runs of the reader -/

/-- **From one state to another by tokens**, wherever these stand. -/
def Takes (s : State) (tokens : List Token) (s' : State) : Prop :=
  ∀ placed : List (Token × Nat), placed.map (·.1) = tokens → placed.foldlM State.step s = .ok s'

variable {s s' s'' : State} {t : Token} {tokens tokens' : List Token} {outer : List Frame}

theorem Takes.nil : Takes s [] s := by
  intro placed h
  rw [List.map_eq_nil_iff.1 h]
  rfl

theorem Takes.cons (h : ∀ offset, s.step (t, offset) = .ok s') (hrest : Takes s' tokens s'') :
    Takes s (t :: tokens) s'' := by
  intro placed hplaced
  obtain ⟨⟨_, offset⟩, rest, rfl, rfl, hrest'⟩ := List.map_eq_cons_iff.1 hplaced
  rw [List.foldlM_cons, h offset]
  exact hrest rest hrest'

theorem Takes.append (h : Takes s tokens s') (h' : Takes s' tokens' s'') : Takes s (tokens ++ tokens') s'' := by
  intro placed hplaced
  obtain ⟨first, rest, rfl, hfirst, hrest⟩ := List.map_eq_append_iff.1 hplaced
  rw [List.foldlM_append, h first hfirst]
  exact h' rest hrest

def Token.isEnd : Token → Bool
  | .closeList | .closeRecord => true
  | _ => false

theorem Takes.firstItem (h : Takes (.value (.list [] :: outer)) (t :: tokens) s') (ht : t.isEnd = false) :
    Takes (.firstItem outer) (t :: tokens) s' := by
  intro placed hplaced
  obtain ⟨⟨t', offset⟩, rest, rfl, ht', -⟩ := List.map_eq_cons_iff.1 hplaced
  have hstep : State.step (.firstItem outer) (t', offset) = State.step (.value (.list [] :: outer)) (t', offset) := by
    cases ht'
    cases t' <;> first | rfl | cases ht
  rw [← h _ hplaced, List.foldlM_cons, List.foldlM_cons, hstep]

/-! ## Phrases -/

section Shape

variable {relaxed : Bool} {v : Value} {members : List (Option Text × Value)}

theorem Phrase.head (h : Phrase relaxed v tokens) :
    ∃ t rest, tokens = t :: rest ∧ t.isEnd = false := by
  cases h <;> exact ⟨_, _, rfl, rfl⟩

theorem Members.head (h : Members relaxed members tokens) (hne : members ≠ []) :
    ∃ t rest, tokens = t :: rest ∧ t.isEnd = false := by
  have hname : ∀ {name : Option Text} {v : Value} {ts : List Token} (rest : List Token), Phrase relaxed v ts →
      ∃ t rest', nameTokens name ++ (ts ++ rest) = t :: rest' ∧ t.isEnd = false := by
    intro name v ts rest hv
    cases name with
    | none =>
      obtain ⟨t, r, rfl, ht⟩ := hv.head
      exact ⟨t, r ++ rest, rfl, ht⟩
    | some name => exact ⟨_, _, rfl, rfl⟩
  cases h with
  | none => exact absurd rfl hne
  | last hv => simpa using hname [] hv
  | lastComma _ hv => exact hname _ hv
  | more hv _ => exact hname _ hv

theorem Separated.append {mark : Token} (hmark : mark.isMark = true) (h : Separated tokens) (h' : Separated tokens') :
    Separated (tokens ++ mark :: tokens') :=
  List.IsChain.append h (h'.cons fun _ _ => .inl hmark) fun _ _ y hy => by
    cases hy
    exact .inr hmark

theorem separated_named (name : Option Text) (h : Separated tokens) : Separated (nameTokens name ++ tokens) := by
  cases name with
  | none => exact h
  | some name => exact (h.cons fun _ _ => .inl rfl).cons fun _ ht => .inr (by cases ht; rfl)

mutual

theorem Phrase.separated : ∀ {v : Value} {tokens : List Token}, Phrase relaxed v tokens → Separated tokens
  | _, _, .null => .singleton _
  | _, _, .bool _ => .singleton _
  | _, _, .int _ => .singleton _
  | _, _, .text _ => .singleton _
  | _, _, .list h => (Separated.append rfl h.separated .nil).cons fun _ _ => .inl rfl
  | _, _, .record h => (Separated.append rfl h.separated .nil).cons fun _ _ => .inl rfl

theorem Members.separated : ∀ {members : List (Option Text × Value)} {tokens : List Token},
    Members relaxed members tokens → Separated tokens
  | _, _, .none => .nil
  | _, _, .last h => separated_named _ h.separated
  | _, _, .lastComma _ h => separated_named _ (Separated.append rfl h.separated .nil)
  | _, _, .more h hrest => separated_named _ (Separated.append rfl h.separated hrest.separated)

end

end Shape

/-! ## Reading a phrase -/

mutual

/-- **The reader comes through a phrase and has its value.** -/
theorem Phrase.takes : ∀ {v : Value} {tokens : List Token}, Phrase false v tokens → ∀ outer,
    Takes (.value outer) tokens (.after v outer)
  | _, _, .null, _ | _, _, .bool _, _ | _, _, .int _, _ | _, _, .text _, _ => .cons (fun _ => rfl) .nil
  | _, _, @Phrase.list _ items _ h, outer => by
    have hopen : ∀ offset, State.step (.value outer) (.openList, offset) = .ok (.firstItem outer) := fun _ => rfl
    refine .cons hopen ?_
    by_cases hne : items = []
    · subst hne
      cases h
      exact .cons (fun _ => rfl) .nil
    · have htakes := h.takesItems rfl hne outer []
      obtain ⟨t, rest, rfl, ht⟩ := h.head fun hnil => hne (List.map_eq_nil_iff.1 hnil)
      exact htakes.firstItem ht
  | _, _, @Phrase.record _ fields _ h, outer => by
    have hopen : ∀ offset, State.step (.value outer) (.openRecord, offset) = .ok (.fieldName outer [] true) :=
      fun _ => rfl
    refine .cons hopen ?_
    by_cases hne : fields = []
    · subst hne
      cases h
      exact .cons (fun _ => rfl) .nil
    · exact h.takesFields rfl hne outer [] true

theorem Members.takesItems : ∀ {members : List (Option Text × Value)} {tokens : List Token},
    Members false members tokens → ∀ {items : List Value}, members = items.map (fun v => (none, v)) → items ≠ [] →
      ∀ outer before, Takes (.value (.list before :: outer)) (tokens ++ [.closeList])
        (.after (.list (before.reverse ++ items)) outer)
  | _, _, .none, _, hitems, hne, _, _ => absurd (List.map_eq_nil_iff.1 hitems.symm) hne
  | _, _, .last h, _, hitems, _, outer, before => by
    have hvalue := h.takes (.list before :: outer)
    obtain ⟨v, rest, rfl, hv, hrest⟩ := List.map_eq_cons_iff.1 hitems.symm
    cases hv
    cases List.map_eq_nil_iff.1 hrest
    refine hvalue.append (.cons (fun _ => rfl) ?_)
    rw [List.reverse_cons]
    exact .nil
  | _, _, .more h hrest, _, hitems, _, outer, before => by
    have hvalue := h.takes (.list before :: outer)
    obtain ⟨v, rest, rfl, hv, hitems'⟩ := List.map_eq_cons_iff.1 hitems.symm
    have hne : rest ≠ [] := by
      rintro rfl
      cases hitems'
    have hmore := hrest.takesItems hitems'.symm hne outer (v :: before)
    cases hv
    rw [List.reverse_cons, List.append_assoc, List.singleton_append] at hmore
    rw [nameTokens, List.nil_append, List.append_assoc, List.cons_append]
    exact hvalue.append (.cons (fun _ => rfl) hmore)

theorem Members.takesFields : ∀ {members : List (Option Text × Value)} {tokens : List Token},
    Members false members tokens → ∀ {fields : List (Text × Value)}, members = fields.map (fun f => (some f.1, f.2)) →
      fields ≠ [] → ∀ outer before mayEnd, Takes (.fieldName outer before mayEnd) (tokens ++ [.closeRecord])
        (.after (.record (Table.merge before fields)) outer)
  | _, _, .none, _, hfields, hne, _, _, _ => absurd (List.map_eq_nil_iff.1 hfields.symm) hne
  | _, _, .last h, _, hfields, _, outer, before, mayEnd => by
    have hvalue := fun name => h.takes (.record before name :: outer)
    obtain ⟨⟨name, v⟩, rest, rfl, hv, hrest⟩ := List.map_eq_cons_iff.1 hfields.symm
    cases hv
    cases List.map_eq_nil_iff.1 hrest
    have hend : Takes (.afterField outer (before.set name v)) [.closeRecord]
        (.after (.record (Table.merge before [(name, v)])) outer) := .cons (fun _ => rfl) .nil
    exact .cons (fun _ => rfl) (.cons (fun _ => rfl) ((hvalue name).append hend))
  | _, _, .more h hrest, _, hfields, _, outer, before, mayEnd => by
    have hvalue := fun name => h.takes (.record before name :: outer)
    obtain ⟨⟨name, v⟩, rest, rfl, hv, hfields'⟩ := List.map_eq_cons_iff.1 hfields.symm
    have hne : rest ≠ [] := by
      rintro rfl
      cases hfields'
    have hmore := hrest.takesFields hfields'.symm hne outer (before.set name v) false
    cases hv
    have hnext := Takes.cons (s := .afterField outer (before.set name v)) (t := .comma) (fun _ => rfl) hmore
    simp only [nameTokens, List.cons_append, List.append_assoc, List.nil_append]
    exact .cons (fun _ => rfl) (.cons (fun _ => rfl) ((hvalue name).append hnext))

end

/-! ## Reading a document -/

theorem Woven.lead {lexemes : List Text} {s : Text} (h : Woven Blank Blank lexemes s)
    (hspelled : List.Forall₂ Spelled tokens lexemes) (hne : tokens ≠ []) :
    ∃ g c r, s = g ++ c :: r ∧ Blank g ∧ c ∈ markChars ++ '"' :: wordChars := by
  cases h with
  | done _ =>
    cases hspelled
    exact absurd rfl hne
  | @more g l s ls hg h =>
    cases hspelled with
    | cons ht _ =>
      obtain ⟨c, r, rfl, hc⟩ := ht.head
      exact ⟨g, c, r ++ s, rfl, hg, hc⟩

theorem Woven.no_mark {lexemes : List Text} {s : Text} (h : Woven Blank Blank lexemes s)
    (hspelled : List.Forall₂ Spelled tokens lexemes) (hne : tokens ≠ []) : s.head? ≠ some byteOrderMark := by
  have hall : ∀ c ∈ " \t\n\r".toList ++ (markChars ++ '"' :: wordChars), c ≠ byteOrderMark := Text.forall_mem_of_all (by decide)
  obtain ⟨g, c, r, rfl, hg, hc⟩ := h.lead hspelled hne
  rintro hmark
  cases g with
  | nil => exact hall c (List.mem_append_right _ hc) (Option.some.inj hmark)
  | cons d g =>
    exact hall d (List.mem_append_left _ (mem_of_isGap (hg d (List.mem_cons_self ..)))) (Option.some.inj hmark)

theorem Phrase.ne_nil {relaxed : Bool} {v : Value} (h : Phrase relaxed v tokens) : tokens ≠ [] := by
  obtain ⟨t, rest, rfl, -⟩ := h.head
  exact List.cons_ne_nil t rest

/-- **A strict document is read as the value that it was written of.** -/
theorem WrittenStrictly.read {v : Value} {document : Text} (h : WrittenStrictly v document) :
    read document = .ok v := by
  obtain ⟨tokens, lexemes, hphrase, hspelled, hwoven⟩ := h
  have hrun : (tokensFrom 0 document).foldlM State.step (.value []) = .ok (.done v) :=
    hphrase.takes [] _ (tokensFrom_woven hwoven hspelled hphrase.separated 0)
  rw [Json.read, if_neg (hwoven.no_mark hspelled hphrase.ne_nil)]
  exact hrun ▸ rfl

end Json
end ViewAtlas
