import ViewAtlas.Proofs.Script.Running
import ViewAtlas.Script.Reading
/-!
# How an operand becomes an expression

An expression that is one operand is tried as an arrow function, as an assignment to a pattern, and with every operator
that may follow.  `reads_expression` says that nothing of this takes effect before a character that stops it.
-/
namespace ViewAtlas
namespace Script

variable {α β : Type} {N n : Nat} {s r t g : Text} {P : Char → Bool} {self : Nested}

/-! ## The first character of what comes next -/

/-- **The next token starts with such a character**, if there is one. -/
def Leads (P : Char → Bool) (s : Text) : Prop := ∀ c ∈ lead s, P c = true

def Avoids (P : Char → Bool) (m : String) : Bool := m.toList.head?.any fun c => !P c

theorem Leads.ne {m : String} (h : Leads P s) (hm : Avoids P m = true) : ∀ c ∈ lead s, m.toList.head? ≠ some c := by
  intro c hc heq
  rw [Avoids, heq, Option.any_some, h c hc] at hm
  cases hm

theorem Leads.beyond (h : Leads P s) : Leads P (beyond s) := fun c hc => h c (by rwa [lead_beyond] at hc)

theorem Leads.refuses_mark (h : Leads P s) {m : String} (hm : Avoids P m = true) : Refuses N (mark m) s :=
  Script.refuses_mark (h.ne hm)

theorem Leads.markAhead (h : Leads P s) {m : String} (hm : Avoids P m = true) : Reads N (markAhead m) s s false :=
  reads_markAhead_ne (h.ne hm)

theorem Leads.refuses_markOf (h : Leads P s) {ms : List String} (hm : ms.all (Avoids P) = true) :
    Refuses N (markOf ms) s :=
  Script.refuses_markOf fun c hc m hmem => h.ne (List.all_eq_true.1 hm m hmem) c hc

theorem Leads.refuses_exactly (h : Leads P s) {m : String} (hm : Avoids P m = true) : Refuses N (exactly m) s := by
  refine Script.refuses_exactly (h.ne hm) fun hnil => ?_
  rw [Avoids, hnil] at hm
  cases hm

theorem leads_cons {c : Char} (hg : IsGap g) (hs : gapLength (c :: s) = 0) (hP : P c = true) : Leads P (g ++ c :: s) := by
  intro d hd
  rw [lead_append hg hs] at hd
  cases hd
  exact hP

theorem leads_single {c : Char} (hg : IsGap g) (hc : c ∈ singles) (hP : P c = true) : Leads P (g ++ c :: s) :=
  leads_cons hg (gapLength_single hc) hP

theorem endsWord_single {c : Char} (hg : IsGap g) (hc : c ∈ singles) : EndsWord (g ++ c :: s) := by
  have hall : ∀ c ∈ singles, isWordPart c = false ∧ c ≠ '\\' := Text.forall_mem_of_all (by decide)
  refine hg.endsWord fun _ d hd => ?_
  cases hd
  exact hall c hc

/-- The characters before which an expression ends. -/
def stops (c : Char) : Bool := [',', ']', '\x7d', ')', ';'].contains c

theorem Leads.nextWord_eq_nil (h : Leads stops s) : nextWord s = [] := by
  have hall : ∀ c ∈ [',', ']', '\x7d', ')', ';'], startsWord c = false := Text.forall_mem_of_all (by decide)
  exact Script.nextWord_eq_nil fun c hc => hall c (List.contains_iff_mem.1 (h c hc))

theorem Leads.head (h : Leads P s) : ∀ c ∈ s.head?, isSpace c = true ∨ c = '/' ∨ P c = true := by
  intro c hc
  by_cases hspace : isSpace c = true
  · exact .inl hspace
  by_cases hslash : c = '/'
  · exact .inr (.inl hslash)
  refine .inr (.inr (h c ?_))
  have hgap : gapLength s = 0 := gapLength_eq_zero fun d hd => by
    cases hc.symm.trans hd
    exact ⟨by simpa using hspace, hslash⟩
  rwa [lead, Script.beyond, hgap, List.drop_zero]

theorem Leads.ends (h : Leads stops s) : EndsWord s ∧ EndsNumber s := by
  have hall : ∀ c ∈ s.head?, isWordPart c = false ∧ c ≠ '\\' ∧ c ≠ '.' := by
    intro c hc
    rcases h.head c hc with hspace | rfl | hstop
    · refine ⟨by simp [isWordPart, hspace], ?_, ?_⟩ <;> rintro rfl <;> exact absurd hspace (by decide)
    · decide
    · have hstops : ∀ c ∈ [',', ']', '\x7d', ')', ';'], isWordPart c = false ∧ c ≠ '\\' ∧ c ≠ '.' := Text.forall_mem_of_all (by decide)
      exact hstops c (List.contains_iff_mem.1 hstop)
  exact ⟨fun c hc => ⟨(hall c hc).1, (hall c hc).2.1⟩, fun c hc => ⟨(hall c hc).1, (hall c hc).2.2⟩⟩

/-! ## What may follow an operand -/

theorem refuses_typeArguments (h : Leads P s) (hm : Avoids P "<" = true) : Refuses N (typeArguments self) s :=
  refuses_node ((h.beyond.refuses_exactly hm).bind _)

theorem refuses_typeParameters (h : Leads P s) (hm : Avoids P "<" = true) : Refuses N (typeParameters self) s :=
  refuses_node ((h.beyond.refuses_exactly hm).bind _)

theorem refuses_parameters (h : Leads P s) (hm : Avoids P "(" = true) : Refuses N (parameters self) s :=
  refuses_node ((h.beyond.refuses_mark hm).bind _)

theorem refuses_memberAccess (h : Leads P s) (hm : [".", "?."].all (Avoids P) = true) (start : Cursor) (left : Tree) :
    Refuses N (memberAccess start left) s :=
  (h.refuses_markOf hm).discard.bind _

theorem refuses_indexAccess (h : Leads P s) (hm : Avoids P "?." = true) (hm' : Avoids P "[" = true) (start : Cursor)
    (left : Tree) : Refuses N (indexAccess self start left) s :=
  (h.refuses_mark hm).attempt.discard.bind_refuses ((h.refuses_mark hm').bind _)

theorem refuses_nonNull (h : Leads P s) (hm : Avoids P "!" = true) (start : Cursor) (left : Tree) :
    Refuses N (nonNull start left) s := by
  refine refuses_lineEnds fun b => ?_
  cases b
  · exact (h.refuses_mark hm).bind _
  · exact refuses_refuse.bind _

theorem reads_instanceEnds : ∃ b, Reads N instanceEnds s s b := by
  cases hs : beyond s with
  | nil => exact ⟨true, reads_upcoming.bind (by rw [hs]; exact reads_pure true)⟩
  | cons c r => exact ⟨_, reads_upcoming.bind (by rw [hs]; exact reads_pure _)⟩

theorem refuses_callStep (h : Leads P s) (hm : ["?.", "<", "(", "\x60"].all (Avoids P) = true) (start : Cursor)
    (left : Tree) : Refuses N (callStep self start left) s := by
  simp only [List.all_cons, List.all_nil, Bool.and_true, Bool.and_eq_true] at hm
  obtain ⟨hoptional, htypes, hcall, htagged⟩ := hm
  refine ((h.refuses_mark hoptional).bind _).attempt.bind_refuses ?_
  refine (refuses_typeArguments h htypes).attempt.bind_refuses ?_
  refine (h.markAhead hcall).bind_refuses ?_
  rw [if_neg Bool.false_ne_true, if_neg (by simp)]
  refine reads_upcoming.bind_refuses ?_
  rw [if_neg fun hhead : (Script.beyond s).head? = some '\x60' => h.ne htagged '\x60' hhead rfl]
  obtain ⟨b, hb⟩ := reads_instanceEnds (N := N) (s := s)
  refine hb.bind_refuses (refuses_lineEnds fun b' => ?_)
  rw [if_neg (by simp)]
  exact refuses_refuse

def postfixStep (self : Nested) (start : Cursor) (left : Tree) : Reader Tree :=
  oneOf [callStep self start left, memberAccess start left, indexAccess self start left, nonNull start left]

/-- **An operand is not extended** where an expression ends. -/
theorem steps_done (h : Leads stops s) (start : Cursor) (left : Tree) :
    Steps N (postfixStep self start) s s left left := by
  refine .done (refuses_oneOf fun p hp => ?_)
  simp only [List.mem_cons, List.not_mem_nil, or_false] at hp
  rcases hp with rfl | rfl | rfl | rfl
  · exact refuses_callStep h (by decide) start left
  · exact refuses_memberAccess h (by decide) start left
  · exact refuses_indexAccess h (by decide) (by decide) start left
  · exact refuses_nonNull h (by decide) start left

/-- **What is read as an operand with everything after it.** -/
theorem reads_postfixed {e e' : Tree} (hg : IsGap g) (hs : gapLength s = 0) (hp : Reads N (primary self) s t e)
    (hsteps : ∀ pos, pos + s.length = N → Steps N (postfixStep self ⟨s, pos⟩) t r e e') (hle : r.length ≤ s.length) (h : Leads stops r) :
    Reads N (postfixed self) (g ++ s) r e' := by
  refine (reads_gap_append hg hs).bind (reads_get hle fun pos hpos => ?_)
  refine hp.bind ((hsteps pos hpos).extendedAll.bind (Refuses.attempt ?_ |>.bind ?_))
  · refine refuses_lineEnds fun b => ?_
    cases b
    · exact h.refuses_markOf (by decide)
    · exact refuses_refuse.bind _
  · exact reads_pure e'

theorem refuses_operatorStep (h : Leads stops s) : Refuses N (operatorStep self) s := by
  refine refuses_oneOf fun p hp => ?_
  simp only [List.mem_cons, List.not_mem_nil, or_false] at hp
  rcases hp with rfl | rfl | rfl
  · exact (h.refuses_markOf (by decide)).discard.bind _
  · refine (refuses_keywordOf ?_).discard.bind _
    rw [h.nextWord_eq_nil]
    decide
  · refine refuses_lineEnds fun b => ?_
    cases b
    · refine (refuses_keywordOf ?_).discard.bind _
      rw [h.nextWord_eq_nil]
      decide
    · exact refuses_refuse.bind _

theorem reads_operation {e : Tree} (hg : IsGap g) (hs : gapLength s = 0) (he : Reads N (self .operand) s r e)
    (h : Leads stops r) : Reads N (operation self) (g ++ s) r e := by
  refine (reads_gap_append hg hs).bind (reads_get he.le fun pos hpos => ?_)
  exact he.bind ((refuses_operatorStep h).many.bind (reads_pure e))

theorem reads_operationOrAssignment {e : Tree} (hg : IsGap g) (hs : gapLength s = 0) (he : Reads N (self .operand) s r e)
    (h : Leads stops r) (annotated : Bool) : Reads N (operationOrAssignment self annotated) (g ++ s) r e := by
  refine (reads_gap_append hg hs).bind (reads_get he.le fun pos hpos => ?_)
  refine (reads_operation .nil hs he h).bind ((h.markAhead (by decide)).bind ?_)
  rw [if_neg Bool.false_ne_true]
  split
  · exact (h.refuses_markOf (by decide)).attempt.bind (reads_pure e)
  · exact reads_pure e

/-- **What is read as an operand is read as an expression**, where neither an arrow function nor an assignment to a
pattern can be read. -/
theorem reads_expression {e : Tree} {annotated : Bool} (hg : IsGap g) (hs : gapLength s = 0)
    (hyield : nextWord (g ++ s) ≠ "yield".toList) (harrow : Refuses N (arrowFunction (nested n) annotated) (g ++ s))
    (hpattern : Refuses N (destructuring (nested n) annotated) (g ++ s)) (he : Reads N (nested n .operand) s r e)
    (h : Leads stops r) : Reads N (nested (n + 1) (.expression annotated)) (g ++ s) r e := by
  refine (reads_keywordAhead_ne hyield).bind ?_
  rw [if_neg Bool.false_ne_true]
  exact harrow.oneOf_reads (hpattern.oneOf_reads ((reads_operationOrAssignment hg hs he h annotated).oneOf []))

/-! ## How an operand starts -/

/-- The characters with which an operand without operators before it may start. -/
def opens (c : Char) : Bool := ['"', '\'', '[', '\x7b', '.'].contains c || c.isDigit || startsWord c

/-- The words that an operand starts with and that are no operand of their own. -/
def operandWords : List Text := ["typeof", "void", "delete", "await"].map String.toList

theorem eq_toList {w : Text} {k : String} (h : String.ofList w = k) : w = k.toList := by rw [← h, String.toList_ofList]

theorem mem_of_ofList {ws : List String} {w : Text} {k : String} (h : String.ofList w = k) (hk : k ∈ ws) :
    w ∈ ws.map String.toList := List.mem_map.2 ⟨k, hk, (eq_toList h).symm⟩

theorem reads_operand {e : Tree} (hg : IsGap g) (hs : gapLength s = 0) (hopens : ∃ c ∈ s.head?, opens c = true)
    (hword : nextWord (g ++ s) ∉ operandWords) (he : Reads N (postfixed (nested n)) (g ++ s) r e) :
    Reads N (nested (n + 1) .operand) (g ++ s) r e := by
  obtain ⟨c, hc, hopen⟩ := hopens
  obtain ⟨x, rfl⟩ := List.head?_eq_some_iff.1 hc
  have hbeyond : beyond (g ++ c :: x) = c :: x := beyond_append hg hs
  refine reads_upcoming.bind ?_
  rw [hbeyond]
  dsimp only
  have hplus : ∀ d ∈ "+-!~".toList, opens d = false := Text.forall_mem_of_all (by decide)
  rw [if_neg fun hmem => by rw [hplus c (List.contains_iff_mem.1 hmem)] at hopen; cases hopen]
  rw [if_neg fun hless => by rw [hless] at hopen; exact absurd hopen (by decide)]
  rw [nextWord, hbeyond] at hword
  split
  case h_5 => exact he
  all_goals exact absurd (mem_of_ofList (by assumption) (by decide)) hword

/-! ## What an operand is -/

theorem reads_primary {e : Tree} (hnew : nextWord s ≠ "new".toList)
    (h : Reads N (primaryOf self (classBase self)) s r e) : Reads N (primary self) s r e := by
  refine Refuses.either_reads (refuses_node ((refuses_keyword ?_).bind _)) h
  rwa [nextWord_beyond]

theorem nextWord_cons {c : Char} {x : Text} (hgap : gapLength (c :: x) = 0) (hc : startsWord c = false) :
    nextWord (c :: x) = [] := by
  refine Script.nextWord_eq_nil fun d hd => ?_
  rw [lead, show Script.beyond (c :: x) = c :: x from beyond_append .nil hgap] at hd
  cases hd
  exact hc

theorem reads_primary_string {e : Tree} {c : Char} {x : Text} (hc : c = '"' ∨ c = '\'')
    (h : Reads N stringLiteral (c :: x) r e) : Reads N (primary self) (c :: x) r e := by
  have hgap : gapLength (c :: x) = 0 := gapLength_eq_zero fun d hd => by
    cases hd
    rcases hc with rfl | rfl <;> decide
  have hword : startsWord c = false := by rcases hc with rfl | rfl <;> decide
  refine reads_primary (by rw [nextWord_cons hgap hword]; decide) (reads_upcoming.bind ?_)
  rw [show Script.beyond (c :: x) = c :: x from beyond_append .nil hgap]
  dsimp only
  rwa [if_pos hc]

theorem reads_primary_number {e : Tree} {c : Char} {x : Text} (hc : c.isDigit = true ∨ c = '.')
    (h : Reads N number (c :: x) r e) : Reads N (primary self) (c :: x) r e := by
  have hgap : gapLength (c :: x) = 0 := gapLength_eq_zero fun d hd => by
    cases hd
    rcases hc with hdigit | rfl
    · exact isSpace_of_isWordPart (isWordPart_of_isHexDigit (isHexDigit_of_isDigit hdigit))
    · decide
  have hne : ∀ d, d.isDigit = false ∧ d ≠ '.' → c ≠ d := by
    rintro d ⟨hdigit, hpoint⟩ rfl
    rcases hc with h | h
    · rw [h] at hdigit
      cases hdigit
    · exact hpoint h
  have hword : startsWord c = false := by
    rcases hc with hdigit | rfl
    · simp [startsWord, hdigit, hne '\\' (by decide)]
    · decide
  refine reads_primary (by rw [nextWord_cons hgap hword]; decide) (reads_upcoming.bind ?_)
  rw [show Script.beyond (c :: x) = c :: x from beyond_append .nil hgap]
  dsimp only
  rw [if_neg (not_or.2 ⟨hne _ (by decide), hne _ (by decide)⟩), if_neg (hne _ (by decide))]
  rcases hc with hdigit | rfl
  · rwa [if_pos hdigit]
  · rwa [if_neg (by decide), if_pos rfl]

theorem reads_primary_array {e : Tree} {x : Text} (h : Reads N (arrayLiteral self) ('[' :: x) r e) :
    Reads N (primary self) ('[' :: x) r e := by
  have hgap : gapLength ('[' :: x) = 0 := gapLength_single (by decide)
  refine reads_primary (by rw [nextWord_cons hgap (by decide)]; decide) (reads_upcoming.bind ?_)
  rw [show Script.beyond ('[' :: x) = '[' :: x from beyond_append .nil hgap]
  exact h

theorem reads_primary_object {e : Tree} {x : Text} (h : Reads N (objectLiteral self) ('\x7b' :: x) r e) :
    Reads N (primary self) ('\x7b' :: x) r e := by
  have hgap : gapLength ('\x7b' :: x) = 0 := gapLength_single (by decide)
  refine reads_primary (by rw [nextWord_cons hgap (by decide)]; decide) (reads_upcoming.bind ?_)
  rw [show Script.beyond ('\x7b' :: x) = '\x7b' :: x from beyond_append .nil hgap]
  exact h

theorem reads_asyncMark_or {w : Text} (hw : IsWord w) (hend : EndsWord r) :
    Refuses N asyncMark (w ++ r) ∨ Reads N asyncMark (w ++ r) r () := by
  by_cases hasync : w = "async".toList
  · subst hasync
    obtain ⟨b, hb⟩ := reads_lineEnds (N := N) (s := r)
    cases b
    · exact .inr ((reads_keyword .nil hw hend).bind (hb.bind (reads_pure ())))
    · exact .inl ((reads_keyword .nil hw hend).bind_refuses (hb.bind_refuses refuses_refuse))
  · refine .inl ((refuses_keyword ?_).bind _)
    rwa [show nextWord (w ++ r) = w from nextWord_append .nil hw hend]

/-- No function starts with a name, not even with the name `async` where an expression ends. -/
theorem refuses_function {f : Unit → Reader (List Tree)} {w : Text} (hw : IsWord w) (hend : EndsWord r)
    (hfunction : w ≠ "function".toList) (hr : nextWord r ≠ "function".toList) {k : Kind} :
    Refuses N (node k (do discard <| attempt asyncMark; keyword "function"; f ())) (w ++ r) := by
  refine refuses_node ?_
  rw [show Script.beyond (w ++ r) = w ++ r from beyond_append .nil (gapLength_word hw r)]
  rcases reads_asyncMark_or (N := N) hw hend with h | h
  · refine h.attempt.discard.bind_refuses ((refuses_keyword ?_).bind _)
    rwa [show nextWord (w ++ r) = w from nextWord_append .nil hw hend]
  · exact h.attempt.discard.bind_refuses ((refuses_keyword hr).bind _)

theorem reads_primary_word {w : Text} {e : Tree} (hw : IsWord w) (hnew : w ≠ "new".toList) (hend : EndsWord r)
    (h : Reads N (wordPrimary self (classBase self) (String.ofList w)) (w ++ r) t e) :
    Reads N (primary self) (w ++ r) t e := by
  have hnext : nextWord (w ++ r) = w := nextWord_append .nil hw hend
  obtain ⟨c, hc, hstart⟩ := hw.startsWord_head r
  obtain ⟨x, hx⟩ := List.head?_eq_some_iff.1 hc
  refine reads_primary (by rwa [hnext]) (reads_upcoming.bind ?_)
  rw [show Script.beyond (w ++ r) = w ++ r from beyond_append .nil (gapLength_word hw r), hx]
  dsimp only
  have hmarks : ∀ d, startsWord d = false → c ≠ d := by
    rintro d hd rfl
    rw [hstart] at hd
    cases hd
  have hdigit : c.isDigit = false := by
    cases h : c.isDigit with
    | false => rfl
    | true =>
      have hback : c = '\\' := by simpa [startsWord, h] using hstart
      rw [hback] at h
      cases h
  rw [if_neg (not_or.2 ⟨hmarks _ (by decide), hmarks _ (by decide)⟩), if_neg (hmarks _ (by decide)), if_neg (by simp [hdigit]),
    if_neg (hmarks _ (by decide)), if_neg (hmarks _ (by decide)), if_neg (hmarks _ (by decide)),
    if_neg (hmarks _ (by decide)), if_neg (hmarks _ (by decide)), if_neg (hmarks _ (by decide)),
    if_neg (hmarks _ (by decide)), ← hx, wordLength_append hw hend, List.take_left]
  exact h

theorem reads_primary_name {w : Text} (hw : IsWord w) (hfree : w ∉ reservedWords) (hend : EndsWord r)
    (hr : nextWord r ≠ "function".toList) :
    Reads N (primary self) (w ++ r) r (.node .part .identifier w []) := by
  have hne : ∀ k ∈ reservedWords, w ≠ k := fun k hk heq => hfree (heq ▸ hk)
  have hname := reads_identifier (N := N) .nil hw hfree hend
  have hfunction : Refuses N (functionExpression self) (w ++ r) :=
    refuses_function hw hend (hne _ (by decide)) hr (f := fun _ => do
      let name ← attempt identifier
      let s ← signature self
      let b ← block self
      return name.toList ++ s ++ [b.as .body])
  have hgenerator : Refuses N (generatorExpression self) (w ++ r) :=
    refuses_function hw hend (hne _ (by decide)) hr (f := fun _ => do
      mark "*"
      let name ← attempt identifier
      let s ← signature self
      let b ← block self
      return name.toList ++ s ++ [b])
  have hconstant : Refuses N constant (w ++ r) := by
    refine refuses_node ((refuses_keywordOf ?_).discard.bind _)
    rw [nextWord_beyond, show nextWord (w ++ r) = w from nextWord_append .nil hw hend]
    intro hmem
    have hreserved : ∀ k ∈ ["this", "super", "null", "true", "false"].map String.toList, k ∈ reservedWords := by decide
    exact hfree (hreserved w hmem)
  refine reads_primary_word hw (hne _ (by decide)) hend ?_
  unfold wordPrimary
  split
  · exact absurd (eq_toList (by assumption)) (hne "function".toList (by decide))
  · exact absurd (eq_toList (by assumption)) (hne "class".toList (by decide))
  · exact absurd (eq_toList (by assumption)) (hne "import".toList (by decide))
  · exact hfunction.oneOf_reads (hgenerator.oneOf_reads (hname.oneOf []))
  · exact hconstant.either_reads hname

/-! ## What an operand is not -/

def asyncHead : Reader Unit := do
  asyncMark
  unless (← markAhead "(") || (← markAhead "<") || (← wordAhead).isSome do refuse

theorem refuses_asyncHead {w : Text} (hw : IsWord w) (hend : EndsWord r) (hr : Leads stops r) :
    Refuses N asyncHead (w ++ r) := by
  rcases reads_asyncMark_or (N := N) hw hend with h | h
  · exact h.bind _
  · refine h.bind_refuses ((hr.markAhead (by decide)).bind_refuses ((hr.markAhead (by decide)).bind_refuses ?_))
    refine reads_wordAhead.bind_refuses ?_
    rw [hr.nextWord_eq_nil, if_pos rfl, if_neg (by decide)]
    exact refuses_refuse

/-- **What starts with no parenthesis is no arrow function** unless it starts with a name before an arrow. -/
theorem refuses_arrowFunction {annotated : Bool} (hs : Leads P s) (hm : ["<", "("].all (Avoids P) = true)
    (hasync : Refuses N asyncHead (Script.beyond s))
    (hname : Refuses N (do let p ← identifier; mark "=>"; return [p]) (Script.beyond s)) :
    Refuses N (arrowFunction self annotated) s := by
  simp only [List.all_cons, List.all_nil, Bool.and_true, Bool.and_eq_true] at hm
  refine refuses_node (hasync.attempt.discard.bind_refuses ((hname.either ?_).bind _))
  exact (refuses_typeParameters hs.beyond hm.1).attempt.bind_refuses ((refuses_parameters hs.beyond hm.2).bind _)

/-- **What is no pattern before a sign is no assignment to a pattern.** -/
theorem refuses_destructuring {annotated : Bool} (hr : Leads stops r)
    (hpattern : Refuses N (self .pattern) (Script.beyond s) ∨ ∃ e, Reads N (self .pattern) (Script.beyond s) r e) :
    Refuses N (destructuring self annotated) s := by
  refine refuses_node ((reads_markAhead _).bind_refuses ((reads_markAhead _).bind_refuses ?_))
  split
  · rcases hpattern with h | ⟨e, h⟩
    · exact h.bind _
    · exact h.bind_refuses ((hr.refuses_mark (by decide)).bind _)
  · exact refuses_refuse.bind _

theorem refuses_destructuring_of_leads {annotated : Bool} (hs : Leads P s) (hm : ["\x7b", "["].all (Avoids P) = true) :
    Refuses N (destructuring self annotated) s := by
  simp only [List.all_cons, List.all_nil, Bool.and_true, Bool.and_eq_true] at hm
  refine refuses_node ((hs.beyond.markAhead hm.1).bind_refuses ((hs.beyond.markAhead hm.2).bind_refuses ?_))
  exact refuses_refuse.bind _

theorem refuses_primary (h : Leads stops s) : Refuses N (primary self) s := by
  have hnext := h.nextWord_eq_nil
  refine (refuses_node ((refuses_keyword ?_).bind _)).either (reads_upcoming.bind_refuses ?_)
  · rw [nextWord_beyond, hnext]
    decide
  have hconstant : Refuses N constant s := by
    refine refuses_node ((refuses_keywordOf ?_).discard.bind _)
    rw [nextWord_beyond, hnext]
    decide
  cases hs : Script.beyond s with
  | nil => exact refuses_refuse
  | cons c x =>
    have hstop : c ∈ [',', ']', '\x7d', ')', ';'] := by
      refine List.contains_iff_mem.1 (h c ?_)
      rw [lead, hs]
      rfl
    have hne : ∀ d, d ∉ [',', ']', '\x7d', ')', ';'] → c ≠ d := fun d hd heq => hd (heq ▸ hstop)
    have hdigit : c.isDigit = false := by
      have hall : ∀ c ∈ [',', ']', '\x7d', ')', ';'], c.isDigit = false := Text.forall_mem_of_all (by decide)
      exact hall c hstop
    have hword : (c :: x).take (wordLength (c :: x)) = [] := by
      rw [← hs]
      exact hnext
    dsimp only
    rw [if_neg (not_or.2 ⟨hne _ (by decide), hne _ (by decide)⟩), if_neg (hne _ (by decide)), if_neg (by simp [hdigit]),
      if_neg (hne _ (by decide)), if_neg (hne _ (by decide)), if_neg (hne _ (by decide)), if_neg (hne _ (by decide)),
      if_neg (hne _ (by decide)), if_neg (hne _ (by decide)), if_neg (hne _ (by decide)), hword]
    exact hconstant.either (refuses_identifier (.inl hnext))

theorem refuses_operand (h : Leads stops s) : Refuses N (nested (n + 1) .operand) s := by
  refine reads_upcoming.bind_refuses ?_
  have hpostfixed : Refuses N (postfixed (nested n)) s :=
    reads_gap.bind_refuses (refuses_get fun _ _ => (refuses_primary h.beyond).bind _)
  cases hs : Script.beyond s with
  | nil => exact refuses_refuse
  | cons c x =>
    have hstop : c ∈ [',', ']', '\x7d', ')', ';'] := by
      refine List.contains_iff_mem.1 (h c ?_)
      rw [lead, hs]
      rfl
    have hsign : ∀ c ∈ [',', ']', '\x7d', ')', ';'], ("+-!~".toList.contains c) = false ∧ c ≠ '<' := Text.forall_mem_of_all (by decide)
    have hword : (c :: x).take (wordLength (c :: x)) = [] := by
      rw [← hs]
      exact h.nextWord_eq_nil
    dsimp only
    rw [if_neg (by rw [(hsign c hstop).1]; exact Bool.false_ne_true), if_neg (hsign c hstop).2, hword]
    exact hpostfixed

theorem refuses_expression {annotated : Bool} (h : Leads stops s) :
    Refuses N (nested (n + 2) (.expression annotated)) s := by
  have hnext := h.nextWord_eq_nil
  have hasync : Refuses N asyncHead (Script.beyond s) := by
    refine ((refuses_keyword ?_).bind _).bind _
    rw [nextWord_beyond, hnext]
    decide
  have hidentifier : Refuses N identifier (Script.beyond s) := refuses_identifier (.inl (by rw [nextWord_beyond, hnext]))
  refine (reads_keywordAhead_ne (by rw [hnext]; decide)).bind_refuses ?_
  rw [if_neg Bool.false_ne_true]
  refine refuses_oneOf fun p hp => ?_
  simp only [List.mem_cons, List.not_mem_nil, or_false] at hp
  rcases hp with rfl | rfl | rfl
  · exact refuses_arrowFunction h (by decide) hasync (hidentifier.bind _)
  · exact refuses_destructuring_of_leads h (by decide)
  · refine reads_gap.bind_refuses (refuses_get fun _ _ => ?_)
    refine Refuses.bind (reads_gap.bind_refuses (refuses_get fun _ _ => Refuses.bind ?_ _)) _
    rw [beyond_beyond]
    exact refuses_operand h.beyond

/-! ## Names of members -/

theorem reads_propertyName_string {x : Text} (hg : IsGap g) (hx : IsQuoted x) :
    Reads N (propertyName self) (g ++ (x ++ r)) r (.node .part .string x []) :=
  (reads_stringLiteral hg hx).oneOf _

theorem reads_propertyName_word {w : Text} (hg : IsGap g) (hw : IsWord w) (hend : EndsWord r) :
    Reads N (propertyName self) (g ++ (w ++ r)) r (.node .part .identifier w []) := by
  have hgap := gapLength_word hw r
  have hleads : Leads startsWord (g ++ (w ++ r)) := by
    intro c hc
    obtain ⟨d, hd, hstart⟩ := hw.startsWord_head r
    rw [lead_append hg hgap] at hc
    cases hc.symm.trans hd
    exact hstart
  have hword : ∀ d, startsWord d = false → ∀ c ∈ lead (g ++ (w ++ r)), c ≠ d := by
    rintro d hd c hc rfl
    rw [hleads c hc] at hd
    cases hd
  have hdigit : ∀ c ∈ lead (g ++ (w ++ r)), c.isDigit = false := by
    intro c hc
    cases h : c.isDigit with
    | false => rfl
    | true =>
      have hback : c = '\\' := by simpa [startsWord, h] using hleads c hc
      exact absurd h (by rw [hback]; decide)
  refine Refuses.oneOf_reads (refuses_stringLiteral fun c hc => ⟨hword _ (by decide) c hc, hword _ (by decide) c hc⟩) ?_
  refine Refuses.oneOf_reads (refuses_number fun c hc => ⟨hdigit c hc, hword _ (by decide) c hc⟩) ?_
  refine Refuses.oneOf_reads (refuses_node ((hleads.beyond.refuses_mark (by decide)).bind _)) ?_
  refine Refuses.oneOf_reads (refuses_node ((hleads.beyond.refuses_exactly (by decide)).bind _)) ?_
  have hread : Reads N (do discard word; return []) (w ++ r) r ([] : List Tree) :=
    (reads_word .nil hw hend).discard.bind (reads_pure [])
  exact (hread.node hg hgap).oneOf []

theorem refuses_propertyName (h : Leads stops s) : Refuses N (propertyName self) s := by
  have hne : ∀ d, stops d = false → ∀ c ∈ lead s, c ≠ d := by
    rintro d hd c hc rfl
    rw [h c hc] at hd
    cases hd
  have hdigit : ∀ c ∈ lead s, c.isDigit = false := by
    have hall : ∀ c ∈ [',', ']', '\x7d', ')', ';'], c.isDigit = false := Text.forall_mem_of_all (by decide)
    exact fun c hc => hall c (List.contains_iff_mem.1 (h c hc))
  refine refuses_oneOf fun p hp => ?_
  simp only [List.mem_cons, List.not_mem_nil, or_false] at hp
  rcases hp with rfl | rfl | rfl | rfl | rfl
  · exact refuses_stringLiteral fun c hc => ⟨hne _ (by decide) c hc, hne _ (by decide) c hc⟩
  · exact refuses_number fun c hc => ⟨hdigit c hc, hne _ (by decide) c hc⟩
  · exact refuses_node ((h.beyond.refuses_mark (by decide)).bind _)
  · exact refuses_node ((h.beyond.refuses_exactly (by decide)).bind _)
  · refine refuses_node (Refuses.discard (refuses_word ?_) |>.bind _)
    rw [nextWord_beyond, h.nextWord_eq_nil]

end Script
end ViewAtlas
