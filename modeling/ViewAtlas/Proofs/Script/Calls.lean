import ViewAtlas.Proofs.Script.Variables
/-!
# How calls are read

Calls with dotted callees, whose arguments are literals, calls and arrow functions with bodies made of calls, are printed with
gaps of a layout.  `nested_call` and `nested_body` say which trees are read off them.
-/
namespace ViewAtlas
namespace Script

/-! ## Printed calls -/

/-- **A layout**: the gap between the words of a phrase, and the gap around statements and members. -/
structure Layout where
  blank : Gap
  blank_ne : blank.text ≠ []
  line : Gap

/-- The words that are names for the compiler, and something else in places. -/
def contextualWords : List Text :=
  ["abstract", "accessor", "async", "declare", "get", "implements", "interface", "let", "module", "namespace", "override",
    "private", "protected", "public", "readonly", "set", "static", "type"].map String.toList

/-- A name that is a name everywhere. -/
structure Plain extends Name where
  plain : text ∉ contextualWords

/-- **What is called**: a name, or `this` where there is none, and the members after it. -/
structure Callee where
  head? : Option Plain
  members : List Word

mutual

inductive Arg where
  | literal (l : Literal)
  | call (c : Call)
  | arrow (b : Body)

inductive Call where
  | of (callee : Callee) (args : Args)

/-- The arguments of a call: with `more` a comma follows. -/
inductive Args where
  | nothing
  | last (a : Arg)
  | more (a : Arg) (rest : Args)

/-- The statements of a body, each of them a call. -/
inductive Body where
  | nothing
  | more (c : Call) (rest : Body)

end

def arrowText (b b' x : Text) : Text := '(' :: ')' :: (b ++ '=' :: '>' :: (b' ++ '\x7b' :: (x ++ ['\x7d'])))

def membersText : List Word → Text
  | [] => []
  | w :: ws => '.' :: (w.text ++ membersText ws)

namespace Callee

def head (c : Callee) : Text := match c.head? with | some w => w.text | none => "this".toList

def headTree (c : Callee) : Tree :=
  .node .part (match c.head? with | some _ => .identifier | none => .other) c.head []

def text (c : Callee) : Text := c.head ++ membersText c.members

end Callee

def membersTree : Text → Tree → List Word → Tree
  | _, t, [] => t
  | x, t, w :: ws => membersTree (x ++ '.' :: w.text) (.node .part .member (x ++ '.' :: w.text) [t]) ws

def Callee.tree (c : Callee) : Tree := membersTree c.head c.headTree c.members

mutual

def Arg.text (L : Layout) : Arg → Text
  | .literal l => l.text
  | .call c => c.text L
  | .arrow b => arrowText L.blank.text L.blank.text (b.text L)

def Call.text (L : Layout) : Call → Text
  | .of callee args => callee.text ++ '(' :: (args.text L ++ [')'])

def Args.text (L : Layout) : Args → Text
  | .nothing => []
  | .last a => a.text L
  | .more a rest => a.text L ++ ',' :: (L.blank.text ++ rest.text L)

def Body.text (L : Layout) : Body → Text
  | .nothing => L.line.text
  | .more c rest => L.line.text ++ (c.text L ++ ';' :: rest.text L)

end

mutual

def Arg.tree (L : Layout) : Arg → Tree
  | .literal l => l.tree
  | .call c => c.tree L
  | .arrow b =>
    .node .part .function (arrowText L.blank.text L.blank.text (b.text L))
      [.node .part .other ['(', ')'] [], .node .body .block ('\x7b' :: (b.text L ++ ['\x7d'])) (b.trees L)]

def Call.tree (L : Layout) : Call → Tree
  | .of callee args =>
    .node .part .call (callee.text ++ '(' :: (args.text L ++ [')']))
      [callee.tree.as .callee, .node .arguments .arguments ('(' :: (args.text L ++ [')'])) (args.trees L)]

def Args.trees (L : Layout) : Args → List Tree
  | .nothing => []
  | .last a => [a.tree L]
  | .more a rest => a.tree L :: rest.trees L

def Body.trees (L : Layout) : Body → List Tree
  | .nothing => []
  | .more c rest => .node .part .other (c.text L ++ [';']) [c.tree L] :: rest.trees L

end

def Body.tree (L : Layout) (b : Body) : Tree := .node .part .block ('\x7b' :: (b.text L ++ ['\x7d'])) (b.trees L)

def Args.tree (L : Layout) (args : Args) : Tree := .node .part .arguments ('(' :: (args.text L ++ [')'])) (args.trees L)

/-! ## Callees -/

variable {N n : Nat} {s r t g : Text} {P : Char → Bool} {self : Nested} {L : Layout}

theorem Callee.isWord_head (c : Callee) : IsWord c.head := by
  unfold Callee.head
  cases c.head? with
  | some w => exact w.isWord
  | none => exact isWord_of_all (by decide)

theorem Callee.head_notMem (c : Callee) {l : List Text} (hthis : "this".toList ∉ l)
    (hl : ∀ w ∈ l, w ∈ namelessWords ∨ w ∈ contextualWords) : c.head ∉ l := by
  unfold Callee.head
  cases c.head? with
  | some w => exact fun h => (hl _ h).elim w.free w.plain
  | none => exact hthis

theorem leads_word {w : Text} (hg : IsGap g) (hw : IsWord w) : Leads startsWord (g ++ (w ++ r)) := by
  intro c hc
  obtain ⟨d, hd, hstart⟩ := hw.startsWord_head r
  rw [lead_append hg (gapLength_word hw r)] at hc
  cases hc.symm.trans hd
  exact hstart

theorem mark?_point {w : Text} (hw : IsWord w) (r : Text) : mark? ('.' :: (w ++ r)) = some ['.'] := by
  refine mark?_alone ['.'] (by decide) (by decide) (by decide) fun d hd hmem => ?_
  obtain ⟨c, hc, hstart⟩ := hw.startsWord_head r
  cases hc.symm.trans hd
  cases List.mem_singleton.1 hmem
  exact absurd hstart (by decide)

theorem reads_memberAccess (w : Word) (hend : EndsWord r) {x : Text} {left : Tree} {pos : Nat}
    (hpos : pos + (x ++ '.' :: (w.text ++ r)).length = N) :
    Reads N (memberAccess ⟨x ++ '.' :: (w.text ++ r), pos⟩ left) ('.' :: (w.text ++ r)) r
      (.node .part .member (x ++ '.' :: w.text) [left]) := by
  have hpoint : Reads N (markOf [".", "?."]) ('.' :: (w.text ++ r)) (w.text ++ r) ['.'] :=
    reads_markOf (m := ".") (g := []) .nil (gapLength_cons (by decide) _) (mark?_point w.isWord r) (by decide)
  have hword : Leads startsWord (w.text ++ r) := leads_word (g := []) .nil w.isWord
  have htext : x ++ '.' :: (w.text ++ r) = x ++ '.' :: w.text ++ r := by simp
  refine hpoint.discard.bind ((hword.refuses_exactly (by decide)).attempt.discard.bind ?_)
  refine (reads_word (g := []) .nil w.isWord hend).discard.bind ?_
  rw [htext] at hpos ⊢
  exact reads_since hpos

theorem endsWord_membersText (ws : List Word) (hr : EndsWord r) : EndsWord (membersText ws ++ r) := by
  cases ws with
  | nil => exact hr
  | cons w ws =>
    intro c hc
    cases hc
    decide

theorem steps_members {z : Tree} {start : Cursor} (hpos : start.pos + start.rest.length = N) (hr : EndsWord r) :
    ∀ (ws : List Word) {x : Text} {left : Tree}, start.rest = x ++ (membersText ws ++ r) →
      Steps N (postfixStep self start) r t (membersTree x left ws) z →
      Steps N (postfixStep self start) (membersText ws ++ r) t left z
  | [], x, left, _, h => h
  | w :: ws, x, left, hstart, h => by
    have hend : EndsWord (membersText ws ++ r) := endsWord_membersText ws hr
    have htext : membersText (w :: ws) ++ r = '.' :: (w.text ++ (membersText ws ++ r)) := by simp [membersText]
    have hpoint : Leads (fun c => c = '.') ('.' :: (w.text ++ (membersText ws ++ r))) :=
      leads_cons (g := []) .nil (gapLength_cons (by decide) _) (by decide)
    rw [htext] at hstart ⊢
    obtain ⟨rest, pos⟩ := start
    cases hstart
    have haccess : Reads N (memberAccess ⟨x ++ '.' :: (w.text ++ (membersText ws ++ r)), pos⟩ left) _ _ _ :=
      reads_memberAccess w hend hpos
    refine .step ((refuses_callStep hpoint (by decide) _ _).oneOf_reads (haccess.oneOf _)) ?_
      (steps_members hpos hr ws (by simp) h)
    simp only [List.length_cons, List.length_append]
    omega

theorem text_membersTree : ∀ (ws : List Word) {x : Text} {t : Tree}, t.text = x → (membersTree x t ws).text = x ++ membersText ws
  | [], x, t, ht => by rw [membersTree, membersText, List.append_nil, ht]
  | w :: ws, x, t, _ => by
    rw [membersTree, text_membersTree (x := x ++ '.' :: w.text) ws rfl, membersText, List.append_assoc]
    rfl

theorem Callee.text_tree (c : Callee) : c.tree.text = c.text := text_membersTree c.members rfl

theorem Callee.reads_head (c : Callee) (hr : EndsWord r) (hfunction : nextWord r ≠ "function".toList) :
    Reads N (primary self) (c.head ++ r) r c.headTree := by
  unfold Callee.headTree Callee.head
  cases c.head? with
  | some w => exact reads_primary_name w.isWord w.notReserved hr hfunction
  | none =>
    have hthis : IsWord "this".toList := isWord_of_all (by decide)
    refine reads_primary_word hthis (by decide) hr ?_
    have hread : Reads N (do discard <| keywordOf ["this", "super", "null", "true", "false"]; return []) ("this".toList ++ r) r
        ([] : List Tree) :=
      (reads_keywordOf (g := []) .nil hthis (by decide) hr).discard.bind (reads_pure [])
    exact (hread.node (g := []) .nil (gapLength_word hthis r)).either _

/-! ## Calls -/

def argument (self : Nested) : Reader Tree := either (spread self) (self (.expression true))

theorem reads_arguments {x g' : Text} {ts : List Tree} (hg' : IsGap g')
    (h : Lists N (argument self) (x ++ ')' :: r) (g' ++ ')' :: r) ts) :
    Reads N (arguments self) ('(' :: (x ++ ')' :: r)) r (.node .part .arguments ('(' :: (x ++ [')'])) ts) := by
  have hread : Reads N (do
      mark "("
      let items ← listed (argument self)
      mark ")"
      return items) ('(' :: (x ++ ')' :: r)) r ts :=
    (reads_single (g := []) (by decide) rfl .nil).bind (h.listed.bind ((reads_single (by decide) rfl hg').bind (reads_pure _)))
  have htext : '(' :: (x ++ ')' :: r) = '(' :: (x ++ [')']) ++ r := by simp
  rw [htext] at hread ⊢
  exact hread.node (g := []) .nil (gapLength_single (by decide))

theorem reads_callStep {x y g' : Text} {ts : List Tree} {left : Tree} {pos : Nat} (hg' : IsGap g')
    (hpos : pos + (y ++ '(' :: (x ++ ')' :: r)).length = N)
    (h : Lists N (argument self) (x ++ ')' :: r) (g' ++ ')' :: r) ts) :
    Reads N (callStep self ⟨y ++ '(' :: (x ++ ')' :: r), pos⟩ left) ('(' :: (x ++ ')' :: r)) r
      (.node .part .call (y ++ '(' :: (x ++ [')']))
        [left.as .callee, .node .arguments .arguments ('(' :: (x ++ [')'])) ts]) := by
  have hopen : Leads (fun c => c = '(') ('(' :: (x ++ ')' :: r)) := leads_single (g := []) .nil (by decide) (by decide)
  have hlead : lead ('(' :: (x ++ ')' :: r)) = some '(' := lead_append .nil (gapLength_single (by decide))
  have htext : y ++ '(' :: (x ++ ')' :: r) = y ++ '(' :: (x ++ [')']) ++ r := by simp
  refine ((hopen.refuses_mark (by decide)).bind _).attempt.bind ?_
  refine (refuses_typeArguments hopen (by decide)).attempt.bind ?_
  refine (reads_markAhead_single (by decide) rfl hlead).bind ?_
  rw [if_pos rfl]
  refine (reads_arguments hg' h).bind ?_
  rw [htext] at hpos ⊢
  exact reads_since hpos

def follows (c : Char) : Bool := c = '.' || c = '('

theorem leads_members (ws : List Word) (s : Text) : Leads follows (membersText ws ++ '(' :: s) := by
  cases ws with
  | nil => exact leads_single (g := []) .nil (by decide) (by decide)
  | cons w ws => exact leads_cons (g := []) .nil (gapLength_cons (by decide) _) (by decide)

theorem endsWord_members (ws : List Word) (s : Text) : EndsWord (membersText ws ++ '(' :: s) :=
  endsWord_membersText ws (endsWord_single (g := []) .nil (by decide))

theorem nextWord_members (ws : List Word) (s : Text) : nextWord (membersText ws ++ '(' :: s) = [] := by
  refine nextWord_eq_nil fun c hc => ?_
  have hfollows := leads_members ws s c hc
  rcases (by simpa [follows] using hfollows : c = '.' ∨ c = '(') with rfl | rfl <;> decide

theorem Callee.refuses_arrowFunction (c : Callee) {annotated : Bool} (hg : IsGap g) (s : Text) :
    Refuses N (arrowFunction self annotated) (g ++ (c.head ++ (membersText c.members ++ '(' :: s))) := by
  have hend := endsWord_members c.members s
  have hgap := gapLength_word c.isWord_head (membersText c.members ++ '(' :: s)
  have hnext : nextWord (c.head ++ (membersText c.members ++ '(' :: s)) = c.head := nextWord_append .nil c.isWord_head hend
  have hasync : Refuses N asyncHead (c.head ++ (membersText c.members ++ '(' :: s)) := by
    refine ((refuses_keyword ?_).bind _).bind _
    rw [hnext]
    exact fun h => c.head_notMem (l := ["async".toList]) (by decide) (by decide) (List.mem_singleton.2 h)
  have hname : Refuses N (do let p ← identifier; mark "=>"; return [p]) (c.head ++ (membersText c.members ++ '(' :: s)) := by
    by_cases hfree : c.head ∈ reservedWords
    · exact (refuses_identifier (.inr (by rwa [hnext]))).bind _
    · have hread := reads_identifier (N := N) (g := []) .nil c.isWord_head hfree hend
      exact hread.bind_refuses (((leads_members c.members s).refuses_mark (by decide)).bind _)
  rw [← beyond_append hg hgap] at hasync hname
  exact Script.refuses_arrowFunction (leads_word hg c.isWord_head) (by decide) hasync hname

theorem expression_of_call (c : Callee) {annotated : Bool} {x g' : Text} {ts : List Tree} (hg : IsGap g) (hg' : IsGap g')
    (hr : Leads stops r) (h : Lists N (argument (nested n)) (x ++ ')' :: r) (g' ++ ')' :: r) ts) :
    Reads N (nested (n + 2) (.expression annotated)) (g ++ (c.text ++ '(' :: (x ++ ')' :: r))) r
      (.node .part .call (c.text ++ '(' :: (x ++ [')']))
        [c.tree.as .callee, .node .arguments .arguments ('(' :: (x ++ [')'])) ts]) := by
  have hassoc : c.text ++ '(' :: (x ++ ')' :: r) = c.head ++ (membersText c.members ++ '(' :: (x ++ ')' :: r)) := by
    rw [Callee.text, List.append_assoc]
  have hgap := gapLength_word c.isWord_head (membersText c.members ++ '(' :: (x ++ ')' :: r))
  have hend := endsWord_members c.members (x ++ ')' :: r)
  have hnext : ∀ {g}, IsGap g → nextWord (g ++ (c.head ++ (membersText c.members ++ '(' :: (x ++ ')' :: r)))) = c.head :=
    fun hg => nextWord_append hg c.isWord_head hend
  have hopens : ∃ d ∈ (c.head ++ (membersText c.members ++ '(' :: (x ++ ')' :: r))).head?, opens d = true := by
    obtain ⟨d, hd, hstart⟩ := c.isWord_head.startsWord_head (membersText c.members ++ '(' :: (x ++ ')' :: r))
    exact ⟨d, hd, by simp [opens, hstart]⟩
  rw [hassoc]
  refine reads_expression hg hgap ?_ (c.refuses_arrowFunction hg _)
    (refuses_destructuring_of_leads (leads_word hg c.isWord_head) (by decide)) ?_ hr
  · rw [hnext hg]
    exact fun h => c.head_notMem (l := ["yield".toList]) (by decide) (by decide) (List.mem_singleton.2 h)
  refine reads_operand (g := []) (s := c.head ++ (membersText c.members ++ '(' :: (x ++ ')' :: r))) .nil hgap hopens ?_ ?_
  · rw [hnext .nil]
    exact c.head_notMem (by decide) (by decide)
  refine reads_postfixed (g := []) (s := c.head ++ (membersText c.members ++ '(' :: (x ++ ')' :: r))) .nil hgap
    (c.reads_head hend (by rw [nextWord_members]; decide)) (fun pos hpos => ?_) ?_ hr
  · refine steps_members hpos (endsWord_single (g := []) .nil (by decide)) c.members rfl ?_
    rw [← List.append_assoc] at hpos
    have hstep : Reads N (callStep (nested n) ⟨c.text ++ '(' :: (x ++ ')' :: r), pos⟩ c.tree) _ _ _ :=
      reads_callStep hg' hpos h
    rw [Callee.text, List.append_assoc] at hstep
    refine .step (hstep.oneOf _) ?_ (steps_done hr _ _)
    simp only [List.length_cons, List.length_append]
    omega
  · simp only [List.length_cons, List.length_append]
    omega

/-! ## Arrow functions -/

theorem refuses_decorator (h : Leads P s) (hP : Avoids P "@" = true) : Refuses N (decorator self) s :=
  refuses_node ((h.beyond.refuses_exactly hP).bind _)

theorem refuses_parameter (h : Leads stops s) : Refuses N (parameter (nested (n + 1))) s := by
  have hword : ∀ ws : List String, [] ∉ ws.map String.toList → Refuses N (keywordOf ws) s := fun ws hws =>
    refuses_keywordOf (by rwa [h.nextWord_eq_nil])
  have hthis : Refuses N (node .other do keyword "this"; return []) s := by
    refine refuses_node ((refuses_keyword ?_).bind _)
    rw [nextWord_beyond, h.nextWord_eq_nil]
    decide
  refine (refuses_decorator h (by decide)).many.bind_refuses ?_
  refine ((hword _ (by decide)).discard.bind _).many.discard.bind_refuses ?_
  refine (h.refuses_mark (by decide)).attempt.discard.bind_refuses ?_
  exact ((refuses_pattern_of_stops h).either hthis).bind _

theorem reads_parameters_nil : Reads N (parameters (nested (n + 1))) ('(' :: ')' :: r) r (.node .part .other ['(', ')'] []) := by
  have hclose : Leads stops (')' :: r) := leads_single (g := []) .nil (by decide) (by decide)
  have hread : Reads N (do
      mark "("
      let ps ← attempt (listed1 (parameter (nested (n + 1))))
      mark ")"
      return (ps.getD []).flatten) ('(' :: ')' :: r) r ([] : List Tree) :=
    (reads_single (g := []) (by decide) rfl .nil).bind
      (((refuses_parameter hclose).bind _).attempt.bind
        ((reads_single (g := []) (by decide) rfl .nil).bind (reads_pure _)))
  exact hread.node (g := []) (x := ['(', ')']) .nil (gapLength_single (by decide))

theorem reads_block {x g' : Text} {ts : List Tree} (hg : IsGap g) (hg' : IsGap g')
    (h : Rows N (self .statement) (x ++ '\x7d' :: r) (g' ++ '\x7d' :: r) ts) :
    Reads N (block self) (g ++ '\x7b' :: (x ++ '\x7d' :: r)) r (.node .part .block ('\x7b' :: (x ++ ['\x7d'])) ts) := by
  have hread : Reads N (do
      mark "\x7b"
      let ss ← many (self .statement)
      mark "\x7d"
      return ss) ('\x7b' :: (x ++ '\x7d' :: r)) r ts :=
    (reads_single (g := []) (by decide) rfl .nil).bind (h.many.bind ((reads_single (by decide) rfl hg').bind (reads_pure _)))
  have htext : '\x7b' :: (x ++ '\x7d' :: r) = '\x7b' :: (x ++ ['\x7d']) ++ r := by simp
  rw [htext] at hread ⊢
  exact hread.node hg (gapLength_single (by decide))

theorem reads_arrow (hg : IsGap g) : Reads N (mark "=>") (g ++ '=' :: '>' :: r) r () :=
  reads_mark (m := "=>") hg (gapLength_cons (by decide) _) rfl

theorem expression_of_arrow {annotated : Bool} {b b' x g' : Text} {ts : List Tree} (hg : IsGap g) (hb : IsGap b)
    (hb' : IsGap b') (hg' : IsGap g')
    (h : Rows N (nested (n + 1) .statement) (x ++ '\x7d' :: r) (g' ++ '\x7d' :: r) ts) :
    Reads N (nested (n + 2) (.expression annotated)) (g ++ (arrowText b b' x ++ r)) r
      (.node .part .function (arrowText b b' x)
        [.node .part .other ['(', ')'] [], .node .body .block ('\x7b' :: (x ++ ['\x7d'])) ts]) := by
  have htext : arrowText b b' x ++ r = '(' :: ')' :: (b ++ '=' :: '>' :: (b' ++ '\x7b' :: (x ++ '\x7d' :: r))) := by
    simp [arrowText]
  have hgap : gapLength (arrowText b b' x ++ r) = 0 := by rw [htext, gapLength_single (by decide)]
  have hnext : ∀ {g}, IsGap g → nextWord (g ++ (arrowText b b' x ++ r)) = [] := fun hg => nextWord_eq_nil fun c hc => by
    rw [htext, lead_append hg (gapLength_single (by decide))] at hc
    cases hc
    decide
  have hopen : Leads (fun c => c = '(') (arrowText b b' x ++ r) := by
    rw [htext]
    exact leads_single (g := []) .nil (by decide) (by decide)
  have hasync : Refuses N asyncHead (arrowText b b' x ++ r) := by
    refine ((refuses_keyword ?_).bind _).bind _
    rw [show nextWord (arrowText b b' x ++ r) = [] from hnext (g := []) .nil]
    decide
  have hname : Refuses N identifier (arrowText b b' x ++ r) := refuses_identifier (.inl (hnext (g := []) .nil))
  have harrow : Leads (fun c => c = '=') (b ++ '=' :: '>' :: (b' ++ '\x7b' :: (x ++ '\x7d' :: r))) :=
    leads_cons hb (gapLength_cons (by decide) _) (by decide)
  have hhead : Reads N (do
      let ts ← attempt (typeParameters (nested (n + 1)))
      let ps ← parameters (nested (n + 1))
      let r ← if annotated then attempt (do mark ":"; resultType (nested (n + 1))) else pure none
      mark "=>"
      return ts.toList ++ ps :: r.getD []) (arrowText b b' x ++ r) (b' ++ '\x7b' :: (x ++ '\x7d' :: r))
      [.node .part .other ['(', ')'] []] := by
    refine (refuses_typeParameters hopen (by decide)).attempt.bind ?_
    rw [htext]
    refine reads_parameters_nil.bind ?_
    cases annotated with
    | true => exact ((harrow.refuses_mark (by decide)).bind _).attempt.bind ((reads_arrow hb).bind (reads_pure _))
    | false => exact (reads_pure none).bind ((reads_arrow hb).bind (reads_pure _))
  have hbrace : lead (b' ++ '\x7b' :: (x ++ '\x7d' :: r)) = some '\x7b' := lead_append hb' (gapLength_single (by decide))
  refine (reads_keywordAhead_ne (by rw [hnext hg]; decide)).bind ?_
  rw [if_neg Bool.false_ne_true]
  refine Reads.oneOf (Reads.node ?_ hg hgap) _
  refine hasync.attempt.discard.bind (((hname.bind _).either_reads hhead).bind ?_)
  refine (reads_markAhead_single (by decide) rfl hbrace).bind ?_
  exact (reads_block hb' hg' h).bind (reads_pure _)

/-! ## Statements -/

/-- The words that start a statement of their own. -/
def statementWords : List String :=
  ["var", "const", "let", "function", "class", "enum", "import", "export", "if", "for", "while", "do", "try", "switch",
    "return", "throw", "break", "continue", "debugger", "with", "async", "abstract", "interface", "type", "namespace",
    "module", "declare"]

theorem wordStatement_other {w : Text} (hw : w ∉ statementWords.map String.toList) :
    wordStatement self (String.ofList w) = either (labelled self) (expressionStatement self) := by
  unfold wordStatement
  split
  case h_28 => rfl
  all_goals exact absurd (mem_of_ofList (by assumption) (by decide)) hw

theorem reads_expressionStatement {x : Text} {e : Tree} (hg : IsGap g) (hx : gapLength (x ++ ';' :: r) = 0)
    (h : Reads N (self (.expression true)) (x ++ ';' :: r) (';' :: r) e) :
    Reads N (expressionStatement self) (g ++ (x ++ ';' :: r)) r (.node .part .other (x ++ [';']) [e]) := by
  have hsemicolon : Leads (fun c => c = ';') (';' :: r) := leads_single (g := []) .nil (by decide) (by decide)
  have hexpressions : Reads N (expressions self) (x ++ ';' :: r) (';' :: r) e :=
    (reads_gap_append (g := []) .nil hx).bind
      (reads_get h.le fun _ _ => (h.separated (hsemicolon.refuses_mark (by decide))).bind (reads_pure e))
  have hread : Reads N (do
      let e ← expressions self
      terminator
      return [e]) (x ++ ';' :: r) r [e] :=
    hexpressions.bind ((reads_terminator (g := []) .nil).bind (reads_pure [e]))
  rw [List.append_cons] at hread hx ⊢
  exact hread.node hg hx

theorem refuses_statement_brace (hg : IsGap g) : Refuses N (nested (n + 3) .statement) (g ++ '\x7d' :: r) := by
  have hstops : Leads stops ('\x7d' :: r) := leads_single (g := []) .nil (by decide) (by decide)
  have hbeyond : beyond (g ++ '\x7d' :: r) = '\x7d' :: r := beyond_append hg (gapLength_single (by decide))
  have hword : ('\x7d' :: r).take (wordLength ('\x7d' :: r)) = [] := by
    rw [← hbeyond]
    exact nextWord_eq_nil fun c hc => by
      rw [lead, hbeyond] at hc
      cases hc
      decide
  -- what no word starts is a label or an expression, and a brace that closes starts neither
  have hlabel : Refuses N (labelled (nested (n + 2))) (g ++ '\x7d' :: r) := by
    refine refuses_node ?_
    rw [hbeyond]
    exact (refuses_identifier (.inl hstops.nextWord_eq_nil)).discard.bind _
  have hexpression : Refuses N (expressionStatement (nested (n + 2))) (g ++ '\x7d' :: r) := by
    refine refuses_node ?_
    rw [hbeyond]
    refine Refuses.bind (reads_gap.bind_refuses (refuses_get fun _ _ => Refuses.bind ?_ _)) _
    exact (refuses_expression hstops.beyond).bind _
  refine reads_upcoming.bind_refuses ?_
  rw [hbeyond]
  dsimp only
  rw [if_neg (by decide), if_neg (by decide), if_neg (by decide), hword, wordStatement_other (by decide)]
  exact hlabel.either hexpression

/-- **A call is a statement** when it is read as an expression. -/
theorem reads_callStatement (c : Callee) {x : Text} {e : Tree} (hg : IsGap g)
    (h : Reads N (nested n (.expression true)) (c.text ++ '(' :: (x ++ ')' :: ';' :: r)) (';' :: r) e) :
    Reads N (nested (n + 1) .statement) (g ++ (c.text ++ '(' :: (x ++ ')' :: ';' :: r))) r
      (.node .part .other (c.text ++ '(' :: (x ++ [')', ';'])) [e]) := by
  have hassoc : c.text ++ '(' :: (x ++ ')' :: ';' :: r) = c.head ++ (membersText c.members ++ '(' :: (x ++ ')' :: ';' :: r)) := by
    rw [Callee.text, List.append_assoc]
  have hgap : gapLength (c.text ++ '(' :: (x ++ ')' :: ';' :: r)) = 0 := by rw [hassoc, gapLength_word c.isWord_head]
  have hend : EndsWord (membersText c.members ++ '(' :: (x ++ ')' :: ';' :: r)) := endsWord_members c.members (x ++ ')' :: ';' :: r)
  have hnext : nextWord (c.text ++ '(' :: (x ++ ')' :: ';' :: r)) = c.head := by
    rw [hassoc]
    exact nextWord_append .nil c.isWord_head hend
  -- a colon would have to stand where the members of the callee or its arguments do
  have hlabel : Refuses N (labelled (nested n)) (g ++ (c.text ++ '(' :: (x ++ ')' :: ';' :: r))) := by
    refine refuses_node ?_
    rw [beyond_append hg hgap]
    by_cases hfree : c.head ∈ reservedWords
    · exact (refuses_identifier (.inr (by rwa [hnext]))).discard.bind _
    · have hread := reads_identifier (N := N) (g := []) .nil c.isWord_head hfree hend
      rw [List.nil_append, ← hassoc] at hread
      exact hread.discard.bind_refuses (((leads_members c.members _).refuses_mark (by decide)).bind _)
  have hword : c.head ∉ statementWords.map String.toList := c.head_notMem (by decide) (by decide)
  have hstatement : Reads N (either (labelled (nested n)) (expressionStatement (nested n)))
      (g ++ (c.text ++ '(' :: (x ++ ')' :: ';' :: r))) r (.node .part .other (c.text ++ '(' :: (x ++ [')', ';'])) [e]) := by
    have htext : c.text ++ '(' :: (x ++ ')' :: ';' :: r) = c.text ++ '(' :: (x ++ [')']) ++ ';' :: r := by simp
    have htext' : c.text ++ '(' :: (x ++ [')', ';']) = c.text ++ '(' :: (x ++ [')']) ++ [';'] := by simp
    refine hlabel.either_reads ?_
    rw [htext] at h hgap ⊢
    rw [htext']
    exact reads_expressionStatement hg hgap h
  rw [hassoc] at hstatement ⊢
  refine reads_statement_word hg c.isWord_head hend ?_
  rwa [wordStatement_other hword]

/-! ## Calls, arguments and bodies at every depth -/

theorem Callee.length_pos (c : Callee) : 0 < c.text.length := by
  rw [Callee.text, List.length_append]
  exact Nat.add_pos_left (List.length_pos_of_ne_nil c.isWord_head.ne_nil) _

theorem Callee.leads (c : Callee) (hg : IsGap g) (s : Text) : Leads startsWord (g ++ (c.text ++ '(' :: s)) := by
  rw [Callee.text, List.append_assoc]
  exact leads_word hg c.isWord_head

theorem Arg.refuses_spread (a : Arg) (hg : IsGap g) : Refuses N (spread self) (g ++ (a.text L ++ r)) := by
  cases a with
  | literal l =>
    refine Script.refuses_spread ?_
    rw [Arg.text, beyond_append hg (gapLength_of_opens (l.head r))]
    exact l.refuses_dots (g := []) .nil
  | call c =>
    obtain ⟨callee, args⟩ := c
    rw [Arg.text, Call.text, List.append_assoc]
    exact Script.refuses_spread ((callee.leads hg _).beyond.refuses_mark (by decide))
  | arrow b =>
    have hleads : Leads (fun c => c = '(') (g ++ ((Arg.arrow b).text L ++ r)) := by
      rw [Arg.text]
      exact leads_single hg (by decide) (by decide)
    exact Script.refuses_spread (hleads.beyond.refuses_mark (by decide))

-- A level of reading is used up only where characters are, so the bound on the length carries the induction.
mutual

theorem nested_arg : ∀ (a : Arg) {n : Nat} {annotated : Bool} {g r : Text}, 2 * (a.text L).length ≤ n → IsGap g →
    Leads stops r → Reads N (nested n (.expression annotated)) (g ++ (a.text L ++ r)) r (a.tree L)
  | .literal l, n, annotated, g, r, hn, hg, hr => by
    rw [Arg.text] at hn ⊢
    rw [Arg.tree]
    exact nested_literal l hn hg hr
  | .call c, n, annotated, g, r, hn, hg, hr => by
    rw [Arg.text] at hn ⊢
    rw [Arg.tree]
    exact nested_call c hn hg hr
  | .arrow b, n, annotated, g, r, hn, hg, hr => by
    simp only [Arg.text, arrowText, List.length_cons, List.length_append, List.length_nil] at hn
    obtain ⟨m, rfl⟩ : ∃ m, n = m + 2 := ⟨n - 2, by omega⟩
    rw [Arg.text, Arg.tree]
    exact expression_of_arrow hg L.blank.isGap L.blank.isGap L.line.isGap (nested_body b r (by omega))

/-- **A call is read as an expression**, and its tree is the call's. -/
theorem nested_call : ∀ (c : Call) {n : Nat} {annotated : Bool} {g r : Text}, 2 * (c.text L).length ≤ n → IsGap g →
    Leads stops r → Reads N (nested n (.expression annotated)) (g ++ (c.text L ++ r)) r (c.tree L)
  | .of callee args, n, annotated, g, r, hn, hg, hr => by
    have hpos := callee.length_pos
    simp only [Call.text, List.length_cons, List.length_append, List.length_nil] at hn
    obtain ⟨m, rfl⟩ : ∃ m, n = m + 2 := ⟨n - 2, by omega⟩
    obtain ⟨g', hg', hargs⟩ := nested_args args (n := m) (g := []) r (by omega) .nil
    have htext : callee.text ++ '(' :: (args.text L ++ [')']) ++ r = callee.text ++ '(' :: (args.text L ++ ')' :: r) := by
      simp
    rw [Call.text, Call.tree, htext]
    exact expression_of_call callee hg hg' hr hargs

theorem nested_args : ∀ (args : Args) {n : Nat} {g : Text} (r : Text), 2 * (args.text L).length + 2 ≤ n → IsGap g →
    ∃ g', IsGap g' ∧ Lists N (argument (nested n)) (g ++ (args.text L ++ ')' :: r)) (g' ++ ')' :: r) (args.trees L)
  | .nothing, n, g, r, hn, hg => by
    obtain ⟨m, rfl⟩ : ∃ m, n = m + 2 := ⟨n - 2, by omega⟩
    have hleads : Leads stops (g ++ ')' :: r) := leads_single hg (by decide) (by decide)
    have hclose : Leads (fun c => c = ')') (g ++ ')' :: r) := leads_single hg (by decide) (by decide)
    rw [Args.text, Args.trees]
    refine ⟨g, hg, .nothing ?_ (hclose.refuses_mark (by decide))⟩
    exact (Script.refuses_spread (hleads.beyond.refuses_mark (by decide))).either (refuses_expression hleads)
  | .last a, n, g, r, hn, hg => by
    have hleads : Leads stops (')' :: r) := leads_single (g := []) .nil (by decide) (by decide)
    have hclose : Leads (fun c => c = ')') (')' :: r) := leads_single (g := []) .nil (by decide) (by decide)
    rw [Args.text] at hn ⊢
    rw [Args.trees]
    have hspread : Refuses N (spread (nested n)) (g ++ (a.text L ++ ')' :: r)) := a.refuses_spread hg
    have hread : Reads N (nested n (.expression true)) _ _ _ := nested_arg a (by omega) hg hleads
    exact ⟨[], .nil, .last (hspread.either_reads hread) (hclose.refuses_mark (by decide))⟩
  | .more a rest, n, g, r, hn, hg => by
    rw [Args.text] at hn ⊢
    rw [Args.trees]
    simp only [List.length_append, List.length_cons] at hn
    simp only [List.append_assoc, List.cons_append]
    have hleads : Leads stops (',' :: (L.blank.text ++ (rest.text L ++ ')' :: r))) :=
      leads_single (g := []) .nil (by decide) (by decide)
    have hspread : Refuses N (spread (nested n)) (g ++ (a.text L ++ ',' :: (L.blank.text ++ (rest.text L ++ ')' :: r)))) :=
      a.refuses_spread hg
    have hread : Reads N (nested n (.expression true)) _ _ _ := nested_arg a (by omega) hg hleads
    obtain ⟨g', hg', hrest⟩ := nested_args rest (n := n) r (by omega) L.blank.isGap
    have hitem := hspread.either_reads hread
    exact ⟨g', hg', .more hitem (reads_single (g := []) (by decide) rfl .nil) (Nat.lt_succ_self _) hrest⟩

theorem nested_body : ∀ (b : Body) {n : Nat} (r : Text), 2 * (b.text L).length + 3 ≤ n →
    Rows N (nested n .statement) (b.text L ++ '\x7d' :: r) (L.line.text ++ '\x7d' :: r) (b.trees L)
  | .nothing, n, r, hn => by
    obtain ⟨m, rfl⟩ : ∃ m, n = m + 3 := ⟨n - 3, by omega⟩
    rw [Body.text, Body.trees]
    exact .done (refuses_statement_brace L.line.isGap)
  | .more (.of callee args) rest, n, r, hn => by
    obtain ⟨m, rfl⟩ : ∃ m, n = m + 1 := ⟨n - 1, by omega⟩
    rw [Body.text] at hn ⊢
    rw [Body.trees]
    simp only [List.length_append, List.length_cons] at hn
    have hstops : Leads stops (';' :: (rest.text L ++ '\x7d' :: r)) := leads_single (g := []) .nil (by decide) (by decide)
    have hread : Reads N (nested m (.expression true)) _ _ _ :=
      nested_call (.of callee args) (g := []) (by omega) .nil hstops
    rw [Call.text] at hread ⊢
    simp only [List.append_assoc, List.cons_append, List.nil_append] at hread ⊢
    refine .step (reads_callStatement callee L.line.isGap hread) ?_ (nested_body rest r (by omega))
    · simp only [List.length_append, List.length_cons]
      omega

end

end Script
end ViewAtlas
