import ViewAtlas.Proofs.Script.Calls
/-!
# How classes are read

Decorators are calls, and members are methods or fields whose values are arguments.  `reads_class` says which tree is read off
a class with its decorators and members.
-/
namespace ViewAtlas
namespace Script

/-! ## Printed classes -/

/-- **A decorator**: a name and the arguments that it is called with. -/
structure Decorator where
  name : Plain
  args : Args

/-- **A member of a class**: a method, or a field with a value. -/
inductive Member where
  | method (name : Plain) (body : Body)
  | field (name : Plain) (value : Arg)

/-- **A class**: its decorators, its name and its members. -/
structure Class where
  decorators : List Decorator
  name : Plain
  members : List Member

def Decorator.call (d : Decorator) : Call := .of ⟨some d.name, []⟩ d.args

def Decorator.text (L : Layout) (d : Decorator) : Text := '@' :: d.call.text L

def Decorator.tree (L : Layout) (d : Decorator) : Tree := .node .part .decorator (d.text L) [d.call.tree L]

def decoratorsText (L : Layout) (ds : List Decorator) : Text := ds.flatMap fun d => d.text L ++ L.line.text

namespace Member

def fieldText (L : Layout) (w : Plain) (value : Arg) : Text :=
  w.text ++ (L.blank.text ++ '=' :: (L.blank.text ++ value.text L))

def text (L : Layout) : Member → Text
  | .method w b => w.text ++ '(' :: ')' :: (L.blank.text ++ '\x7b' :: (b.text L ++ ['\x7d']))
  | .field w value => fieldText L w value ++ [';']

def tree (L : Layout) : Member → Tree
  | .method w b =>
    .node .part .method ((Member.method w b).text L)
      [.node .name .identifier w.text [], .node .part .other ['(', ')'] [], (b.tree L).as .body]
  | .field w value =>
    .node .part .field (fieldText L w value) [.node .name .identifier w.text [], (value.tree L).as .value]

end Member

def memberTexts (L : Layout) (ms : List Member) : Text := ms.flatMap fun m => L.line.text ++ m.text L

namespace Class

def bodyText (L : Layout) (c : Class) : Text := '\x7b' :: (memberTexts L c.members ++ (L.line.text ++ ['\x7d']))

def nameText (L : Layout) (c : Class) : Text := c.name.text ++ (L.blank.text ++ c.bodyText L)

def text (L : Layout) (c : Class) : Text :=
  decoratorsText L c.decorators ++ ("class".toList ++ (L.blank.text ++ c.nameText L))

def tree (L : Layout) (c : Class) : Tree :=
  .node .part .classDeclaration (c.text L)
    (c.decorators.map (Decorator.tree L) ++
      [.node .name .identifier c.name.text [], .node .body .classBody (c.bodyText L) (c.members.map (Member.tree L))])

end Class

/-! ## Decorators -/

variable {N n : Nat} {s r t g : Text} {P : Char → Bool} {self : Nested} {L : Layout}

theorem reads_at (hg : IsGap g) (r : Text) : Reads N (exactly "@") (g ++ '@' :: r) r () :=
  reads_exactly (m := "@") hg (gapLength_cons (by decide) r)

theorem reads_decorator (d : Decorator) (hn : 2 * (d.args.text L).length + 2 ≤ n) (hg : IsGap g) :
    Reads N (decorator (nested n)) (g ++ (d.text L ++ r)) r (d.tree L) := by
  obtain ⟨g', hg', hargs⟩ := nested_args (N := N) (L := L) d.args (g := []) r hn .nil
  have hcall : d.call.text L = d.name.text ++ '(' :: (d.args.text L ++ [')']) := by
    rw [Decorator.call, Call.text, Callee.text]
    exact congrArg (· ++ _) (List.append_nil _)
  have htext : d.call.text L ++ r = d.name.text ++ '(' :: (d.args.text L ++ ')' :: r) := by
    rw [hcall]
    simp
  have hgap : gapLength (d.call.text L ++ r) = 0 := by rw [htext, gapLength_word d.name.isWord]
  have hend : EndsWord ('(' :: (d.args.text L ++ ')' :: r)) := endsWord_single (g := []) .nil (by decide)
  have hopen : Leads (fun c => c = '(') ('(' :: (d.args.text L ++ ')' :: r)) :=
    leads_single (g := []) .nil (by decide) (by decide)
  have hword : Leads startsWord (d.call.text L ++ r) := by
    rw [htext]
    exact leads_word (g := []) .nil d.name.isWord
  have hname : Reads N identifier (d.call.text L ++ r) ('(' :: (d.args.text L ++ ')' :: r))
      (.node .part .identifier d.name.text []) := by
    rw [htext]
    exact reads_identifier (g := []) .nil d.name.isWord d.name.notReserved hend
  have hmore : Reads N (many do mark "."; word) ('(' :: (d.args.text L ++ ')' :: r)) ('(' :: (d.args.text L ++ ')' :: r))
      ([] : List Text) := ((hopen.refuses_mark (by decide)).bind _).many
  have hargs' := reads_arguments (N := N) hg' (by rwa [List.nil_append] at hargs)
  refine Reads.node (x := d.text L) ?_ hg (gapLength_single (by decide))
  refine (reads_at (g := []) .nil _).bind ((hword.markAhead (by decide)).bind ?_)
  rw [if_neg Bool.false_ne_true]
  refine (reads_gap_append (g := []) .nil hgap).bind (reads_get (by rw [List.length_append]; omega) fun pos hpos => ?_)
  refine hname.bind (hmore.bind ((reads_pure _).bind (Reads.bind (Reads.attempt ?_) (reads_pure _))))
  refine (refuses_typeArguments hopen (by decide)).attempt.bind (hargs'.bind ?_)
  exact reads_since hpos

theorem Decorator.length_args (d : Decorator) : 2 * (d.args.text L).length + 2 ≤ 2 * (d.text L).length := by
  simp only [Decorator.text, Decorator.call, Call.text, List.length_cons, List.length_append]
  omega

theorem rows_decorators (hr : ∀ {g}, IsGap g → Refuses N (decorator (nested n)) (g ++ r)) :
    ∀ (ds : List Decorator) {g : Text}, 2 * (decoratorsText L ds).length ≤ n → IsGap g →
      ∃ g', IsGap g' ∧ Rows N (decorator (nested n)) (g ++ (decoratorsText L ds ++ r)) (g' ++ r) (ds.map (Decorator.tree L))
  | [], g, _, hg => ⟨g, hg, .done (hr hg)⟩
  | d :: ds, g, hn, hg => by
    have htext : decoratorsText L (d :: ds) = d.text L ++ (L.line.text ++ decoratorsText L ds) := by
      simp [decoratorsText]
    have hargs := d.length_args (L := L)
    rw [htext] at hn ⊢
    simp only [List.length_append] at hn
    obtain ⟨g', hg', hrows⟩ := rows_decorators hr ds (g := L.line.text) (by omega) L.line.isGap
    refine ⟨g', hg', ?_⟩
    simp only [List.append_assoc]
    refine .step (reads_decorator d (by omega) hg) ?_ hrows
    simp only [Decorator.text, List.length_append, List.length_cons]
    omega

/-! ## Members -/

theorem Plain.not_mem (w : Plain) {l : List Text} (hl : ∀ k ∈ l, k ∈ namelessWords ∨ k ∈ contextualWords) :
    w.text ∉ l := fun h => (hl _ h).elim w.free w.plain

theorem reads_memberModifiers (h : Leads P s) (hP : Avoids P "*" = true)
    (hword : nextWord s ∉ memberWords.map String.toList) : Reads N memberModifiers s s () := by
  refine (Refuses.many ?_).discard
  refine (h.markAhead hP).bind_refuses ?_
  rw [if_neg Bool.false_ne_true]
  exact (refuses_keywordOf hword).discard.bind _

theorem Plain.reads_memberModifiers (w : Plain) (hend : EndsWord r) :
    Reads N memberModifiers (w.text ++ r) (w.text ++ r) () := by
  have hword : Leads startsWord (w.text ++ r) := leads_word (g := []) .nil w.isWord
  have hnext : nextWord (w.text ++ r) = w.text := nextWord_append (g := []) .nil w.isWord hend
  refine Script.reads_memberModifiers hword (by decide) ?_
  rw [hnext]
  exact w.not_mem (by decide)

theorem refuses_indexSignature (h : Leads P s) (hP : Avoids P "[" = true)
    (hword : nextWord s ∉ ["static", "readonly", "public", "private", "protected"].map String.toList) :
    Refuses N (indexSignature self) s := by
  have hnone : Reads N (modifiers ["static", "readonly", "public", "private", "protected"]) (beyond s) (beyond s) () := by
    refine (Refuses.many ?_).discard
    refine (refuses_keywordOf ?_).discard.bind _
    rwa [nextWord_beyond]
  refine refuses_node (hnone.bind_refuses (Refuses.bind (refuses_node ?_) _))
  exact (h.beyond.beyond.refuses_mark hP).bind _

theorem refuses_member (hg : IsGap g) : Refuses N (member self) (g ++ '\x7d' :: r) := by
  have hstops : Leads stops (g ++ '\x7d' :: r) := leads_single hg (by decide) (by decide)
  have hbrace : Leads (fun c => c = '\x7d') (g ++ '\x7d' :: r) := leads_single hg (by decide) (by decide)
  have hnext := hstops.nextWord_eq_nil
  have hmodifiers : Reads N memberModifiers (beyond (g ++ '\x7d' :: r)) (beyond (g ++ '\x7d' :: r)) () := by
    refine reads_memberModifiers hbrace.beyond (by decide) ?_
    rw [nextWord_beyond, hnext]
    decide
  have hname : Refuses N (propertyName self) (beyond (g ++ '\x7d' :: r)) := refuses_propertyName hstops.beyond
  refine (hbrace.markAhead (by decide)).bind_refuses ?_
  rw [if_neg Bool.false_ne_true]
  refine (refuses_decorator hstops (by decide)).many.bind_refuses (Refuses.bind (refuses_oneOf fun p hp => ?_) _)
  simp only [List.mem_cons, List.not_mem_nil, or_false] at hp
  rcases hp with rfl | rfl | rfl | rfl | rfl
  · refine refuses_node ((refuses_keyword ?_).bind _)
    rw [nextWord_beyond, hnext]
    decide
  · exact refuses_node (hmodifiers.bind_refuses (hname.bind _))
  · exact (refuses_node (hmodifiers.bind_refuses (hname.bind _))).bind _
  · refine (refuses_indexSignature hstops (by decide) ?_).bind _
    rw [hnext]
    decide
  · exact (refuses_node (hmodifiers.bind_refuses (hname.bind _))).bind _

/-- **What starts with a plain name is a member** when it is read as a method, a signature or a field. -/
theorem reads_member (w : Plain) {e : Tree} (hg : IsGap g) (hend : EndsWord r)
    (h : Reads N (oneOf
      [method self,
        do
          let m ← methodSignature self
          memberEnd
          return m,
        do
          let m ← indexSignature self
          memberEnd
          return m,
        do
          let m ← field self
          memberEnd
          return m]) (g ++ (w.text ++ r)) t e) : Reads N (member self) (g ++ (w.text ++ r)) t [e] := by
  have hword : Leads startsWord (g ++ (w.text ++ r)) := leads_word hg w.isWord
  have hnext : nextWord (g ++ (w.text ++ r)) = w.text := nextWord_append hg w.isWord hend
  have hstatic : Refuses N (staticBlock self) (g ++ (w.text ++ r)) := by
    refine refuses_node ((refuses_keyword ?_).bind _)
    rw [nextWord_beyond, hnext]
    exact fun heq => w.not_mem (l := ["static".toList]) (by decide) (List.mem_singleton.2 heq)
  refine (hword.markAhead (by decide)).bind ?_
  rw [if_neg Bool.false_ne_true]
  refine (refuses_decorator hword (by decide)).many.bind (Reads.bind ?_ (reads_pure [e]))
  exact hstatic.oneOf_reads h

theorem reads_member_method (w : Plain) {x g' : Text} {ts : List Tree} (hg : IsGap g) (hg' : IsGap g')
    (h : Rows N (nested (n + 1) .statement) (x ++ '\x7d' :: r) (g' ++ '\x7d' :: r) ts) :
    Reads N (member (nested (n + 1)))
      (g ++ (w.text ++ '(' :: ')' :: (L.blank.text ++ '\x7b' :: (x ++ ['\x7d'])) ++ r)) r
      [.node .part .method (w.text ++ '(' :: ')' :: (L.blank.text ++ '\x7b' :: (x ++ ['\x7d'])))
        [.node .name .identifier w.text [], .node .part .other ['(', ')'] [],
          .node .body .block ('\x7b' :: (x ++ ['\x7d'])) ts]] := by
  have htext : w.text ++ '(' :: ')' :: (L.blank.text ++ '\x7b' :: (x ++ ['\x7d'])) ++ r =
      w.text ++ '(' :: ')' :: (L.blank.text ++ '\x7b' :: (x ++ '\x7d' :: r)) := by simp
  have hopen : Leads (fun c => c = '(') ('(' :: ')' :: (L.blank.text ++ '\x7b' :: (x ++ '\x7d' :: r))) :=
    leads_single (g := []) .nil (by decide) (by decide)
  have hbrace : Leads (fun c => c = '\x7b') (L.blank.text ++ '\x7b' :: (x ++ '\x7d' :: r)) :=
    leads_single L.blank.isGap (by decide) (by decide)
  have hend : EndsWord ('(' :: ')' :: (L.blank.text ++ '\x7b' :: (x ++ '\x7d' :: r))) :=
    endsWord_single (g := []) .nil (by decide)
  have hsignature : Reads N (signature (nested (n + 1))) ('(' :: ')' :: (L.blank.text ++ '\x7b' :: (x ++ '\x7d' :: r)))
      (L.blank.text ++ '\x7b' :: (x ++ '\x7d' :: r)) [.node .part .other ['(', ')'] []] :=
    (refuses_typeParameters hopen (by decide)).attempt.bind
      (reads_parameters_nil.bind (((hbrace.refuses_mark (by decide)).bind _).attempt.bind (reads_pure _)))
  have hmethod : Reads N (method (nested (n + 1)))
      (g ++ (w.text ++ '(' :: ')' :: (L.blank.text ++ '\x7b' :: (x ++ ['\x7d'])) ++ r)) r
      (.node .part .method (w.text ++ '(' :: ')' :: (L.blank.text ++ '\x7b' :: (x ++ ['\x7d'])))
        [.node .name .identifier w.text [], .node .part .other ['(', ')'] [],
          .node .body .block ('\x7b' :: (x ++ ['\x7d'])) ts]) := by
    refine Reads.node ?_ hg (by rw [htext, gapLength_word w.isWord])
    rw [htext]
    refine (w.reads_memberModifiers hend).bind ((reads_propertyName_word (g := []) .nil w.isWord hend).bind ?_)
    refine (hopen.refuses_mark (by decide)).attempt.discard.bind (Reads.bind ?_ (reads_pure _))
    exact hsignature.bind ((reads_block L.blank.isGap hg' h).bind (reads_pure _))
  rw [htext] at hmethod ⊢
  exact reads_member w hg hend (hmethod.oneOf _)

theorem Layout.endsWord_equals (L : Layout) (s : Text) : EndsWord (L.blank.text ++ '=' :: s) :=
  L.blank.isGap.endsWord fun hnil => absurd hnil L.blank_ne

theorem Layout.notMem_of_head (L : Layout) {l : List Char} {c : Char} (hl : l.all (fun d => !isSpace d && d != '/') = true)
    (hc : c ∈ (L.blank.text ++ s).head?) : c ∉ l := by
  intro hmem
  have hnone := List.all_eq_true.1 hl c hmem
  rw [Bool.and_eq_true, Bool.not_eq_true', bne_iff_ne] at hnone
  rcases L.blank.isGap.head c hc with hspace | hslash | ⟨hnil, -⟩
  · exact absurd hspace (by rw [hnone.1]; exact Bool.false_ne_true)
  · exact hnone.2 hslash
  · exact L.blank_ne hnil

theorem Layout.reads_equals (L : Layout) (s : Text) :
    Reads N (mark "=") (L.blank.text ++ '=' :: (L.blank.text ++ s)) (L.blank.text ++ s) () := by
  refine Script.reads_equals L.blank.isGap fun c hc => ?_
  simpa using L.notMem_of_head (l := ['=', '>']) (by decide) hc

theorem refuses_methods_equals (w : Plain) {y : Text} (hg : IsGap g) :
    Refuses N (method self) (g ++ (w.text ++ (L.blank.text ++ '=' :: y))) ∧
      Refuses N (methodSignature self) (g ++ (w.text ++ (L.blank.text ++ '=' :: y))) := by
  have hend : EndsWord (L.blank.text ++ '=' :: y) := L.endsWord_equals _
  have hequals : Leads (fun c => c = '=') (L.blank.text ++ '=' :: y) :=
    leads_cons L.blank.isGap (gapLength_cons (by decide) _) (by decide)
  have hbeyond := beyond_append hg (gapLength_word w.isWord (L.blank.text ++ '=' :: y))
  have hmodifiers := w.reads_memberModifiers (N := N) hend
  have hname : Reads N (propertyName self) _ _ _ := reads_propertyName_word (g := []) .nil w.isWord hend
  have hquestion := (hequals.refuses_mark (N := N) (m := "?") (by decide)).attempt.discard
  have hsignature : Refuses N (signature self) (L.blank.text ++ '=' :: y) :=
    (refuses_typeParameters hequals (by decide)).attempt.bind_refuses ((refuses_parameters hequals (by decide)).bind _)
  constructor
  · refine refuses_node ?_
    rw [hbeyond]
    exact hmodifiers.bind_refuses (hname.bind_refuses (hquestion.bind_refuses ((hsignature.bind _).bind _)))
  · refine refuses_node ?_
    rw [hbeyond]
    exact hmodifiers.bind_refuses (hname.bind_refuses (hquestion.bind_refuses (hsignature.bind _)))

theorem reads_field (w : Plain) {x : Text} {e : Tree} (hg : IsGap g)
    (h : Reads N (self (.expression true)) (L.blank.text ++ (x ++ r)) r e) :
    Reads N (field self) (g ++ (w.text ++ (L.blank.text ++ '=' :: (L.blank.text ++ x)) ++ r)) r
      (.node .part .field (w.text ++ (L.blank.text ++ '=' :: (L.blank.text ++ x)))
        [.node .name .identifier w.text [], e.as .value]) := by
  have htext : w.text ++ (L.blank.text ++ '=' :: (L.blank.text ++ x)) ++ r =
      w.text ++ (L.blank.text ++ '=' :: (L.blank.text ++ (x ++ r))) := by simp
  have hend : EndsWord (L.blank.text ++ '=' :: (L.blank.text ++ (x ++ r))) := L.endsWord_equals _
  have hequals : Leads (fun c => c = '=') (L.blank.text ++ '=' :: (L.blank.text ++ (x ++ r))) :=
    leads_cons L.blank.isGap (gapLength_cons (by decide) _) (by decide)
  have hname : Reads N (propertyName self) _ _ _ := reads_propertyName_word (g := []) .nil w.isWord hend
  refine Reads.node ?_ hg (by rw [htext, gapLength_word w.isWord])
  rw [htext]
  refine (w.reads_memberModifiers hend).bind (hname.bind ((hequals.refuses_markOf (by decide)).attempt.discard.bind ?_))
  refine Reads.bind (((hequals.refuses_mark (by decide)).bind _).attempt.bind (reads_pure _)) ?_
  exact Reads.bind ((L.reads_equals _).bind h).attempt (reads_pure _)

theorem reads_member_field (w : Plain) {x : Text} {e : Tree} (hg : IsGap g)
    (h : Reads N (self (.expression true)) (L.blank.text ++ (x ++ ';' :: r)) (';' :: r) e) :
    Reads N (member self) (g ++ (w.text ++ (L.blank.text ++ '=' :: (L.blank.text ++ x)) ++ ';' :: r)) r
      [.node .part .field (w.text ++ (L.blank.text ++ '=' :: (L.blank.text ++ x)))
        [.node .name .identifier w.text [], e.as .value]] := by
  have htext : w.text ++ (L.blank.text ++ '=' :: (L.blank.text ++ x)) ++ ';' :: r =
      w.text ++ (L.blank.text ++ '=' :: (L.blank.text ++ (x ++ ';' :: r))) := by simp
  have hend : EndsWord (L.blank.text ++ '=' :: (L.blank.text ++ (x ++ ';' :: r))) := L.endsWord_equals _
  have hsemicolon : Leads (fun c => c = ';') (';' :: r) := leads_single (g := []) .nil (by decide) (by decide)
  have hindex : Refuses N (indexSignature self) (g ++ (w.text ++ (L.blank.text ++ '=' :: (L.blank.text ++ (x ++ ';' :: r))))) := by
    refine refuses_indexSignature (leads_word hg w.isWord) (by decide) ?_
    rw [nextWord_append hg w.isWord hend]
    exact w.not_mem (by decide)
  obtain ⟨hmethod, hmethodSignature⟩ := refuses_methods_equals (N := N) (L := L) w hg
    (y := L.blank.text ++ (x ++ ';' :: r))
  have hfield := reads_field w hg h
  have hmemberEnd : Reads N memberEnd (';' :: r) r () :=
    (hsemicolon.refuses_mark (by decide)).either_reads (reads_terminator (g := []) .nil)
  rw [htext] at hfield ⊢
  refine reads_member w hg hend (hmethod.oneOf_reads ?_)
  refine (hmethodSignature.bind _).oneOf_reads ((hindex.bind _).oneOf_reads (Reads.oneOf ?_ []))
  exact hfield.bind (hmemberEnd.bind (reads_pure _))

theorem reads_member_tree (m : Member) (hn : 2 * (m.text L).length ≤ n) (hg : IsGap g) :
    Reads N (member (nested n)) (g ++ (m.text L ++ r)) r [m.tree L] := by
  cases m with
  | method w b =>
    simp only [Member.text, List.length_append, List.length_cons] at hn
    obtain ⟨k, rfl⟩ : ∃ k, n = k + 1 := ⟨n - 1, by omega⟩
    exact reads_member_method w hg L.line.isGap (nested_body b r (by omega))
  | field w value =>
    simp only [Member.text, Member.fieldText, List.length_append, List.length_cons] at hn
    have hstops : Leads stops (';' :: r) := leads_single (g := []) .nil (by decide) (by decide)
    have htext : (Member.field w value).text L ++ r = Member.fieldText L w value ++ ';' :: r := by simp [Member.text]
    rw [htext]
    exact reads_member_field w hg (nested_arg value (by omega) L.blank.isGap hstops)

theorem Member.length_pos (m : Member) : 0 < (m.text L).length := by
  cases m <;> simp only [Member.text, List.length_append, List.length_cons] <;> omega

theorem rows_members : ∀ (ms : List Member), 2 * (memberTexts L ms).length ≤ n →
    Rows N (member (nested n)) (memberTexts L ms ++ (L.line.text ++ '\x7d' :: r)) (L.line.text ++ '\x7d' :: r)
      (ms.map fun m => [m.tree L])
  | [], _ => .done (refuses_member L.line.isGap)
  | m :: ms, hn => by
    have htext : memberTexts L (m :: ms) = L.line.text ++ (m.text L ++ memberTexts L ms) := by simp [memberTexts]
    -- a row has to take something for the next one to be read
    have hpos := m.length_pos (L := L)
    rw [htext] at hn ⊢
    simp only [List.length_append] at hn
    simp only [List.append_assoc]
    refine .step (reads_member_tree m (by omega) L.line.isGap) ?_ (rows_members ms (by omega))
    simp only [List.length_append]
    omega

/-! ## Classes -/

theorem reads_classBody (c : Class) (hn : 2 * (c.bodyText L).length ≤ n) (hg : IsGap g) :
    Reads N (classBody (nested n)) (g ++ (c.bodyText L ++ r)) r
      (.node .part .classBody (c.bodyText L) (c.members.map (Member.tree L))) := by
  simp only [Class.bodyText, List.length_cons, List.length_append] at hn
  have htext : c.bodyText L ++ r = '\x7b' :: (memberTexts L c.members ++ (L.line.text ++ '\x7d' :: r)) := by
    simp [Class.bodyText]
  refine Reads.node ?_ hg (by rw [htext, gapLength_single (by decide)])
  rw [htext]
  refine (reads_single (g := []) (by decide) rfl .nil).bind ((rows_members c.members (by omega)).many.bind ?_)
  refine (reads_single (by decide) rfl L.line.isGap).bind ?_
  have hflatten : (c.members.map fun m => [m.tree L]).flatten = c.members.map (Member.tree L) := by
    rw [← List.flatMap_def, ← List.map_eq_flatMap]
  rw [hflatten]
  exact reads_pure _

theorem reads_classRest (c : Class) {base : Reader Tree} (hn : 2 * (c.bodyText L).length ≤ n) (hg : IsGap g) :
    Reads N (classRest (nested n) base) (g ++ (c.bodyText L ++ r)) r
      [.node .body .classBody (c.bodyText L) (c.members.map (Member.tree L))] := by
  have hbrace : Leads (fun c => c = '\x7b') (g ++ (c.bodyText L ++ r)) := leads_single hg (by decide) (by decide)
  have hnext : nextWord (g ++ (c.bodyText L ++ r)) = [] := nextWord_eq_nil fun d hd => by
    rw [of_decide_eq_true (hbrace d hd)]
    decide
  refine (refuses_typeParameters hbrace (by decide)).attempt.bind ?_
  refine ((refuses_keyword (by rw [hnext]; decide)).bind _).attempt.bind ?_
  refine ((refuses_keyword (by rw [hnext]; decide)).bind _).attempt.bind ?_
  exact (reads_classBody c hn hg).bind (reads_pure _)

theorem Plain.reads_className (w : Plain) (hg : IsGap g) (hend : EndsWord r) :
    Reads N className (g ++ (w.text ++ r)) r (.node .part .identifier w.text []) := by
  have hnext : nextWord (g ++ (w.text ++ r)) = w.text := nextWord_append hg w.isWord hend
  have hne : ∀ k ∈ ["extends".toList, "implements".toList], w.text ≠ k := fun k hk heq =>
    w.not_mem (l := ["extends".toList, "implements".toList]) (by decide) (heq ▸ hk)
  refine (reads_keywordAhead_ne (by rw [hnext]; exact hne _ (by decide))).bind ?_
  refine (reads_keywordAhead_ne (by rw [hnext]; exact hne _ (by decide))).bind ?_
  exact reads_identifier hg w.isWord w.notReserved hend

theorem isWord_class : IsWord "class".toList := isWord_of_all (by decide)

theorem Layout.endsWord_blank (L : Layout) (s : Text) : EndsWord (L.blank.text ++ s) :=
  L.blank.isGap.endsWord fun hnil => absurd hnil L.blank_ne

theorem gapLength_decorators (ds : List Decorator) (hs : gapLength s = 0) : gapLength (decoratorsText L ds ++ s) = 0 := by
  cases ds with
  | nil => exact hs
  | cons d ds => exact gapLength_single (by decide)

/-- **A class with its decorators is read.** -/
theorem reads_class (c : Class) (hn : 2 * (c.text L).length ≤ n) (hg : IsGap g) :
    Reads N (classStatement (nested n)) (g ++ (c.text L ++ r)) r (c.tree L) := by
  have htext : c.text L ++ r =
      decoratorsText L c.decorators ++ ("class".toList ++ (L.blank.text ++ (c.name.text ++ (L.blank.text ++ (c.bodyText L ++ r))))) := by
    simp [Class.text, Class.nameText]
  have hend := L.endsWord_blank (c.name.text ++ (L.blank.text ++ (c.bodyText L ++ r)))
  have hend' := L.endsWord_blank (c.bodyText L ++ r)
  simp only [Class.text, Class.nameText, List.length_append] at hn
  have hgap : gapLength (c.text L ++ r) = 0 := by
    rw [htext]
    exact gapLength_decorators _ (gapLength_word isWord_class _)
  have hnone : ∀ {g}, IsGap g → Refuses N (decorator (nested n))
      (g ++ ("class".toList ++ (L.blank.text ++ (c.name.text ++ (L.blank.text ++ (c.bodyText L ++ r)))))) :=
    fun hg => refuses_decorator (leads_word hg isWord_class) (by decide)
  obtain ⟨g', hg', hrows⟩ := rows_decorators (L := L) hnone c.decorators (g := []) (by omega) .nil
  refine Reads.node ?_ hg hgap
  rw [htext]
  refine hrows.many.bind ((Refuses.attempt (refuses_keyword ?_)).discard.bind ?_)
  · rw [nextWord_append hg' isWord_class hend]
    decide
  refine (reads_keyword hg' isWord_class hend).bind ((c.name.reads_className L.blank.isGap hend').bind ?_)
  exact (reads_classRest c (by omega) L.blank.isGap).bind (reads_pure _)

end Script
end ViewAtlas
