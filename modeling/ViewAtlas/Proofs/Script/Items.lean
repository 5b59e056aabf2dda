import ViewAtlas.Proofs.Script.Classes
/-!
# How items are read

The items of a script are imports, exports from other modules, variables with literals, and classes; variables and classes may
be exported, and a class has its decorators before its `export`.  `parse?_items` says which trees are read off a script of
items, printed one after the other.
-/
namespace ViewAtlas
namespace Script

/-! ## Printed items -/

/-- **The name of a module**, with its quotes. -/
structure ModuleName where
  quote : Char
  name : Text
  isQuote : quote = '"' ∨ quote = '\''
  nonempty : name ≠ []
  plain : ∀ c ∈ name, c ∉ ['\'', '"', '\\', '\n', '\r', '\x00']

namespace ModuleName

def text (m : ModuleName) : Text := m.quote :: (m.name ++ [m.quote])

def tree (m : ModuleName) : Tree := .node .source .string m.text []

end ModuleName

/-- **An item of a script**: the import of a name, the export of a module, a variable, or a class. -/
inductive Item where
  | importing (w : Plain) (m : ModuleName)
  | exporting (m : ModuleName)
  | binding (exported : Bool) (w : Plain) (l : Literal)
  | declaring (exported : Bool) (c : Class)

def Class.undecorated (c : Class) : Class := { c with decorators := [] }

def exportText (L : Layout) (before x : Text) : Text := before ++ ("export".toList ++ (L.blank.text ++ x))

def fromText (L : Layout) (m : ModuleName) : Text := "from".toList ++ (L.blank.text ++ (m.text ++ [';']))

def bracedText (L : Layout) (w : Plain) : Text := '\x7b' :: (L.blank.text ++ (w.text ++ (L.blank.text ++ ['\x7d'])))

def importText (L : Layout) (w : Plain) (m : ModuleName) : Text :=
  "import".toList ++ (L.blank.text ++ (bracedText L w ++ (L.blank.text ++ fromText L m)))

def bindingText (L : Layout) (w : Plain) (l : Literal) : Text :=
  variableText L.blank.text L.blank.text L.blank.text [] w.toName l

def bindingTree (L : Layout) (w : Plain) (l : Literal) : Tree :=
  variableTree L.blank.text L.blank.text L.blank.text [] w.toName l

namespace Item

def text (L : Layout) : Item → Text
  | .importing w m => importText L w m
  | .exporting m => exportText L [] ('*' :: (L.blank.text ++ fromText L m))
  | .binding false w l => bindingText L w l
  | .binding true w l => exportText L [] (bindingText L w l)
  | .declaring false c => c.text L
  | .declaring true c => exportText L (decoratorsText L c.decorators) (c.undecorated.text L)

def tree (L : Layout) : Item → Tree
  | .importing w m => .node .part .importing (importText L w m) [m.tree]
  | .exporting m => .node .part .exporting (exportText L [] ('*' :: (L.blank.text ++ fromText L m))) [m.tree]
  | .binding false w l => bindingTree L w l
  | .binding true w l => .node .part .exporting (exportText L [] (bindingText L w l)) [(bindingTree L w l).as .declaration]
  | .declaring false c => c.tree L
  | .declaring true c =>
    .node .part .exporting (exportText L (decoratorsText L c.decorators) (c.undecorated.text L))
      (c.decorators.map (Decorator.tree L) ++ [(c.undecorated.tree L).as .declaration])

end Item

/-- **The text of a script** of items. -/
def itemsText (L : Layout) (items : List Item) : Text := (items.flatMap fun i => L.line.text ++ i.text L) ++ L.line.text

/-! ## Modules -/

variable {N n : Nat} {s r t g : Text} {self : Nested} {L : Layout}

theorem isWord_import : IsWord "import".toList := isWord_of_all (by decide)

theorem isWord_export : IsWord "export".toList := isWord_of_all (by decide)

theorem isWord_from : IsWord "from".toList := isWord_of_all (by decide)

theorem ModuleName.isQuoted (m : ModuleName) : IsQuoted m.text := by
  have hbody : ∀ {s : Text}, (∀ c ∈ s, c ∉ ['\'', '"', '\\', '\n', '\r', '\x00']) → IsBody m.quote s := by
    intro s hs
    induction s with
    | nil => exact .nil
    | cons c s ih =>
      obtain ⟨hc, hrest⟩ := List.forall_mem_cons.1 hs
      simp only [List.mem_cons, List.not_mem_nil, or_false, not_or] at hc
      obtain ⟨hsingle, hdouble, hback, hline, hreturn, hnul⟩ := hc
      refine .char ⟨?_, hback, hline, hreturn, hnul⟩ (ih hrest)
      rcases m.isQuote with hquote | hquote
      · rwa [hquote]
      · rwa [hquote]
  exact .intro m.isQuote (hbody m.plain)

theorem ModuleName.reads (m : ModuleName) (hg : IsGap g) : Reads N source (g ++ (m.text ++ r)) r m.tree :=
  (reads_stringLiteral hg m.isQuoted).bind (reads_pure _)

theorem reads_importAttributes (h : nextWord s ∉ ["with", "assert"].map String.toList) :
    Reads N (importAttributes self) s s () :=
  ((refuses_keywordOf h).discard.bind _).attempt.discard

theorem reads_moduleEnd {α : Type} (a : α) : Reads N (do importAttributes self; terminator; return a) (';' :: r) r a := by
  have hstops : Leads stops (';' :: r) := leads_single (g := []) .nil (by decide) (by decide)
  refine (reads_importAttributes ?_).bind ((reads_terminator (g := []) .nil).bind (reads_pure a))
  rw [hstops.nextWord_eq_nil]
  decide

theorem Layout.reads_from (L : Layout) (hg : IsGap g) (s : Text) :
    Reads N (keyword "from") (g ++ ("from".toList ++ (L.blank.text ++ s))) (L.blank.text ++ s) () :=
  reads_keyword hg isWord_from (L.endsWord_blank s)

/-! ## Imports -/

theorem reads_specifier (w : Plain) (hg : IsGap g) (hend : EndsWord r) (hnext : nextWord r = []) :
    Reads N specifier (g ++ (w.text ++ r)) r () := by
  have hword : Leads startsWord (g ++ (w.text ++ r)) := leads_word hg w.isWord
  have htype : Refuses N (keyword "type") (g ++ (w.text ++ r)) := refuses_keyword (by
    rw [nextWord_append hg w.isWord hend]
    exact fun h => w.not_mem (l := ["type".toList]) (by decide) (List.mem_singleton.2 h))
  have hquotes : Refuses N stringLiteral (g ++ (w.text ++ r)) := refuses_stringLiteral fun c hc => by
    have hstart := hword c hc
    constructor <;> rintro rfl <;> exact absurd hstart (by decide)
  have has : Refuses N (keyword "as") r := refuses_keyword (by rw [hnext]; decide)
  refine (htype.bind _).attempt.discard.bind ?_
  exact (hquotes.discard.either_reads (reads_word hg w.isWord hend).discard).bind (has.bind _).attempt.discard

theorem reads_specifiers (w : Plain) (hg : IsGap g) : Reads N specifiers (g ++ (bracedText L w ++ r)) r () := by
  have htext : bracedText L w ++ r = '\x7b' :: (L.blank.text ++ (w.text ++ (L.blank.text ++ '\x7d' :: r))) := by
    simp [bracedText]
  have hbrace : Leads stops (L.blank.text ++ '\x7d' :: r) := leads_single L.blank.isGap (by decide) (by decide)
  have hclose : Leads (fun c => c = '\x7d') (L.blank.text ++ '\x7d' :: r) :=
    leads_single L.blank.isGap (by decide) (by decide)
  have hone := reads_specifier (N := N) w L.blank.isGap hbrace.ends.1 hbrace.nextWord_eq_nil
  have hlist : Lists N specifier (L.blank.text ++ (w.text ++ (L.blank.text ++ '\x7d' :: r))) (L.blank.text ++ '\x7d' :: r)
      [()] := .last hone (hclose.refuses_mark (by decide))
  rw [htext]
  exact (reads_single (by decide) rfl hg).bind (hlist.listed.discard.bind (reads_single (by decide) rfl L.blank.isGap))

theorem reads_import (w : Plain) (m : ModuleName) (hg : IsGap g) :
    Reads N (importStatement self) (g ++ (importText L w m ++ r)) r (.node .part .importing (importText L w m) [m.tree]) := by
  have htext : importText L w m ++ r = "import".toList ++ (L.blank.text ++ (bracedText L w ++
      (L.blank.text ++ ("from".toList ++ (L.blank.text ++ (m.text ++ ';' :: r)))))) := by
    unfold importText fromText
    simp only [List.append_assoc, List.singleton_append]
  have hbrace : Leads (fun c => c = '\x7b') (L.blank.text ++ (bracedText L w ++
      (L.blank.text ++ ("from".toList ++ (L.blank.text ++ (m.text ++ ';' :: r)))))) :=
    leads_single L.blank.isGap (by decide) (by decide)
  have hnext := nextWord_eq_nil fun c hc => by
    rw [of_decide_eq_true (hbrace c hc)]
    decide
  have hquotes := refuses_stringLiteral (N := N) fun c hc => by
    rw [of_decide_eq_true (hbrace c hc)]
    decide
  have hspecifiers := reads_specifiers (N := N) (L := L) w L.blank.isGap
    (r := L.blank.text ++ ("from".toList ++ (L.blank.text ++ (m.text ++ ';' :: r))))
  have hclause : Reads N importClause _ _ () := ((hbrace.refuses_mark (by decide)).bind _).oneOf_reads (hspecifiers.oneOf _)
  have hfrom := L.reads_from (N := N) L.blank.isGap (m.text ++ ';' :: r)
  refine Reads.node ?_ hg (by rw [htext, gapLength_word isWord_import])
  rw [htext]
  refine (reads_keyword (g := []) .nil isWord_import (L.endsWord_blank _)).bind (Reads.bind (a := m.tree) (t := ';' :: r) ?_ ?_)
  · refine (hquotes.bind _).oneOf_reads (((refuses_keywordOf ?_).discard.bind _).oneOf_reads ?_)
    · rw [hnext]
      decide
    · exact hclause.bind (hfrom.bind (m.reads L.blank.isGap))
  · exact reads_moduleEnd _

/-! ## Exports -/

theorem exportText_append (before x r : Text) :
    exportText L before x ++ r = before ++ ("export".toList ++ (L.blank.text ++ (x ++ r))) := by
  -- not `rw`: the equation of a definition with a word in it is slow to make
  unfold exportText
  simp only [List.append_assoc]

theorem length_exportText (before x : Text) : before.length + x.length ≤ (exportText L before x).length := by
  unfold exportText
  simp only [List.length_append]
  omega

def exportContent (self : Nested) : Reader (List Tree) :=
  oneOf
    [exportDefault self,
      exportClause self,
      do
        mark "="
        let e ← expressions self
        terminator
        return [e],
      do
        keyword "as"
        keyword "namespace"
        discard identifier
        terminator
        return [],
      do
        if ← markAhead "@" then return [(← classStatement self).as .declaration]
        else return [(← declaration self).as .declaration]]

theorem exportStatement_eq : exportStatement self = node .exporting do
    let ds ← many (decorator self)
    keyword "export"
    let children ← exportContent self
    return ds ++ children := rfl

theorem reads_exportStatement {before x g' : Text} {ds ts : List Tree} (hg : IsGap g) (hg' : IsGap g')
    (hgap : gapLength (exportText L before x ++ r) = 0)
    (hbefore : Rows N (decorator self) (before ++ ("export".toList ++ (L.blank.text ++ (x ++ r))))
      (g' ++ ("export".toList ++ (L.blank.text ++ (x ++ r)))) ds)
    (h : Reads N (exportContent self) (L.blank.text ++ (x ++ r)) r ts) :
    Reads N (exportStatement self) (g ++ (exportText L before x ++ r)) r
      (.node .part .exporting (exportText L before x) (ds ++ ts)) := by
  rw [exportStatement_eq]
  refine Reads.node ?_ hg hgap
  rw [exportText_append]
  exact hbefore.many.bind ((reads_keyword hg' isWord_export (L.endsWord_blank _)).bind (h.bind (reads_pure _)))

theorem refuses_exportDefault (h : nextWord s ≠ "default".toList) : Refuses N (exportDefault self) s :=
  (refuses_keyword h).bind _

theorem reads_exportContent_declaration {w : Text} {e : Tree} (hg : IsGap g) (hw : IsWord w) (hend : EndsWord r)
    (hfree : w ∉ ["default", "type", "as"].map String.toList) (h : Reads N (declaration self) (g ++ (w ++ r)) t e) :
    Reads N (exportContent self) (g ++ (w ++ r)) t [e.as .declaration] := by
  have hword : Leads startsWord (g ++ (w ++ r)) := leads_word hg hw
  have hnext : ∀ k ∈ ["default", "type", "as"], nextWord (g ++ (w ++ r)) ≠ k.toList := by
    intro k hk heq
    rw [nextWord_append hg hw hend] at heq
    exact hfree (heq ▸ List.mem_map.2 ⟨k, hk, rfl⟩)
  have hclause : Refuses N (exportClause self) (g ++ (w ++ r)) := by
    refine ((refuses_keyword (hnext "type" (by decide))).bind _).attempt.discard.bind_refuses (Refuses.bind ?_ _)
    exact ((hword.refuses_mark (by decide)).bind _).either (((hword.refuses_mark (by decide)).bind _).bind _)
  refine (refuses_exportDefault (hnext "default" (by decide))).oneOf_reads (hclause.oneOf_reads ?_)
  refine ((hword.refuses_mark (by decide)).bind _).oneOf_reads ?_
  refine ((refuses_keyword (hnext "as" (by decide))).bind _).oneOf_reads (Reads.oneOf ?_ [])
  refine (hword.markAhead (by decide)).bind ?_
  rw [if_neg Bool.false_ne_true]
  exact h.bind (reads_pure _)

theorem Layout.reads_star (L : Layout) (hg : IsGap g) (s : Text) :
    Reads N (mark "*") (g ++ '*' :: (L.blank.text ++ s)) (L.blank.text ++ s) () := by
  refine reads_mark (m := "*") hg (gapLength_cons (by decide) _) ?_
  exact mark?_alone ['*', '='] (by decide) (by decide) (by decide) fun c hc => L.notMem_of_head (by decide) hc

theorem reads_exportContent_module (m : ModuleName) :
    Reads N (exportContent self) (L.blank.text ++ '*' :: (L.blank.text ++ (fromText L m ++ r))) r [m.tree] := by
  have htext : fromText L m ++ r = "from".toList ++ (L.blank.text ++ (m.text ++ ';' :: r)) := by
    unfold fromText
    simp only [List.append_assoc, List.singleton_append]
  have hstar : Leads (fun c => c = '*') (L.blank.text ++ '*' :: (L.blank.text ++ (fromText L m ++ r))) :=
    leads_cons L.blank.isGap (gapLength_cons (by decide) _) (by decide)
  have hnext := nextWord_eq_nil fun c hc => by
    rw [of_decide_eq_true (hstar c hc)]
    decide
  have has : Refuses N (keyword "as") (L.blank.text ++ (fromText L m ++ r)) := by
    refine refuses_keyword ?_
    rw [htext, nextWord_append L.blank.isGap isWord_from (L.endsWord_blank _)]
    decide
  have hfrom := L.reads_from (N := N) L.blank.isGap (m.text ++ ';' :: r)
  rw [← htext] at hfrom
  have hclause : Reads N (exportClause self) (L.blank.text ++ '*' :: (L.blank.text ++ (fromText L m ++ r))) r [m.tree] := by
    refine ((refuses_keyword (by rw [hnext]; decide)).bind _).attempt.discard.bind ?_
    refine Reads.bind (a := [m.tree]) (t := ';' :: r) (Reads.either ?_ _) ?_
    · refine (L.reads_star L.blank.isGap _).bind ((has.bind _).attempt.discard.bind (hfrom.bind ?_))
      exact (m.reads L.blank.isGap).bind (reads_pure _)
    · exact reads_moduleEnd _
  exact (refuses_exportDefault (by rw [hnext]; decide)).oneOf_reads (hclause.oneOf _)

/-! ## Declarations -/

theorem isWord_const : IsWord "const".toList := isWord_of_all (by decide)

theorem bindingText_append (w : Plain) (l : Literal) (r : Text) :
    ∃ x, bindingText L w l ++ r = "const".toList ++ (L.blank.text ++ x) :=
  ⟨_, variableText_append ..⟩

theorem reads_binding (w : Plain) (l : Literal) (hn : 2 * l.text.length ≤ n) (hg : IsGap g) :
    Reads N (declaration (nested n)) (g ++ (bindingText L w l ++ r)) r (bindingTree L w l) ∧
      Reads N (nested (n + 1) .statement) (g ++ (bindingText L w l ++ r)) r (bindingTree L w l) :=
  ⟨reads_variable w.toName l hn hg L.blank.isGap L.blank_ne L.blank.isGap L.blank.isGap .nil,
    reads_variable_statement w.toName l hn hg L.blank.isGap L.blank_ne L.blank.isGap L.blank.isGap .nil⟩

theorem Class.text_undecorated (c : Class) :
    c.undecorated.text L = "class".toList ++ (L.blank.text ++ c.nameText L) := rfl

theorem Class.text_eq (c : Class) : c.text L = decoratorsText L c.decorators ++ c.undecorated.text L := rfl

theorem reads_declaration_class (c : Class) (hn : 2 * (c.text L).length ≤ n) (hg : IsGap g) :
    Reads N (declaration (nested n)) (g ++ (c.undecorated.text L ++ r)) r (c.undecorated.tree L) := by
  have hlength : 2 * (c.undecorated.text L).length ≤ n := by
    rw [c.text_eq, List.length_append] at hn
    omega
  have htext : c.undecorated.text L ++ r = "class".toList ++ (L.blank.text ++ (c.nameText L ++ r)) := by
    rw [c.text_undecorated, List.append_assoc, List.append_assoc]
  have hnext : nextWord (g ++ (c.undecorated.text L ++ r)) = "class".toList := by
    rw [htext, nextWord_append hg isWord_class (L.endsWord_blank _)]
  refine reads_wordAhead.bind ?_
  rw [hnext, if_neg (by decide)]
  exact reads_class c.undecorated hlength hg

/-! ## Statements -/

theorem reads_statement_at {e : Tree} (hg : IsGap g)
    (h : Reads N (oneOf [exportStatement self, classStatement self, expressionStatement self]) (g ++ '@' :: s) t e) :
    Reads N (readStatement self) (g ++ '@' :: s) t e := by
  refine reads_upcoming.bind ?_
  rw [beyond_append hg (gapLength_single (by decide))]
  dsimp only
  rw [if_neg (by decide), if_neg (by decide), if_pos rfl]
  exact h

theorem decoratorsText_cons (d : Decorator) (ds : List Decorator) :
    decoratorsText L (d :: ds) = '@' :: (d.call.text L ++ (L.line.text ++ decoratorsText L ds)) := by
  simp [decoratorsText, Decorator.text]

theorem refuses_decorator_word {w : Text} (hw : IsWord w) (hg : IsGap g) : Refuses N (decorator self) (g ++ (w ++ r)) :=
  refuses_decorator (leads_word hg hw) (by decide)

/-- **A statement with or without decorators** is read by the word after them, or as what may have decorators. -/
theorem reads_statement_decorated {ds : List Decorator} {w : Text} {e : Tree} (hg : IsGap g) (hw : IsWord w)
    (hend : EndsWord r)
    (hat : Reads N (oneOf [exportStatement self, classStatement self, expressionStatement self])
      (g ++ (decoratorsText L ds ++ (w ++ r))) t e)
    (hword : ds = [] → Reads N (wordStatement self (String.ofList w)) (g ++ (w ++ r)) t e) :
    Reads N (readStatement self) (g ++ (decoratorsText L ds ++ (w ++ r))) t e := by
  cases ds with
  | nil =>
    change Reads N (readStatement self) (g ++ (w ++ r)) t e
    exact reads_statement_word hg hw hend (hword rfl)
  | cons d ds =>
    rw [decoratorsText_cons] at hat ⊢
    exact reads_statement_at hg hat

theorem reads_statement_export {x : Text} {ts : List Tree} (hg : IsGap g)
    (h : Reads N (exportContent self) (L.blank.text ++ (x ++ r)) r ts) :
    Reads N (readStatement self) (g ++ (exportText L [] x ++ r)) r (.node .part .exporting (exportText L [] x) ts) := by
  have htext : exportText L [] x ++ r = "export".toList ++ (L.blank.text ++ (x ++ r)) := exportText_append [] x r
  have hread : Reads N (exportStatement self) (g ++ (exportText L [] x ++ r)) r
      (.node .part .exporting (exportText L [] x) ([] ++ ts)) :=
    reads_exportStatement hg .nil (by rw [htext, gapLength_word isWord_export])
      (.done (refuses_decorator_word isWord_export .nil)) h
  rw [htext] at hread ⊢
  exact reads_statement_word hg isWord_export (L.endsWord_blank _) hread

theorem reads_statement_class (c : Class) (hn : 2 * (c.text L).length ≤ n) (hg : IsGap g) :
    Reads N (readStatement (nested n)) (g ++ (c.text L ++ r)) r (c.tree L) := by
  have htext : c.text L ++ r = decoratorsText L c.decorators ++ ("class".toList ++ (L.blank.text ++ (c.nameText L ++ r))) := by
    rw [c.text_eq, c.text_undecorated, List.append_assoc, List.append_assoc, List.append_assoc]
  have hlength : 2 * (decoratorsText L c.decorators).length ≤ n := by
    rw [c.text_eq, List.length_append] at hn
    omega
  have hread := reads_class (N := N) (r := r) c hn hg
  rw [htext] at hread ⊢
  refine reads_statement_decorated hg isWord_class (L.endsWord_blank _) (Refuses.oneOf_reads ?_ (hread.oneOf _)) fun hnil => ?_
  · obtain ⟨g', hg', hrows⟩ := rows_decorators (N := N) (L := L) (refuses_decorator_word isWord_class) c.decorators hlength
      (g := []) .nil
    refine refuses_node ?_
    rw [beyond_append hg (gapLength_decorators _ (gapLength_word isWord_class _))]
    refine hrows.many.bind_refuses ((refuses_keyword ?_).bind _)
    rw [nextWord_append hg' isWord_class (L.endsWord_blank _)]
    decide
  · rw [hnil] at hread
    exact hread

theorem reads_statement_exportedClass (c : Class) (hn : 2 * (c.text L).length ≤ n) (hg : IsGap g) :
    Reads N (readStatement (nested n)) (g ++ ((Item.declaring true c).text L ++ r)) r ((Item.declaring true c).tree L) := by
  have hlength : 2 * (decoratorsText L c.decorators).length ≤ n := by
    rw [c.text_eq, List.length_append] at hn
    omega
  have htext : (Item.declaring true c).text L ++ r =
      decoratorsText L c.decorators ++ ("export".toList ++ (L.blank.text ++ (c.undecorated.text L ++ r))) :=
    exportText_append _ _ _
  have hclass := reads_declaration_class (N := N) (r := r) c hn L.blank.isGap
  have hcontent : Reads N (exportContent (nested n)) (L.blank.text ++ (c.undecorated.text L ++ r)) r
      [(c.undecorated.tree L).as .declaration] := by
    rw [c.text_undecorated, List.append_assoc, List.append_assoc] at hclass ⊢
    exact reads_exportContent_declaration L.blank.isGap isWord_class (L.endsWord_blank _) (by decide) hclass
  obtain ⟨g', hg', hrows⟩ := rows_decorators (N := N) (L := L) (refuses_decorator_word isWord_export) c.decorators hlength
    (g := []) .nil
  have hgap : gapLength (exportText L (decoratorsText L c.decorators) (c.undecorated.text L) ++ r) = 0 := by
    change gapLength ((Item.declaring true c).text L ++ r) = 0
    rw [htext]
    exact gapLength_decorators _ (gapLength_word isWord_export _)
  have hread : Reads N (exportStatement (nested n)) (g ++ ((Item.declaring true c).text L ++ r)) r _ :=
    reads_exportStatement hg hg' hgap hrows hcontent
  rw [htext] at hread ⊢
  refine reads_statement_decorated hg isWord_export (L.endsWord_blank _) (hread.oneOf _) fun hnil => ?_
  change Reads N (exportStatement (nested n)) _ r (.node .part .exporting
    (exportText L (decoratorsText L c.decorators) (c.undecorated.text L))
    (c.decorators.map (Decorator.tree L) ++ [(c.undecorated.tree L).as .declaration]))
  rw [hnil] at hread ⊢
  exact hread

theorem reads_statement_item (i : Item) (hn : 2 * (i.text L).length ≤ n) (hg : IsGap g) :
    Reads N (nested (n + 1) .statement) (g ++ (i.text L ++ r)) r (i.tree L) := by
  cases i with
  | importing w m =>
    have hread : Reads N (oneOf [importStatement (nested n), aliasStatement, expressionStatement (nested n)])
        (g ++ (importText L w m ++ r)) r (.node .part .importing (importText L w m) [m.tree]) := (reads_import w m hg).oneOf _
    change Reads N (readStatement (nested n)) (g ++ (importText L w m ++ r)) r _
    unfold importText at hread ⊢
    rw [List.append_assoc, List.append_assoc] at hread ⊢
    exact reads_statement_word hg isWord_import (L.endsWord_blank _) hread
  | exporting m =>
    refine reads_statement_export hg ?_
    rw [List.cons_append, List.append_assoc]
    exact reads_exportContent_module m
  | binding exported w l =>
    have hvalue : l.text.length ≤ (bindingText L w l).length := by
      unfold bindingText variableText
      simp only [List.length_append, List.length_cons]
      omega
    have hbinding : 2 * (bindingText L w l).length ≤ n := by
      cases exported with
      | false => exact hn
      | true =>
        have hexport : 0 + (bindingText L w l).length ≤ (exportText L [] (bindingText L w l)).length := length_exportText [] _
        change 2 * (exportText L [] (bindingText L w l)).length ≤ n at hn
        omega
    have hlength : 2 * l.text.length ≤ n := by omega
    cases exported with
    | false => exact (reads_binding w l hlength hg).2
    | true =>
      refine reads_statement_export hg ?_
      have hread := (reads_binding (N := N) (L := L) (r := r) w l hlength L.blank.isGap).1
      obtain ⟨x, hx⟩ := bindingText_append (L := L) w l r
      rw [hx] at hread ⊢
      exact reads_exportContent_declaration L.blank.isGap isWord_const (L.endsWord_blank _) (by decide) hread
  | declaring exported c =>
    cases exported with
    | false => exact reads_statement_class c hn hg
    | true =>
      refine reads_statement_exportedClass c ?_ hg
      have hexport := length_exportText (L := L) (decoratorsText L c.decorators) (c.undecorated.text L)
      change 2 * (exportText L (decoratorsText L c.decorators) (c.undecorated.text L)).length ≤ n at hn
      rw [c.text_eq, List.length_append]
      omega

/-! ## Scripts -/

theorem Item.text_append (i : Item) (r : Text) :
    ∃ ds w x, IsWord w ∧ i.text L ++ r = decoratorsText L ds ++ (w ++ x) := by
  cases i with
  | importing w m => exact ⟨[], _, _, isWord_import, List.append_assoc ..⟩
  | exporting m => exact ⟨[], _, _, isWord_export, List.append_assoc ..⟩
  | binding exported w l =>
    cases exported with
    | false => exact ⟨[], _, _, isWord_const, List.append_assoc ..⟩
    | true => exact ⟨[], _, _, isWord_export, List.append_assoc ..⟩
  | declaring exported c =>
    cases exported with
    | false => exact ⟨c.decorators, _, _, isWord_class, List.append_assoc ..⟩
    | true => exact ⟨c.decorators, _, _, isWord_export, exportText_append ..⟩

theorem Item.gapLength (i : Item) (r : Text) : gapLength (i.text L ++ r) = 0 := by
  obtain ⟨ds, w, x, hw, htext⟩ := i.text_append (L := L) r
  rw [htext]
  exact gapLength_decorators ds (gapLength_word hw x)

theorem Item.head (i : Item) (r : Text) : ∃ c ∈ (i.text L ++ r).head?, c ≠ '#' := by
  obtain ⟨ds, w, x, hw, htext⟩ := i.text_append (L := L) r
  rw [htext]
  cases ds with
  | nil =>
    obtain ⟨c, hc, hstart⟩ := hw.startsWord_head x
    refine ⟨c, hc, ?_⟩
    rintro rfl
    exact absurd hstart (by decide)
  | cons d ds =>
    rw [decoratorsText_cons]
    exact ⟨'@', rfl, by decide⟩

theorem Item.length_pos (i : Item) : 0 < (i.text L).length := by
  obtain ⟨c, hc, -⟩ := i.head (L := L) []
  rw [List.append_nil] at hc
  exact List.length_pos_of_mem (List.mem_of_mem_head? hc)

theorem rows_items : ∀ (items : List Item), 2 * (itemsText L items).length ≤ n →
    Rows N (nested (n + 1) .statement) (itemsText L items) L.line.text (items.map (Item.tree L))
  | [], _ => .done (refuses_statement_nil L.line.isGap)
  | i :: items, hn => by
    have htext : itemsText L (i :: items) = L.line.text ++ (i.text L ++ itemsText L items) := by simp [itemsText]
    have hpos := i.length_pos (L := L)
    rw [htext] at hn ⊢
    simp only [List.length_append] at hn
    refine .step (reads_statement_item i (by omega) L.line.isGap) ?_ (rows_items items (by omega))
    simp only [List.length_append]
    omega

theorem interpreterLength_eq_zero (h : s.head? ≠ some '#') : interpreterLength s = 0 := by
  unfold interpreterLength
  split
  · exact absurd rfl h
  · rfl

theorem IsGap.head_ne (hg : IsGap g) (hs : s.head? ≠ some '#') : (g ++ s).head? ≠ some '#' := by
  intro hc
  rcases hg.head '#' hc with hspace | hslash | ⟨-, hhead⟩
  · exact absurd hspace (by decide)
  · exact absurd hslash (by decide)
  · exact hs hhead

/-- **A script of items is read** into the trees of its items. -/
theorem parse?_items (L : Layout) (items : List Item) :
    ∃ x, parse? (itemsText L items) = some (.node .part .other x (items.map (Item.tree L))) := by
  have hgap := L.line.isGap
  cases items with
  | nil =>
    have hstart := interpreterLength_eq_zero (hgap.head_ne (s := []) (by decide))
    have hparse := parse?_of_rows hgap (gapLength_eq_zero fun c hc => by cases hc) .nil hstart
      (.done (refuses_statement_nil .nil))
    rw [List.append_nil] at hparse
    exact ⟨[], hparse⟩
  | cons i items =>
    have htext : itemsText L (i :: items) = L.line.text ++ (i.text L ++ itemsText L items) := by simp [itemsText]
    have hhead : (i.text L ++ itemsText L items).head? ≠ some '#' := by
      obtain ⟨c, hc, hne⟩ := i.head (L := L) (itemsText L items)
      rintro heq
      cases hc.symm.trans heq
      exact hne rfl
    rw [htext]
    refine ⟨_, parse?_of_rows hgap (i.gapLength _) hgap (interpreterLength_eq_zero (hgap.head_ne hhead)) ?_⟩
    refine .step (reads_statement_item (g := []) i ?_ .nil) ?_ (rows_items items ?_)
    · simp only [List.length_append]
      omega
    · have hpos := i.length_pos (L := L)
      rw [List.length_append]
      omega
    · simp only [List.length_append]
      omega

end Script
end ViewAtlas
