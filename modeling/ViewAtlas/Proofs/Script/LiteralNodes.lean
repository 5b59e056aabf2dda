import ViewAtlas.Proofs.Script.Accepting
import ViewAtlas.Script.Reading
/-!
# Literals in scripts

Only two readers make nodes that have a value.  So every such node in the tree of a script is a literal
(`literate_of_parse?`), whatever stands around it: each reader gives such trees when the readers that it is made of do.

There is one lemma for each reader, and it goes through the steps of the reader in their order: with `bind` where the
node keeps what the step gives, and with `skip` where it does not.
-/
namespace ViewAtlas
namespace Script

/-- A node that has a value: a string, or a template without substitutions. -/
def IsValued (t : Tree) : Prop := t.kind = .string ∨ t.kind = .template ∧ ∀ u ∈ t.children, u.kind ≠ .substitution

/-- **A tree in which all nodes with a value are literals.** -/
inductive Literate : Tree → Prop
  | node {r : Role} {k : Kind} {x : Text} {cs : List Tree}
      (h : IsValued (.node r k x cs) → ∃ quote ps, IsLiteral quote ps (.node r k x cs)) (hcs : ∀ c ∈ cs, Literate c) :
      Literate (.node r k x cs)

def AllLiterate (ts : List Tree) : Prop := ∀ t ∈ ts, Literate t

section
variable {t : Tree} {ts us : List Tree} {k : Kind}

@[simp] theorem allLiterate_nil : AllLiterate [] := List.forall_mem_nil _

@[simp] theorem allLiterate_cons : AllLiterate (t :: ts) ↔ Literate t ∧ AllLiterate ts := List.forall_mem_cons

@[simp] theorem allLiterate_append : AllLiterate (ts ++ us) ↔ AllLiterate ts ∧ AllLiterate us := List.forall_mem_append

@[simp] theorem allLiterate_toList {o : Option Tree} : AllLiterate o.toList ↔ ∀ t ∈ o, Literate t := by
  simp [AllLiterate]

@[simp] theorem allLiterate_getD {o : Option (List Tree)} : AllLiterate (o.getD []) ↔ ∀ ts ∈ o, AllLiterate ts := by
  cases o <;> simp

@[simp] theorem allLiterate_flatten {tss : List (List Tree)} : AllLiterate tss.flatten ↔ ∀ ts ∈ tss, AllLiterate ts :=
  List.forall_mem_flatten

theorem allLiterate_filterMap {os : List (Option Tree)} (h : ∀ o ∈ os, ∀ t ∈ o, Literate t) :
    AllLiterate (os.filterMap id) := fun t ht => by
  obtain ⟨o, ho, hto⟩ := List.mem_filterMap.1 ht
  exact h o ho t hto

@[simp] theorem literate_as {r : Role} : Literate (t.as r) ↔ Literate t := by
  cases t with
  | node r' k x cs =>
    constructor <;> rintro ⟨h, hcs⟩ <;> refine ⟨fun hv => ?_, hcs⟩ <;>
      obtain ⟨quote, ps, hl⟩ := h hv <;> exact ⟨quote, ps, hl.kind, hl.spelled, hl.text⟩

theorem literate_node {r : Role} {x : Text} (hk : k ≠ .string ∧ k ≠ .template) (h : AllLiterate ts) :
    Literate (.node r k x ts) :=
  .node (fun hv => hv.elim (absurd · hk.1) fun hv => absurd hv.1 hk.2) h

end

namespace Yields

variable {p : Reader (List Tree)} {k : Kind} {start : Cursor} {ts : List Tree}

theorem node (hp : Yields p AllLiterate) (hk : k ≠ .string ∧ k ≠ .template) : Yields (node k p) Literate :=
  fun _ _ _ h => by
    obtain ⟨cs, hcs, rfl⟩ := node_eq_ok h
    exact literate_node hk (hp hcs)

theorem since (h : AllLiterate ts) (hk : k ≠ .string ∧ k ≠ .template) : Yields (since start k ts) Literate :=
  fun _ _ _ hrun => by
    cases hrun
    exact literate_node hk h

theorem other (hp : Yields p AllLiterate) : Yields (Script.node .other p) Literate := hp.node (by decide)

theorem leaf {α : Type} {p : Reader α} (hk : k ≠ .string ∧ k ≠ .template) :
    Yields (Script.node k (p >>= fun _ => Pure.pure [])) Literate :=
  .node (.skip fun _ => .pure allLiterate_nil) hk

end Yields

theorem yields_stringLiteral : Yields stringLiteral Literate := fun d t _ h => by
  obtain ⟨cs, hcs, ht⟩ := node_eq_ok h
  have hnil : cs = [] := by
    rw [get_bind_eq_ok] at hcs
    cases hn : stringLength? (beyond d.rest) with
    | none =>
      simp only [hn] at hcs
      cases hcs
    | some n =>
      simp only [hn] at hcs
      cases hcs
      rfl
  subst ht hnil
  exact .node (fun _ => isLiteral_of_stringLiteral h) (List.forall_mem_nil _)

theorem yields_identifier : Yields identifier Literate :=
  .node (.skip fun _ => .ite .refuse (.pure allLiterate_nil)) (by decide)

theorem yields_number : Yields number Literate :=
  .other (.skip fun _ => .ite .refuse (.skip fun _ => .pure allLiterate_nil))

variable {self : Nested} (h : ∀ phrase, Yields (self phrase) Literate)

include h

theorem yields_expressions : Yields (expressions self) Literate :=
  .skip fun _ => .skip fun _ => .bind (.separated (h _)) fun es hes => by
    split
    · exact .pure (hes _ (List.mem_singleton_self _))
    · exact .since hes (by decide)

/-! ## Types -/

theorem yields_propertyName : Yields (propertyName self) Literate :=
  .oneOf yields_stringLiteral <| .oneOf yields_number <|
  .oneOf (.other (.skip fun _ => .bind (h _) fun _ he => .skip fun _ => .pure (by simpa using he))) <|
  .oneOf (.other (.skip fun _ => .skip fun _ => .pure allLiterate_nil)) <|
  .last (.leaf (by decide))

theorem yields_typeArguments : Yields (typeArguments self) Literate :=
  .other (.skip fun _ => .bind (.listed1 (h _)) fun _ hts => .skip fun _ => .pure hts)

theorem yields_typeParameter : Yields (typeParameter self) AllLiterate :=
  .skip fun _ => .skip fun _ => .bind (.attempt (.skip fun _ => h _)) fun _ hbound =>
    .bind (.attempt (.skip fun _ => h _)) fun _ hdefault => .pure (by simp_all)

theorem yields_typeParameters : Yields (typeParameters self) Literate :=
  .other (.skip fun _ => .bind (.listed1 (yields_typeParameter h)) fun _ hps => .skip fun _ => .pure (by simp_all))

theorem yields_statedType : Yields (statedType self) AllLiterate :=
  .bind (.attempt (.skip fun _ => h _)) fun _ ht => .pure (by simp_all)

theorem yields_arguments : Yields (arguments self) Literate :=
  .node (.skip fun _ => .bind
    (.listed (.either (.other (.skip fun _ => .bind (h _) fun _ he => .pure (by simpa using he))) (h _)))
    fun _ hitems => .skip fun _ => .pure hitems) (by decide)

theorem yields_decorator : Yields (decorator self) Literate := by
  have hcall : ∀ {start : Cursor} {name : Tree}, Literate name → Yields (do
      let call ← attempt do
        let ts ← attempt (typeArguments self)
        let args ← arguments self
        since start .call (name.as .callee :: ts.toList ++ [args.as .arguments])
      return [call.getD name]) AllLiterate := fun hname =>
    .bind (.attempt (.bind (.attempt (yields_typeArguments h)) fun _ hts => .bind (yields_arguments h) fun _ hargs =>
      .since (by simp_all) (by decide))) fun call hcall => .pure (by cases call <;> simp_all)
  refine .node (.skip fun _ => .skip fun _ => .ite ?_ ?_) (by decide)
  · exact .bind (.node (.skip fun _ => .bind (h _) fun _ he => .skip fun _ => .pure (by simpa using he)) (by decide))
      fun _ he => .pure (by simpa using he)
  · exact .skip fun _ => .skip fun _ => .bind yields_identifier fun _ hfirst => .skip fun _ =>
      .ite (.bind (.pure hfirst) fun _ => hcall) (.bind (.since (by simpa using hfirst) (by decide)) fun _ => hcall)

theorem yields_initializer : Yields (initializer self) fun o => ∀ e ∈ o, Literate e := .attempt (.skip fun _ => h _)

theorem yields_parameter : Yields (parameter self) AllLiterate :=
  .bind (.many (yields_decorator h)) fun _ (hds : AllLiterate _) => .skip fun _ => .skip fun _ =>
    .bind (.either (h _) (.leaf (by decide))) fun _ hp => .skip fun _ => .bind (yields_statedType h) fun _ ht =>
      .bind (yields_initializer h) fun _ he => .pure (by simp_all)

theorem yields_parameters : Yields (parameters self) Literate :=
  .other (.skip fun _ => .bind (.attempt (.listed1 (yields_parameter h))) fun ps hps => .skip fun _ =>
    .pure (by cases ps <;> simp_all))

theorem yields_resultType : Yields (resultType self) AllLiterate :=
  .oneOf (.skip fun _ => .skip fun _ => .ite .stop <| .skip fun _ => .bind (.attempt (.skip fun _ => h _)) fun _ ht =>
    .pure (by simp_all)) <|
  .oneOf (.skip fun _ => .skip fun _ => .ite .stop <| .skip fun _ => .bind (h _) fun _ ht => .pure (by simpa using ht)) <|
  .last (.bind (h _) fun _ ht => .pure (by simpa using ht))

theorem yields_signature : Yields (signature self) AllLiterate :=
  .bind (.attempt (yields_typeParameters h)) fun _ hts => .bind (yields_parameters h) fun _ hps =>
    .bind (.attempt (.skip fun _ => yields_resultType h)) fun _ hr => .pure (by simp_all)

theorem yields_functionType : Yields (functionType self) Literate :=
  .other (.skip fun _ => .bind (.attempt (yields_typeParameters h)) fun _ hts => .bind (yields_parameters h) fun _ hps =>
    .skip fun _ => .bind (yields_resultType h) fun _ hr => .pure (by simp_all))

theorem yields_tupleElement : Yields (tupleElement self) Literate :=
  .other (.skip fun _ => .skip fun _ => .bind (h _) fun _ ht => .skip fun _ => .pure (by simpa using ht))

theorem yields_indexKey : Yields (indexKey self) Literate :=
  .other (.skip fun _ => .skip fun _ => .bind (Q := AllLiterate)
    (.either (.skip fun _ => .bind (h _) fun _ ht => .pure (by simpa using ht))
      (.skip fun _ => .bind (h _) fun _ ht => .bind (.attempt (.skip fun _ => h _)) fun _ hu => .pure (by simp_all)))
    fun _ hts => .skip fun _ => .pure hts)

theorem yields_typeMember : Yields (typeMember self) Literate :=
  .other (.skip fun _ => .skip fun _ => .bind (Q := AllLiterate)
    (.oneOf (.skip fun _ => yields_signature h) <| .last <|
      .bind (.either (yields_indexKey h) (yields_propertyName h)) fun _ hname => .skip fun _ => .skip fun _ =>
        .bind (.either (yields_signature h) (yields_statedType h)) fun _ hrest => .pure (by simp_all))
    fun _ hcs => .skip fun _ => .pure hcs)

theorem yields_objectType : Yields (objectType self) Literate :=
  .other (.skip fun _ => .bind (.many (yields_typeMember h)) fun _ hms => .skip fun _ => .pure hms)

theorem yields_templateTypePiece : Yields (templateTypePiece self) fun o => ∀ t ∈ o, Literate t :=
  .skip fun s => .ite (.skip fun _ => .pure (by simp)) <| by
    split
    · split
      · exact .skip fun _ => .pure (by simp)
      · exact .refuse
    · exact .skip fun _ => .bind (h _) fun _ ht => .skip fun _ => .pure (by simpa using ht)
    · exact .refuse

theorem yields_templateType : Yields (templateType self) Literate :=
  .other (.skip fun _ => .bind (.many (yields_templateTypePiece h)) fun _ hts => .skip fun _ => .ite
    (.skip fun _ => .pure (allLiterate_filterMap hts)) .stop)

theorem yields_importedModule : Yields (importedModule self) Literate :=
  .node (.bind (.leaf (by decide)) fun _ hcallee => .bind (yields_arguments h) fun _ hargs => .pure (by simp_all))
    (by decide)

theorem yields_typeReference : Yields (typeReference self) Literate :=
  .other (.skip fun _ => .bind (Q := AllLiterate)
    (.either (.bind (yields_importedModule h) fun _ ht => .pure (by simpa using ht))
      (.skip fun _ => .ite .refuse (.pure allLiterate_nil)))
    fun _ hhead => .skip fun _ => .skip fun _ => .ite (.pure hhead)
      (.bind (.attempt (yields_typeArguments h)) fun _ hts => .pure (by simp_all)))

theorem yields_primaryType : Yields (primaryType self) Literate :=
  .oneOf (.other (.skip fun _ => .bind (h _) fun _ ht => .skip fun _ => .pure (by simpa using ht))) <|
  .oneOf (.other (.skip fun _ => .bind (.listed (yields_tupleElement h)) fun _ hts => .skip fun _ => .pure hts)) <|
  .oneOf (yields_objectType h) <| .oneOf (yields_templateType h) <| .oneOf yields_stringLiteral <|
  .oneOf (.other (.skip fun _ => .bind yields_number fun _ hn => .pure (by simpa using hn))) <|
  .last (yields_typeReference h)

theorem yields_unaryType : Yields (unaryType self) Literate :=
  .other (.skip fun _ => .bind (yields_primaryType h) fun _ ht => .bind
    (.many (.skip fun _ => .ite .stop <| .skip fun _ => .bind (.attempt (h _)) fun _ hi => .skip fun _ => .pure hi))
    fun _ his => .pure (allLiterate_cons.2 ⟨ht, allLiterate_filterMap his⟩))

theorem yields_intersectionType : Yields (intersectionType self) Literate :=
  .other (.skip fun _ => .bind (yields_unaryType h) fun _ ht => .bind
    (.many (.skip fun _ => .either (yields_functionType h) (yields_unaryType h))) fun _ hmore =>
      .pure (allLiterate_cons.2 ⟨ht, hmore⟩))

theorem yields_unionType : Yields (unionType self) Literate :=
  .other (.skip fun _ => .bind (yields_intersectionType h) fun _ ht => .bind
    (.many (.skip fun _ => .either (yields_functionType h) (yields_intersectionType h))) fun _ hmore =>
      .pure (allLiterate_cons.2 ⟨ht, hmore⟩))

theorem yields_readType : Yields (readType self) Literate :=
  .either (yields_functionType h) <| .other <| .bind (yields_unionType h) fun _ ht => .bind (.attempt (Q := AllLiterate)
    (.skip fun _ => .ite .stop <| .skip fun _ => .bind (yields_unionType h) fun _ hbound => .skip fun _ =>
      .bind (h _) fun _ hyes => .skip fun _ => .bind (h _) fun _ hno => .pure (by simp_all)))
    fun _ hchoice => .pure (by simp_all)

theorem yields_readPattern : Yields (readPattern self) Literate := by
  have hdefault : Yields (do
      let p ← self .pattern
      let e ← initializer self
      return p :: e.toList) AllLiterate :=
    .bind (h _) fun _ hp => .bind (yields_initializer h) fun _ he => .pure (by simp_all)
  have hrest : Yields (do
      mark "..."
      return [← self .pattern]) AllLiterate := .skip fun _ => .bind (h _) fun _ hp => .pure (by simpa using hp)
  exact .oneOf yields_identifier <|
    .oneOf (.other (.skip fun _ => .bind (.listed <| .oneOf hrest <|
      .oneOf (.bind (yields_propertyName h) fun _ hk => .skip fun _ => .bind hdefault fun _ hv => .pure (by simp_all)) <|
      .last (.bind yields_identifier fun _ hn => .bind (yields_initializer h) fun _ he => .pure (by simp_all)))
      fun _ hitems => .skip fun _ => .pure (by simpa using hitems))) <|
    .last (.other (.skip fun _ => .bind (.listed (.either hrest hdefault)) fun _ hitems => .skip fun _ =>
      .pure (by simpa using hitems)))

theorem yields_block : Yields (block self) Literate :=
  .node (.skip fun _ => .bind (.many (h _)) fun _ hss => .skip fun _ => .pure hss) (by decide)

/-! ## Classes -/

theorem yields_methodRest : Yields (methodRest self) AllLiterate :=
  .bind (yields_signature h) fun _ hs => .bind (yields_block h) fun _ hb => .pure (by simp_all)

theorem yields_method : Yields (method self) Literate :=
  .node (.skip fun _ => .bind (yields_propertyName h) fun _ hname => .skip fun _ =>
    .bind (yields_methodRest h) fun _ hrest => .pure (by simp_all)) (by decide)

theorem yields_field : Yields (field self) Literate :=
  .node (.skip fun _ => .bind (yields_propertyName h) fun _ hname => .skip fun _ => .bind (yields_statedType h) fun _ ht =>
    .bind (yields_initializer h) fun v hv => .pure (by cases v <;> simp_all)) (by decide)

theorem yields_member : Yields (member self) AllLiterate :=
  .skip fun _ => .ite (.skip fun _ => .pure allLiterate_nil) <|
    .bind (.many (yields_decorator h)) fun _ (hds : AllLiterate _) => .bind (Q := Literate)
      (.oneOf (.other (.skip fun _ => .bind (yields_block h) fun _ hb => .pure (by simpa using hb))) <|
        .oneOf (yields_method h) <|
        .oneOf (.bind (.other (.skip fun _ => .bind (yields_propertyName h) fun _ hname => .skip fun _ =>
          .bind (yields_signature h) fun _ hs => .pure (by simp_all))) fun _ hm => .skip fun _ => .pure hm) <|
        .oneOf (.bind (.other (.skip fun _ => .bind (yields_indexKey h) fun _ hk =>
          .bind (yields_statedType h) fun _ ht => .pure (by simp_all))) fun _ hm => .skip fun _ => .pure hm) <|
        .last (.bind (yields_field h) fun _ hm => .skip fun _ => .pure hm))
      fun _ hm => .pure (by simp_all)

theorem yields_classBody : Yields (classBody self) Literate :=
  .node (.skip fun _ => .bind (.many (yields_member h)) fun _ hms => .skip fun _ => .pure (by simpa using hms)) (by decide)

theorem yields_classRest {base : Reader Tree} (hbase : Yields base Literate) : Yields (classRest self base) AllLiterate :=
  .bind (.attempt (yields_typeParameters h)) fun _ hts => .bind (.attempt (.skip fun _ => .separated
    (.bind hbase fun _ he => .bind (.attempt (yields_typeArguments h)) fun _ hts => .pure (Q := AllLiterate) (by simp_all))))
    fun bases hbases => .bind (.attempt (Q := AllLiterate) (.skip fun _ => .separated (h _))) fun _ hfaces =>
      .bind (yields_classBody h) fun _ hb => .pure (by cases bases <;> simp_all)

omit h in
theorem yields_className : Yields className Literate :=
  .skip fun _ => .skip fun _ => .ite .stop yields_identifier

/-! ## Expressions -/

theorem yields_parenthesized : Yields (parenthesized self) Literate :=
  .node (.skip fun _ => .bind (yields_expressions h) fun _ he => .skip fun _ => .pure (by simpa using he)) (by decide)

theorem yields_templatePiece : Yields (templatePiece self) Literate :=
  .skip fun start => .ite (.skip fun _ => .since allLiterate_nil (by decide)) <| by
    split
    · split
      · exact .skip fun _ => .since allLiterate_nil (by decide)
      · exact .refuse
    · exact .skip fun _ => .bind (yields_expressions h) fun _ he => .skip fun _ => .since (by simpa using he) (by decide)
    · exact .refuse

/-- **A template is a literal**, unless it has a substitution. -/
theorem yields_templateLiteral : Yields (templateLiteral self) Literate := fun _ t _ hrun => by
  have hparts : Yields (do
      exactly "\x60"
      let ps ← many (templatePiece self)
      if (← get).rest.head? = some '\x60' then discard <| take 1 else refuse
      return ps) AllLiterate :=
    .skip fun _ => .bind (.many (yields_templatePiece h)) fun _ hps => .skip fun _ => .ite (.skip fun _ => .pure hps) .stop
  obtain ⟨cs, hcs, ht⟩ := node_eq_ok hrun
  subst ht
  refine .node (fun hv => ?_) (hparts hcs)
  rcases hv with hkind | hv
  · cases hkind
  · exact ⟨_, isLiteral_of_templateLiteral hrun hv.2⟩

theorem yields_spread : Yields (spread self) Literate :=
  .other (.skip fun _ => .bind (h _) fun _ he => .pure (by simpa using he))

theorem yields_arrayLiteral : Yields (arrayLiteral self) Literate :=
  .node (.skip fun _ => .bind (.listed (.either (yields_spread h) (h _))) fun _ hitems => .skip fun _ => .pure hitems)
    (by decide)

theorem yields_objectMember : Yields (objectMember self) Literate :=
  .oneOf (yields_spread h) <|
  .oneOf (.node (.bind (yields_propertyName h) fun _ hk => .skip fun _ => .bind (h _) fun _ hv => .pure (by simp_all))
    (by decide)) <|
  .oneOf (yields_method h) <| .last yields_identifier

theorem yields_objectLiteral : Yields (objectLiteral self) Literate :=
  .node (.skip fun _ => .bind (.listed (yields_objectMember h)) fun _ hms => .skip fun _ => .pure hms) (by decide)

theorem yields_functionExpression : Yields (functionExpression self) Literate :=
  .node (.skip fun _ => .skip fun _ => .bind (.attempt yields_identifier) fun _ hname => .bind (yields_signature h)
    fun _ hs => .bind (yields_block h) fun _ hb => .pure (by simp_all)) (by decide)

theorem yields_generatorExpression : Yields (generatorExpression self) Literate :=
  .other (.skip fun _ => .skip fun _ => .skip fun _ => .bind (.attempt yields_identifier) fun _ hname =>
    .bind (yields_signature h) fun _ hs => .bind (yields_block h) fun _ hb => .pure (by simp_all))

theorem yields_arrowFunction (annotated : Bool) : Yields (arrowFunction self annotated) Literate :=
  .node (.skip fun _ => .bind (Q := AllLiterate)
    (.either (.bind yields_identifier fun _ hp => .skip fun _ => .pure (by simpa using hp))
      (.bind (.attempt (yields_typeParameters h)) fun _ hts => .bind (yields_parameters h) fun _ hps =>
        .branch (Q := fun r => ∀ ts ∈ r, AllLiterate ts) (.attempt (.skip fun _ => yields_resultType h)) (.pure (by simp))
          fun _ hr => .skip fun _ => .pure (by simp_all)))
    fun _ hhead => .skip fun _ => .branch (yields_block h) (h _) fun _ hb => .pure (by simp_all)) (by decide)

omit h in
theorem yields_regex : Yields regex Literate :=
  .other (.skip fun _ => by
    split
    · exact .refuse
    · exact .skip fun _ => .pure allLiterate_nil)

variable {start : Cursor} {left : Tree} (hleft : Literate left)

include hleft

omit h in
theorem yields_memberAccess : Yields (memberAccess start left) Literate :=
  .skip fun _ => .skip fun _ => .skip fun _ => .since (by simpa using hleft) (by decide)

theorem yields_indexAccess : Yields (indexAccess self start left) Literate :=
  .skip fun _ => .skip fun _ => .bind (yields_expressions h) fun _ hi => .skip fun _ => .since (by simp_all) (by decide)

omit h in
theorem yields_nonNull : Yields (nonNull start left) Literate :=
  .skip fun _ => .ite .stop <| .skip fun _ => .since (by simpa using hleft) (by decide)

theorem yields_callStep : Yields (callStep self start left) Literate :=
  .skip fun _ => .bind (.attempt (yields_typeArguments h)) fun ts hts => .skip fun _ =>
    .ite (.bind (yields_arguments h) fun _ hargs => .since (by simp_all) (by decide)) <| .ite .refuse <| .skip fun _ =>
      .ite (.bind (yields_templateLiteral h) fun _ ht => .since (by simp_all) (by decide)) <| .skip fun _ => .skip fun _ =>
        .ite (.since (by simp_all) (by decide)) .refuse

omit hleft

omit h in
theorem yields_extended {step : Tree → Reader Tree} (hstep : ∀ left, Literate left → Yields (step left) Literate) :
    ∀ n left, Literate left → Yields (extended step n left) Literate
  | 0, _, _ => fun _ _ _ hrun => by cases hrun
  | n + 1, left, hleft => .bind (.attempt (hstep left hleft)) fun o ho => by
    cases o with
    | none => exact .pure hleft
    | some t => exact yields_extended hstep n t (ho t rfl)

omit h in
theorem yields_extendedAll {step : Tree → Reader Tree} (hstep : ∀ left, Literate left → Yields (step left) Literate)
    (hleft : Literate left) : Yields (extendedAll step left) Literate := fun _ _ _ hrun =>
  yields_extended hstep _ _ hleft hrun

variable {base : Reader Tree} (hbase : Yields base Literate)

theorem yields_newTarget {primary : Reader Tree} (hprimary : Yields primary Literate) :
    Yields (newTarget self primary) Literate :=
  .skip fun _ => .skip fun _ => .bind hprimary fun _ ht => yields_extendedAll (fun _ hleft =>
    .oneOf (yields_memberAccess hleft) <| .oneOf (yields_indexAccess h hleft) <| .last (yields_nonNull hleft)) ht

theorem yields_newObject {primary : Reader Tree} (hprimary : Yields primary Literate) :
    Yields (newObject self primary) Literate :=
  .other (.skip fun _ => .skip fun _ => .ite (.skip fun _ => .skip fun _ => .pure allLiterate_nil) <|
    .bind (yields_newTarget h hprimary) fun _ ht => .bind (.attempt (yields_typeArguments h)) fun _ hts =>
      .bind (.attempt (yields_arguments h)) fun _ hargs => .pure (by simp_all))

omit h in
theorem yields_importWord : Yields importWord Literate :=
  .other (.skip fun _ => .skip fun _ => .skip fun _ => .ite (.pure allLiterate_nil) .stop)

include hbase

theorem yields_wordPrimary (w : String) : Yields (wordPrimary self base w) Literate := by
  unfold wordPrimary
  split
  · exact .either (yields_functionExpression h) (yields_generatorExpression h)
  · exact .other (.skip fun _ => .bind (.attempt yields_className) fun _ hname => .bind (yields_classRest h hbase)
      fun _ hrest => .pure (by simp_all))
  · exact yields_importWord
  · exact .oneOf (yields_functionExpression h) <| .oneOf (yields_generatorExpression h) <| .last yields_identifier
  · exact .either (.leaf (by decide)) yields_identifier

theorem yields_primaryOf : Yields (primaryOf self base) Literate := .skip fun s => by
  split
  · exact .refuse
  · exact .ite yields_stringLiteral <| .ite (yields_templateLiteral h) <| .ite yields_number <| .ite yields_number <|
      .ite (yields_parenthesized h) <| .ite (yields_arrayLiteral h) <| .ite (yields_objectLiteral h) <| .ite yields_regex <|
      .ite (.other (.skip fun _ => .skip fun _ => .skip fun _ => .ite (.pure allLiterate_nil) .refuse)) <|
      .ite (.other (.bind (.many (yields_decorator h)) fun _ (hds : AllLiterate _) => .skip fun _ =>
        .bind (.attempt yields_className) fun _ hname => .bind (yields_classRest h hbase) fun _ hrest =>
          .pure (by simp_all))) <|
      yields_wordPrimary h hbase _

omit hbase

theorem yields_primary : Yields (primary self) Literate :=
  .either (yields_newObject h (yields_primaryOf h (h _))) (yields_primaryOf h (h _))

theorem yields_postfixed : Yields (postfixed self) Literate :=
  .skip fun _ => .skip fun _ => .bind (yields_primary h) fun _ ht => .bind (yields_extendedAll (fun _ hleft =>
    .oneOf (yields_callStep h hleft) <| .oneOf (yields_memberAccess hleft) <| .oneOf (yields_indexAccess h hleft) <|
    .last (yields_nonNull hleft)) ht) fun _ ht => .skip fun _ =>
      .ite (.since (by simpa using ht) (by decide)) (.pure ht)

theorem yields_typeAssertion : Yields (typeAssertion self) Literate :=
  .other (.skip fun _ => .bind (h _) fun _ ht => .skip fun _ => .bind (h _) fun _ he => .pure (by simp_all))

theorem yields_readOperand : Yields (readOperand self) Literate := .skip fun s => by
  have hunary {α : Type} {p : Reader α} : Yields (node .other do
      discard p
      return [← self .operand]) Literate :=
    Yields.other (.skip fun _ => .bind (h _) fun _ he => .pure (by simpa using he))
  split
  · exact .refuse
  · refine .ite hunary (.ite (yields_typeAssertion h) ?_)
    split
    exacts [hunary, hunary, hunary, hunary, yields_postfixed h]

theorem yields_operatorStep : Yields (operatorStep self) Literate :=
  .oneOf (.skip fun _ => h _) <| .oneOf (.skip fun _ => h _) <|
  .last (.skip fun _ => .ite .stop <| .skip fun _ => .either (.leaf (by decide)) (h _))

theorem yields_operation : Yields (operation self) Literate :=
  .skip fun _ => .skip fun _ => .bind (h _) fun _ ht => .bind (.many (yields_operatorStep h)) fun _ hmore =>
    .ite (.pure ht) (.since (allLiterate_cons.2 ⟨ht, hmore⟩) (by decide))

theorem yields_yielding (annotated : Bool) : Yields (yielding self annotated) Literate :=
  .other (.skip fun _ => .skip fun _ => .skip fun _ => .ite (.pure allLiterate_nil) <|
    .bind (.attempt (h _)) fun _ he => .pure (by simp_all))

theorem yields_alternatives (annotated : Bool) : Yields (alternatives self annotated) AllLiterate :=
  .skip fun _ => .bind (.either (.bind (h _) fun _ he => .skip fun _ => .ite (.pure he) .stop) (h _)) fun _ hyes =>
    .skip fun _ => .bind (h _) fun _ hno => .pure (by simp_all)

theorem yields_destructuring (annotated : Bool) : Yields (destructuring self annotated) Literate :=
  .other (.skip fun _ => .skip fun _ => .ite (.bind (h _) fun _ hp => .skip fun _ => .bind (h _) fun _ he =>
    .pure (by simp_all)) .stop)

theorem yields_operationOrAssignment (annotated : Bool) : Yields (operationOrAssignment self annotated) Literate :=
  .skip fun _ => .skip fun _ => .bind (yields_operation h) fun _ ht => .skip fun _ =>
    .ite (.bind (yields_alternatives h annotated) fun _ hmore => .since (by simp_all) (by decide)) <|
    .ite (.skip fun o => by
      cases o with
      | none => exact .pure ht
      | some _ => exact .bind (h _) fun _ hv => .since (by simp_all) (by decide)) (.pure ht)

theorem yields_readExpression (annotated : Bool) : Yields (readExpression self annotated) Literate :=
  .skip fun _ => .ite (yields_yielding h annotated) <| .oneOf (yields_arrowFunction h annotated) <|
    .oneOf (yields_destructuring h annotated) <| .last (yields_operationOrAssignment h annotated)

/-! ## Statements -/

theorem yields_declarator : Yields (declarator self) Literate :=
  .node (.bind (h _) fun _ hn => .skip fun _ => .bind (yields_statedType h) fun _ ht => .bind (yields_initializer h)
    fun v hv => .pure (by cases v <;> simp_all)) (by decide)

theorem yields_declarators : Yields (declarators self) AllLiterate := .skip fun w => by
  have hlist : Yields (separated (declarator self)) AllLiterate := .separated (yields_declarator h)
  refine .ite (.skip fun s => ?_) hlist
  split
  · exact .stop
  · exact .ite hlist .stop

theorem yields_variableStatement : Yields (variableStatement self) Literate :=
  .node (.bind (yields_declarators h) fun _ hds => .skip fun _ => .pure hds) (by decide)

theorem yields_functionStatement : Yields (functionStatement self) Literate :=
  .other (.skip fun _ => .skip fun _ => .skip fun _ => .bind yields_identifier fun _ hn => .bind (yields_signature h)
    fun _ hs => .bind (Q := AllLiterate) (.either (.bind (yields_block h) fun _ hb => .pure (by simpa using hb))
      (.skip fun _ => .pure allLiterate_nil)) fun _ hb => .pure (by simp_all))

theorem yields_classStatement : Yields (classStatement self) Literate :=
  .node (.bind (.many (yields_decorator h)) fun _ (hds : AllLiterate _) => .skip fun _ => .skip fun _ =>
    .bind yields_className fun _ hn => .bind (yields_classRest h (h _)) fun _ hrest => .pure (by simp_all)) (by decide)

theorem yields_enumStatement : Yields (enumStatement self) Literate :=
  .other (.skip fun _ => .skip fun _ => .skip fun _ => .skip fun _ => .bind (.listed (Q := AllLiterate)
    (.bind (yields_propertyName h) fun _ hn => .bind (yields_initializer h) fun _ he => .pure (by simp_all)))
    fun _ hms => .skip fun _ => .pure (by simpa using hms))

theorem yields_interfaceStatement : Yields (interfaceStatement self) Literate :=
  .other (.skip fun _ => .skip fun _ => .bind (.attempt (yields_typeParameters h)) fun _ hts =>
    .bind (.attempt (Q := AllLiterate) (.skip fun _ => .separated (h _))) fun _ hbases =>
      .bind (yields_objectType h) fun _ hb => .pure (by simp_all))

theorem yields_typeStatement : Yields (typeStatement self) Literate :=
  .other (.skip fun _ => .skip fun _ => .bind (.attempt (yields_typeParameters h)) fun _ hts => .skip fun _ =>
    .bind (h _) fun _ ht => .skip fun _ => .pure (by simp_all))

theorem yields_namespaceStatement : Yields (namespaceStatement self) Literate :=
  .other (.skip fun _ => .skip fun _ => .ite .stop <| .skip fun _ => .skip fun _ =>
    .ite (.bind (yields_block h) fun _ hb => .pure (by simpa using hb)) (.skip fun _ => .pure allLiterate_nil))

omit h in
theorem yields_aliasStatement : Yields aliasStatement Literate :=
  .other (.skip fun _ => .skip fun _ => .skip fun _ => .skip fun _ => .skip fun _ => .skip fun _ => .pure allLiterate_nil)

theorem yields_declaration : Yields (declaration self) Literate := .skip fun w => by
  split
  · exact yields_variableStatement h
  · exact yields_variableStatement h
  · exact .either (yields_enumStatement h) (yields_variableStatement h)
  · exact yields_functionStatement h
  · exact yields_functionStatement h
  · exact yields_classStatement h
  · exact yields_classStatement h
  · exact yields_enumStatement h
  · exact yields_interfaceStatement h
  · exact yields_typeStatement h
  · exact yields_namespaceStatement h
  · exact yields_namespaceStatement h
  · exact yields_aliasStatement
  · exact .other (.skip fun _ => .skip fun _ => .ite
      (.skip fun _ => .bind (yields_block h) fun _ hb => .pure (by simpa using hb))
      (.bind (h _) fun _ hs => .pure (by simpa using hs)))
  · exact .refuse

omit h in
theorem yields_source : Yields source Literate := .bind yields_stringLiteral fun _ ht => .pure (by simpa using ht)

omit h in
theorem yields_importStatement : Yields (importStatement self) Literate :=
  .node (.skip fun _ => .bind (.oneOf yields_source <|
    .oneOf (.skip fun _ => .skip fun _ => .skip fun _ => yields_source) <|
    .last (.skip fun _ => .skip fun _ => yields_source)) fun _ hs => .skip fun _ => .skip fun _ => .pure (by simpa using hs))
    (by decide)

omit h in
theorem yields_exportClause : Yields (exportClause self) AllLiterate :=
  .skip fun _ => .bind (Q := AllLiterate)
    (.either (.skip fun _ => .skip fun _ => .skip fun _ => .bind yields_source fun _ hs => .pure (by simpa using hs))
      (.skip fun _ => .bind (.attempt (.skip fun _ => yields_source)) fun _ hs => .pure (by simp_all)))
    fun _ hcs => .skip fun _ => .skip fun _ => .pure hcs

theorem yields_exportDefault : Yields (exportDefault self) AllLiterate :=
  .skip fun _ => .oneOf (.bind (yields_classStatement h) fun _ ht => .pure (by simpa using ht)) <|
    .oneOf (.bind (yields_functionStatement h) fun _ ht => .pure (by simpa using ht)) <|
    .oneOf (.bind (yields_interfaceStatement h) fun _ ht => .pure (by simpa using ht)) <|
    .last (.bind (yields_expressions h) fun _ he => .skip fun _ => .pure (by simpa using he))

theorem yields_exportStatement : Yields (exportStatement self) Literate :=
  .node (.bind (.many (yields_decorator h)) fun _ (hds : AllLiterate _) => .skip fun _ => .bind (Q := AllLiterate)
    (.oneOf (yields_exportDefault h) <| .oneOf yields_exportClause <|
      .oneOf (.skip fun _ => .bind (yields_expressions h) fun _ he => .skip fun _ => .pure (by simpa using he)) <|
      .oneOf (.skip fun _ => .skip fun _ => .skip fun _ => .skip fun _ => .pure allLiterate_nil) <|
      .last (.skip fun _ => .ite (.bind (yields_classStatement h) fun _ ht => .pure (by simpa using ht))
        (.bind (yields_declaration h) fun _ ht => .pure (by simpa using ht))))
    fun _ hcs => .pure (by simp_all)) (by decide)

theorem yields_expressionStatement : Yields (expressionStatement self) Literate :=
  .other (.bind (yields_expressions h) fun _ he => .skip fun _ => .pure (by simpa using he))

theorem yields_ifStatement : Yields (ifStatement self) Literate :=
  .other (.skip fun _ => .bind (yields_parenthesized h) fun _ hc => .bind (h _) fun _ ht =>
    .bind (.attempt (.skip fun _ => h _)) fun _ he => .pure (by simp_all))

theorem yields_loopItems : Yields (loopItems self) AllLiterate :=
  .bind (.either (.skip fun _ => .bind (h _) fun _ hp => .skip fun _ => .skip fun _ => .ite (.pure hp) .stop)
    (yields_postfixed h)) fun _ hx => .skip fun _ => .bind (yields_expressions h) fun _ he => .pure (by simp_all)

theorem yields_loopSteps : Yields (loopSteps self) AllLiterate :=
  .bind (.oneOf (yields_declarators h) <|
    .oneOf (.bind (yields_expressions h) fun _ he => .pure (by simpa using he)) <| .last (.pure allLiterate_nil))
    fun _ hfirst => .skip fun _ => .bind (.attempt (yields_expressions h)) fun _ htest => .skip fun _ =>
      .bind (.attempt (yields_expressions h)) fun _ hstep => .pure (by simp_all)

theorem yields_forStatement : Yields (forStatement self) Literate :=
  .other (.skip fun _ => .skip fun _ => .skip fun _ => .bind (Q := AllLiterate)
    (.either (.bind (yields_loopItems h) fun _ hitems => .skip fun _ => .pure hitems)
      (.bind (yields_loopSteps h) fun _ hsteps => .skip fun _ => .pure hsteps))
    fun _ hhead => .bind (h _) fun _ hs => .pure (by simp_all))

theorem yields_whileStatement : Yields (whileStatement self) Literate :=
  .other (.skip fun _ => .bind (yields_parenthesized h) fun _ hc => .bind (h _) fun _ hs => .pure (by simp_all))

theorem yields_doStatement : Yields (doStatement self) Literate :=
  .other (.skip fun _ => .bind (h _) fun _ hs => .skip fun _ => .bind (yields_parenthesized h) fun _ hc => .skip fun _ =>
    .pure (by simp_all))

theorem yields_tryStatement : Yields (tryStatement self) Literate :=
  .other (.skip fun _ => .bind (yields_block h) fun _ hb => .bind (.attempt (Q := AllLiterate) (.skip fun _ => .bind
    (.attempt (Q := AllLiterate) (.skip fun _ => .bind (h _) fun _ hp => .bind (yields_statedType h) fun _ ht =>
      .skip fun _ => .pure (by simp_all))) fun _ hp => .bind (yields_block h) fun _ hc => .pure (by simp_all)))
    fun _ hc => .bind (.attempt (.skip fun _ => yields_block h)) fun _ hf => .pure (by simp_all))

theorem yields_switchCase : Yields (switchCase self) AllLiterate :=
  .bind (Q := AllLiterate) (.either (.skip fun _ => .bind (yields_expressions h) fun _ he => .pure (by simpa using he))
    (.skip fun _ => .pure allLiterate_nil)) fun _ hc => .skip fun _ => .bind (.many (h _)) fun _ (hss : AllLiterate _) =>
      .pure (by simp_all)

theorem yields_switchStatement : Yields (switchStatement self) Literate :=
  .other (.skip fun _ => .bind (yields_parenthesized h) fun _ hc => .skip fun _ => .bind (.many (yields_switchCase h))
    fun _ hcases => .skip fun _ => .pure (by simp_all))

theorem yields_leaving : Yields (leaving self) Literate :=
  .other (.skip fun _ => .ite (.bind (yields_expressions h) fun _ he => .skip fun _ => .pure (by simpa using he)) <|
    .skip fun _ => .ite (.skip fun _ => .pure allLiterate_nil) <|
      .branch (yields_expressions h) yields_identifier fun _ he => .skip fun _ => .pure (by simpa using he))

theorem yields_labelled : Yields (labelled self) Literate :=
  .other (.skip fun _ => .skip fun _ => .bind (h _) fun _ hs => .pure (by simpa using hs))

theorem yields_wordStatement (w : String) : Yields (wordStatement self w) Literate := by
  have hother : Yields (either (labelled self) (expressionStatement self)) Literate :=
    .either (yields_labelled h) (yields_expressionStatement h)
  have hdeclared : Yields (either (declaration self) (either (labelled self) (expressionStatement self))) Literate :=
    .either (yields_declaration h) hother
  unfold wordStatement
  split
  exacts [yields_declaration h, yields_declaration h,
    .either (yields_variableStatement h) (yields_expressionStatement h), yields_functionStatement h,
    yields_classStatement h, yields_enumStatement h,
    .oneOf yields_importStatement <| .oneOf yields_aliasStatement <| .last (yields_expressionStatement h),
    yields_exportStatement h, yields_ifStatement h, yields_forStatement h, yields_whileStatement h, yields_doStatement h,
    yields_tryStatement h, yields_switchStatement h, yields_leaving h, yields_leaving h, yields_leaving h,
    yields_leaving h, .other (.skip fun _ => .skip fun _ => .pure allLiterate_nil),
    .other (.skip fun _ => .bind (yields_parenthesized h) fun _ hc => .bind (h _) fun _ hs => .pure (by simp_all)),
    .either (yields_functionStatement h) hother, .either (yields_classStatement h) hother,
    hdeclared, hdeclared, hdeclared, hdeclared, .skip fun _ => .ite (yields_declaration h) hother, hother]

theorem yields_readStatement : Yields (readStatement self) Literate := .skip fun s => by
  split
  · exact .refuse
  · exact .ite (yields_block h) <| .ite (.leaf (by decide)) <| .ite (.oneOf (yields_exportStatement h) <|
      .oneOf (yields_classStatement h) <| .last (yields_expressionStatement h)) <| yields_wordStatement h _

/-! ## Scripts -/

omit h

/-- **Every phrase gives such trees**, whatever the number of levels. -/
theorem yields_nested : ∀ (n : Nat) (phrase : Phrase), Yields (nested n phrase) Literate
  | 0, _ => fun _ _ _ hrun => by cases hrun
  | n + 1, phrase => by
    have h := yields_nested n
    cases phrase with
    | expression annotated => exact yields_readExpression h annotated
    | operand => exact yields_readOperand h
    | type => exact yields_readType h
    | statement => exact yields_readStatement h
    | pattern => exact yields_readPattern h

/-- **The tree of a script holds only literals** among the nodes that have a value. -/
theorem literate_of_parse? {s : Text} {t : Tree} (h : parse? s = some t) : Literate t := by
  have hstatements : Yields (statements (nested (levelsFor s))) Literate :=
    .other (.bind (.many (yields_nested _ _)) fun _ hss => .skip fun _ => .skip fun c => by
      split
      · exact .pure hss
      · exact .refuse)
  unfold parse? at h
  dsimp only at h
  split at h
  · rename_i hrun
    obtain rfl := Option.some.inj h
    exact hstatements hrun
  · cases h

end Script
end ViewAtlas
