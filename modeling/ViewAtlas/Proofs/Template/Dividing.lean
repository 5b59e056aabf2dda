import ViewAtlas.Proofs.Template.Brackets
import ViewAtlas.Proofs.Text.Occurrence
/-!
# Markup and text

A text is divided from left to right into markup and what stands between it (`Divides`): comments, tags, the content of
scripts and styles, and plain characters.  This is said without a look at how brackets are masked.  Every text is
divided (`exists_divides`).
-/
namespace ViewAtlas
namespace Template

open Text (FirstBehind exists_first)

/-- **A piece of a text**: a character outside markup, a tag or comment, or the content of a script or style. -/
inductive Piece where
  | plain (c : Char)
  | markup (s : Text)
  | content (s : Text)
  deriving DecidableEq

namespace Piece

def text : Piece → Text
  | plain c => [c]
  | markup s | content s => s

/-- What masking leaves of it: a bracket outside markup is made a space. -/
def masked : Piece → Text
  | plain c => [if c = '<' ∨ c = '>' then ' ' else c]
  | markup s | content s => s

end Piece

/-- Whether the text behind a `<` makes it the beginning of markup. -/
def opensMarkup (s : Text) : Bool := s.head?.any fun c => Text.isLetter c || c = '/' || c = '!'

/-- **The inside of a tag**, up to a `>` outside of quotes. -/
inductive TagBody : Text → Prop where
  | done : TagBody []
  | plain {c : Char} {s : Text} (hq : ¬ (c = '\'' ∨ c = '"')) (hc : c ≠ '>') (hs : TagBody s) : TagBody (c :: s)
  | quoted {q : Char} {v s : Text} (hq : q = '\'' ∨ q = '"') (hv : q ∉ v) (hs : TagBody s) :
      TagBody (q :: (v ++ q :: s))

/-- **The inside of a tag that does not end**: its last quote may be open. -/
inductive OpenTagBody : Text → Prop where
  | closed {s : Text} (hs : TagBody s) : OpenTagBody s
  | quoted {s v : Text} {q : Char} (hs : TagBody s) (hq : q = '\'' ∨ q = '"') (hv : q ∉ v) : OpenTagBody (s ++ q :: v)

def isNamePart (c : Char) : Bool := c = ':' || c = '-' || Text.isWordChar c

/-- **The inside of a tag of this name**, which is in lower case. -/
def Names (name body : Text) : Prop := (body.takeWhile isNamePart).map Char.toLower = name

/-- **A text and its pieces**, read from left to right.  A comment reaches to the first `-->` behind its opening, a tag
to the first `>` outside of quotes, and the content of a script or a style to the next end tag of its name, in any case;
where there is none, they reach to the end. -/
inductive Divides : Text → List Piece → Prop where
  | done : Divides [] []
  | plain {c : Char} {s : Text} {ps : List Piece} (hc : c = '<' → opensMarkup s = false) (hs : Divides s ps) :
      Divides (c :: s) (.plain c :: ps)
  | comment {body s : Text} {ps : List Piece} (hbody : FirstBehind "-->".toList body) (hs : Divides s ps) :
      Divides ("<!--".toList ++ (body ++ ("-->".toList ++ s)))
        (.markup ("<!--".toList ++ (body ++ "-->".toList)) :: ps)
  | openComment {body : Text} (hbody : ¬ "-->".toList <:+: body) :
      Divides ("<!--".toList ++ body) [.markup ("<!--".toList ++ body)]
  | tag {body s : Text} {ps : List Piece} (hopens : opensMarkup body = true) (hcomment : ¬ "!--".toList <+: body)
      (hraw : ∀ name ∈ rawTextNames, ¬ Names name body) (hbody : TagBody body) (hs : Divides s ps) :
      Divides ('<' :: (body ++ '>' :: s)) (.markup ('<' :: (body ++ ['>'])) :: ps)
  | openTag {body : Text} (hopens : opensMarkup body = true) (hcomment : ¬ "!--".toList <+: body)
      (hbody : OpenTagBody body) : Divides ('<' :: body) [.markup ('<' :: body)]
  | rawText {body name content mark s : Text} {ps : List Piece} (hraw : name ∈ rawTextNames) (hname : Names name body)
      (hbody : TagBody body) (hcontent : FirstBehind ('<' :: '/' :: name) (content.map Char.toLower))
      (hmark : mark.map Char.toLower = '<' :: '/' :: name) (hs : Divides (mark ++ s) ps) :
      Divides ('<' :: (body ++ '>' :: (content ++ (mark ++ s))))
        (.markup ('<' :: (body ++ ['>'])) :: .content content :: ps)
  | openRawText {body name content : Text} (hraw : name ∈ rawTextNames) (hname : Names name body) (hbody : TagBody body)
      (hcontent : ¬ ('<' :: '/' :: name) <:+: content.map Char.toLower) :
      Divides ('<' :: (body ++ '>' :: content)) [.markup ('<' :: (body ++ ['>'])), .content content]

theorem Divides.text {s : Text} {ps : List Piece} (h : Divides s ps) : ps.flatMap Piece.text = s := by
  induction h with
  | done => rfl
  | plain _ _ ih => rw [List.flatMap_cons, ih]; rfl
  | comment _ _ ih => simp [ih, Piece.text]
  | openComment _ => simp [Piece.text]
  | tag _ _ _ _ _ ih => simp [ih, Piece.text]
  | openTag _ _ _ => simp [Piece.text]
  | rawText _ _ _ _ _ _ ih => simp [ih, Piece.text]
  | openRawText _ _ _ _ => simp [Piece.text]

/-! ## Every text is divided -/

variable {s x : Text}

theorem tagBody_of_forall : ∀ {s : Text}, (∀ c ∈ s, ¬ (c = '\'' ∨ c = '"') ∧ c ≠ '>') → TagBody s
  | [], _ => .done
  | c :: _, h =>
    have hc := h c (List.mem_cons_self ..)
    .plain hc.1 hc.2 (tagBody_of_forall fun d hd => h d (List.mem_cons_of_mem _ hd))

theorem tagBody_or : ∀ s : Text, (∃ body rest, s = body ++ '>' :: rest ∧ TagBody body) ∨ OpenTagBody s
  | [] => .inr (.closed .done)
  | c :: s => by
    by_cases hmore : c = '>'
    · exact .inl ⟨[], s, by rw [hmore]; rfl, .done⟩
    by_cases hq : c = '\'' ∨ c = '"'
    · by_cases hmem : c ∈ s
      · obtain ⟨v, t, rfl, hv⟩ := List.eq_append_cons_of_mem hmem
        rcases tagBody_or t with ⟨body, rest, rfl, hbody⟩ | hopen
        · exact .inl ⟨_, rest, by simp, .quoted hq hv hbody⟩
        · refine .inr ?_
          cases hopen with
          | closed ht => exact .closed (.quoted hq hv ht)
          | @quoted b w q hb hq' hw =>
            have h := OpenTagBody.quoted (.quoted hq hv hb) hq' hw
            rwa [List.cons_append, List.append_assoc, List.cons_append] at h
      · exact .inr (@OpenTagBody.quoted [] s c .done hq hmem)
    · rcases tagBody_or s with ⟨body, rest, rfl, hbody⟩ | hopen
      · exact .inl ⟨c :: body, rest, rfl, .plain hq hmore hbody⟩
      · refine .inr ?_
        cases hopen with
        | closed hs => exact .closed (.plain hq hmore hs)
        | quoted hb hq' hw => exact .quoted (.plain hq hmore hb) hq' hw
termination_by s => s.length
decreasing_by
  all_goals
    subst_vars
    simp only [List.length_cons, List.length_append]
    omega

theorem opensMarkup_body {body : Text} (h : opensMarkup (body ++ '>' :: x) = true) : opensMarkup body = true := by
  cases body with
  | nil => cases (show false = true from h)
  | cons c body => exact h

theorem exists_divides : ∀ s : Text, ∃ ps, Divides s ps
  | [] => ⟨[], .done⟩
  | c :: s => by
    by_cases hopens : c = '<' ∧ opensMarkup s = true
    case neg =>
      obtain ⟨ps, hps⟩ := exists_divides s
      exact ⟨_, .plain (fun hc => Bool.eq_false_iff.2 fun h => hopens ⟨hc, h⟩) hps⟩
    obtain ⟨rfl, hopens⟩ := hopens
    by_cases hcomment : "!--".toList <+: s
    · obtain ⟨r, rfl⟩ := hcomment
      by_cases hend : "-->".toList <:+: r
      · obtain ⟨body, t, rfl, hbody⟩ := exists_first (by decide) hend
        obtain ⟨ps, hps⟩ := exists_divides t
        exact ⟨_, .comment hbody hps⟩
      · exact ⟨_, .openComment hend⟩
    rcases tagBody_or s with ⟨body, rest, rfl, hbody⟩ | hopen
    case inr => exact ⟨_, .openTag hopens hcomment hopen⟩
    by_cases hraw : ∃ name ∈ rawTextNames, Names name body
    · obtain ⟨name, hraw, hname⟩ := hraw
      by_cases hend : ('<' :: '/' :: name) <:+: rest.map Char.toLower
      · obtain ⟨a, b, hab, ha⟩ := exists_first (List.cons_ne_nil _ _) hend
        obtain ⟨content, t, rfl, rfl, ht⟩ := List.map_eq_append_iff.1 hab
        obtain ⟨mark, u, rfl, hmark, -⟩ := List.map_eq_append_iff.1 ht
        obtain ⟨ps, hps⟩ := exists_divides (mark ++ u)
        exact ⟨_, .rawText hraw hname hbody ha hmark hps⟩
      · exact ⟨_, .openRawText hraw hname hbody hend⟩
    · obtain ⟨ps, hps⟩ := exists_divides rest
      exact ⟨_, .tag (opensMarkup_body hopens) (fun h => hcomment (h.trans (List.prefix_append _ _)))
        (fun name hname h => hraw ⟨name, hname, h⟩) hbody hps⟩
termination_by s => s.length
decreasing_by
  all_goals
    subst_vars
    simp only [List.length_cons, List.length_append]
    omega

end Template
end ViewAtlas
