import ViewAtlas.Project.Configuration
import ViewAtlas.Proofs.File.Alike
import ViewAtlas.Proofs.Json.Printing
import ViewAtlas.Proofs.Json.Relaxing
/-!
# Loading configurations

The file of a configuration is loaded as the record that its text was written of, however that text is decorated
(`load_written`); so what is printed of a plain record is loaded back as it (`load_print`).
-/
namespace ViewAtlas
namespace Project

open File (Disk Place)
open Json (Value Written)

variable {d : Disk} {path : Text} {p : Place}

theorem read_encode {s : Text} (hplace : d.locate path = .ok p) (hfile : p.entry = .file (Text.Utf8.encode s)) :
    d.read path = .ok (Text.unifyLineEnds s) := by
  simp only [Disk.read, hplace, hfile, Text.Utf8.decode_encode]

/-- **A file is loaded as the record that it was written of**, wherever there are white space and comments between its
tokens and commas before its ends; the file of another value is loaded as an empty record. -/
theorem load_written {document : Text} {v : Value} (hplace : d.locate path = .ok p)
    (hfile : p.entry = .file (Text.Utf8.encode document)) (h : Written v document) :
    load d path = .ok (match v with
      | .record fields => .record fields
      | _ => .record []) := by
  simp only [load, read_encode hplace hfile, h.readRelaxed]
  cases v <;> rfl

def weave (pieces : List (Text × Text)) (s : Text) : Text := pieces.foldr (fun p s => p.1 ++ (p.2 ++ s)) s

theorem woven_weave {gap last : Text → Prop} {s : Text} (hs : last s) : ∀ {pieces : List (Text × Text)},
    (∀ p ∈ pieces, gap p.1) → Json.Woven gap last (pieces.map (·.2)) (weave pieces s)
  | [], _ => .done hs
  | p :: _, h => .more (h p (List.mem_cons_self ..)) (woven_weave hs fun q hq => h q (List.mem_cons_of_mem p hq))

/-- A document with a quote in a comment, comments in texts, and commas and a comment before ends. -/
def decorated : Text :=
  ("\x7b // it's \"so\r\n\"a\\\\\\\"//\":[\"/*,]*/\", /* ] */ ],\t\"\\u00E9\\ud83d\\ude00\" :\x7b\"x\":-12, \"x\":null,\x7d,\x7d" ++
    "//\"").toList

def decoratedFields : List (Text × Value) :=
  [("a\\\"//".toList, .list [.text "/*,]*/".toList]), ("é😀".toList, .record [("x".toList, .null)])]

def decoratedPieces : List (Text × Text) :=
  [("", "\x7b"), (" // it's \"so\r\n", "\"a\\\\\\\"//\""), ("", ":"), ("", "["), ("", "\"/*,]*/\""), ("", ","),
    (" /* ] */ ", "]"), ("", ","), ("\t", "\"\\u00E9\\ud83d\\ude00\""), (" ", ":"), ("", "\x7b"), ("", "\"x\""), ("", ":"),
    ("", "-12"), ("", ","), (" ", "\"x\""), ("", ":"), ("", "null"), ("", ","), ("", "\x7d"), ("", ","),
    ("", "\x7d")].map fun p => (p.1.toList, p.2.toList)

theorem decorated_woven : Json.Woven Json.Gap Json.LastGap (decoratedPieces.map (·.2)) decorated := by
  have hgaps : ∀ p ∈ decoratedPieces,
      p.1.all Json.isGap = true ∨ p.1 = " // it's \"so\r\n".toList ∨ p.1 = " /* ] */ ".toList := by
    unfold decoratedPieces
    simp only [List.map_cons, List.map_nil]
    -- evaluation is slow in taking the characters of a literal, so they are taken first
    repeat rw [String.toList_ofList]
    decide +kernel
  have hline : Json.Gap " // it's \"so\r\n".toList :=
    .blank rfl (.line (t := " it's \"so".toList) (Text.forall_mem_of_all (by decide)) (.inr rfl) (.blank rfl .nil))
  have hblock : Json.Gap " /* ] */ ".toList := .blank rfl (.block (t := " ] ".toList) (by decide) (.blank rfl .nil))
  have hlast : Json.LastGap "//\"".toList := .line .nil (Text.forall_mem_of_all (by decide))
  have hdocument : decorated = weave decoratedPieces "//\"".toList := by
    unfold decorated decoratedPieces
    simp only [List.map_cons, List.map_nil, String.toList_append]
    repeat rw [String.toList_ofList]
    decide +kernel
  rw [hdocument]
  refine woven_weave hlast fun p hp => ?_
  rcases hgaps p hp with h | h | h
  · exact Json.Blank.gap (List.all_eq_true.1 h)
  · rw [h]
    exact hline
  · rw [h]
    exact hblock

theorem decorated_written : Written (.record decoratedFields) decorated := by
  have hname : Json.Spelled (.text "é😀".toList) "\"\\u00E9\\ud83d\\ude00\"".toList := by
    have hfirst : Json.WritesUnit 0xE9 "00E9".toList := ⟨rfl, Text.forall_mem_of_all (by decide), by decide⟩
    have hhigh : Json.WritesUnit 0xD83D "d83d".toList := ⟨rfl, Text.forall_mem_of_all (by decide), by decide⟩
    have hlow : Json.WritesUnit 0xDE00 "de00".toList := ⟨rfl, Text.forall_mem_of_all (by decide), by decide⟩
    exact .text (.cons (.unit hfirst (by decide)) (.cons (.pair hhigh hlow (by decide) (by decide)) .nil))
  have hitems : Json.Phrase true (.list [.text "/*,]*/".toList]) _ := .list (.lastComma rfl (.text _))
  have hinner : Json.Phrase true (.record [("x".toList, .null)]) _ :=
    @Json.Phrase.record true [("x".toList, .int (-12)), ("x".toList, .null)] _ (.more (.int _) (.lastComma rfl .null))
  have hphrase : Json.Phrase true (.record decoratedFields) _ :=
    @Json.Phrase.record true decoratedFields _ (.more hitems (.lastComma rfl hinner))
  refine ⟨_, _, hphrase, ?_, decorated_woven⟩
  refine .cons .openRecord (.cons (Json.spelled_printText _) (.cons .colon (.cons .openList ?_)))
  refine .cons (Json.spelled_printText _) (.cons .comma (.cons .closeList (.cons .comma ?_)))
  refine .cons hname (.cons .colon (.cons .openRecord ?_))
  refine .cons (Json.spelled_printText _) (.cons .colon (.cons (Json.spelled_ofInt (by decide)) (.cons .comma ?_)))
  refine .cons (Json.spelled_printText _) (.cons .colon (.cons .null (.cons .comma ?_)))
  exact .cons .closeRecord (.cons .comma (.cons .closeRecord .nil))

theorem load_written_decorated :
    let d : Disk := ⟨[("t.json".toList, .file (Text.Utf8.encode decorated))], []⟩
    Written (.record decoratedFields) decorated ∧ load d "/t.json".toList = .ok (.record decoratedFields) := by
  intro d
  have hplace : d.locate "/t.json".toList =
      .ok ⟨["t.json".toList], .file (Text.Utf8.encode decorated), [.folder d.entries]⟩ := rfl
  exact ⟨decorated_written, load_written hplace rfl decorated_written⟩

theorem load_print {fields : List (Text × Value)} {l : Json.Layout} (hplace : d.locate path = .ok p)
    (hplain : Json.Plain (.record fields))
    (hfile : p.entry = .file (Text.Utf8.encode (Json.print l (.record fields)))) :
    load d path = .ok (.record fields) := by
  simp only [load, read_encode hplace hfile, (hplain.writtenStrictly l).written.readRelaxed]

/-! ## Configurations that say one thing -/

def textOf? : Value → Option Text
  | .text t => some t
  | _ => none

theorem eq_map_of_mapM : ∀ {items : List Value} {texts : List Text}, items.mapM textOf? = some texts →
    items = texts.map .text
  | [], texts, h => by
    cases h
    rfl
  | v :: items, texts, h => by
    rw [List.mapM_cons] at h
    obtain ⟨t, ht, h⟩ := Option.bind_eq_some_iff.1 h
    obtain ⟨rest, hrest, h⟩ := Option.bind_eq_some_iff.1 h
    cases h
    rw [eq_map_of_mapM hrest]
    cases v <;> cases ht
    rfl

/-- The one setting of octets that are a configuration: its name, and the texts that it lists. -/
def onlySetting? (octets : List UInt8) : Option (Text × List Text) :=
  match File.textOf octets with
  | .error _ => none
  | .ok s =>
    match Json.readRelaxed s with
    | .ok (.record [(name, .list items)]) => (items.mapM textOf?).map fun texts => (name, texts)
    | _ => none

theorem readRelaxed_of_onlySetting {octets : List UInt8} {name : Text} {texts : List Text}
    (h : onlySetting? octets = some (name, texts)) :
    ∃ s, File.textOf octets = .ok s ∧ Json.readRelaxed s = .ok (.record [(name, .list (texts.map .text))]) := by
  unfold onlySetting? at h
  split at h
  · cases h
  · rename_i s hs
    split at h
    · rename_i items hrecord
      obtain ⟨texts', htexts, h⟩ := Option.map_eq_some_iff.1 h
      cases h
      exact ⟨s, hs, by rw [hrecord, eq_map_of_mapM htexts]⟩
    · cases h

theorem load_onlySetting {octets : List UInt8} {name : Text} {texts : List Text} (hplace : d.locate path = .ok p)
    (hfile : p.entry = .file octets) (h : onlySetting? octets = some (name, texts)) :
    load d path = .ok (.record [(name, .list (texts.map .text))]) := by
  obtain ⟨s, hs, hrecord⟩ := readRelaxed_of_onlySetting h
  have hread : d.read path = .ok s := by
    rw [← hs]
    simp only [Disk.read, hplace, hfile]
    rfl
  simp only [load, hread, hrecord]

end Project
end ViewAtlas
