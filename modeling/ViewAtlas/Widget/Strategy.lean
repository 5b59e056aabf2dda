import ViewAtlas.Text.Case
/-!
# Categories of interactive elements

Each tag name belongs to a category, and each category has a strategy for identifiers: which static attributes to look
at, in which order, and what to try after them.
-/
namespace ViewAtlas
namespace Widget

inductive Category where
  | button
  | link
  | input
  | form
  | select
  | textarea
  | other
  deriving DecidableEq, Repr

/-- **What to try after the attributes.** -/
inductive Fallback where
  | text
  | binding
  | none
  deriving DecidableEq, Repr

structure Strategy where
  category : Category
  attributes : List Text
  fallback : Fallback
  deriving DecidableEq, Repr

def Category.label : Category → Text
  | .button => "Button".toList
  | .link => "Link".toList
  | .input => "Input".toList
  | .form => "Form".toList
  | .select => "Select".toList
  | .textarea => "Textarea".toList
  | .other => "Other".toList

def Fallback.label : Fallback → Text
  | .text => "text".toList
  | .binding => "binding".toList
  | .none => "none".toList

def Category.strategy : Category → Strategy
  | .button => ⟨.button, ["name", "value", "formControlName"].map String.toList, .text⟩
  | .link => ⟨.link, ["routerLink", "href", "name", "formControlName", "value"].map String.toList, .text⟩
  | .input => ⟨.input, ["name", "formControlName", "value", "placeholder"].map String.toList, .text⟩
  | .form => ⟨.form, ["name"].map String.toList, .binding⟩
  | .select => ⟨.select, ["name", "formControlName"].map String.toList, .none⟩
  | .textarea => ⟨.textarea, ["name", "formControlName"].map String.toList, .none⟩
  | .other => ⟨.other, [], .text⟩

/-- The category of a tag, whatever the case of its letters. -/
def Category.ofTag (tag : Text) : Category :=
  match String.ofList (Text.lower tag) with
  | "button" => .button
  | "a" => .link
  | "input" | "mat-checkbox" | "mat-radio-group" | "mat-radio-button" | "mat-button-toggle-group"
  | "mat-button-toggle" => .input
  | "form" => .form
  | "select" | "mat-select" => .select
  | "textarea" => .textarea
  | _ => .other

def Strategy.ofTag (tag : Text) : Strategy := (Category.ofTag tag).strategy

def defaultTags : List Text :=
  ["a", "button", "form", "input", "mat-button-toggle", "mat-button-toggle-group", "mat-checkbox", "mat-radio-button",
    "mat-radio-group", "mat-select", "select", "textarea"].map String.toList

end Widget
end ViewAtlas
