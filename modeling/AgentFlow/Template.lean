import AgentFlow.Json.Printer
import AgentFlow.Variables

/-!
# Templates

A template is text with placeholders in double braces. A placeholder holds a key, perhaps with
blanks around it, and no braces. It is replaced by the text of the value that its key, a dotted
path, leads to. Where there is no value, or `null`, the placeholder stays as it stands.

Placeholders are taken from left to right, and text that was put in is not looked at again.
-/

namespace AgentFlow

/-- The text that a value is shown as: a string as it is, nothing for `null`, JSON for the rest. -/
def Json.shownText : Json → String
  | .string s => s
  | .null => ""
  | value => value.render

namespace Template

/-- May a character stand in a key? -/
def isKeyChar (c : Char) : Bool :=
  c ≠ '\x7b' && c ≠ '\x7d'

/-- The placeholder in front of a text, from behind its opening braces: what stands between the
braces, and the text behind them. -/
def body? (rest : List Char) : Option (List Char × List Char) :=
  match rest.takeWhile isKeyChar, rest.dropWhile isKeyChar with
  | c :: body, '\x7d' :: '\x7d' :: behind => some (c :: body, behind)
  | _, _ => none

/-- The key of a placeholder: its body without the blanks around it; of nothing but blanks the last
one. -/
def key (body : List Char) : List Char :=
  match Text.trim body with
  | [] => body.drop (body.length - 1)
  | trimmed => trimmed

/-- The text that replaces a placeholder, if it is replaced. -/
def replacement? (vars : Variables) (body : List Char) : Option String :=
  match vars.path? (String.ofList (key body)) with
  | none => none
  | some .null => none
  | some value => some value.shownText

theorem length_of_body? {rest body behind : List Char} (h : body? rest = some (body, behind)) :
    behind.length < rest.length := by
  unfold body? at h
  split at h
  · rename_i _ _ _ _ hdrop
    obtain ⟨-, rfl⟩ := Prod.mk.inj (Option.some.inj h)
    have hle := (List.dropWhile_sublist (l := rest) isKeyChar).length_le
    simp only [hdrop, List.length_cons] at hle
    omega
  · cases h

/-- Replaces the placeholders of a text. -/
def expand (vars : Variables) : List Char → List Char
  | [] => []
  | '\x7b' :: '\x7b' :: rest =>
    match h : body? rest with
    | none => '\x7b' :: expand vars ('\x7b' :: rest)
    | some (body, behind) =>
      have := length_of_body? h
      match replacement? vars body with
      | some text => text.toList ++ expand vars behind
      | none => '\x7b' :: '\x7b' :: body ++ '\x7d' :: '\x7d' :: expand vars behind
  | c :: rest => c :: expand vars rest
termination_by cs => cs.length
decreasing_by all_goals simp only [List.length_cons]; omega

/-- Replaces the placeholders of a template. -/
def interpolate (template : String) (vars : Variables) : String :=
  String.ofList (expand vars template.toList)

end Template

end AgentFlow
