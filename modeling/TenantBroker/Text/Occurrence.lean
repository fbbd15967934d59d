import TenantBroker.Text.Case

/-!
# Occurrence of patterns

A text is searched for patterns of small ASCII letters without regard to the case of ASCII letters.
-/

namespace TenantBroker.Text

/-- Whether a pattern occurs in a text. -/
def occursIn (pattern : List Char) : List Char → Bool
  | [] => pattern.isEmpty
  | c :: rest => pattern.isPrefixOf (c :: rest) || occursIn pattern rest

/-- Whether one of some patterns occurs in a text. -/
def mentions (s : String) (patterns : List String) : Bool :=
  let folded := s.toList.map foldAsciiChar
  patterns.any fun pattern ↦ occursIn pattern.toList folded

/-- A pattern occurs in a text exactly if the text has it between two other parts. -/
theorem occursIn_iff {pattern cs : List Char} :
    occursIn pattern cs = true ↔ pattern <:+: cs := by
  induction cs with
  | nil => simp [occursIn]
  | cons c rest ih =>
    simp only [occursIn, Bool.or_eq_true, List.isPrefixOf_iff_prefix, ih, List.infix_cons_iff]

end TenantBroker.Text
