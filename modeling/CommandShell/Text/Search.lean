/-!
# Stems and parts of text

A stem is what a text starts with; a part stands anywhere in it.  Both compare
scalar values only.
-/

namespace CommandShell.Text

/-- Holds when `part` stands somewhere in the list. -/
def occursIn (part : List Char) : List Char → Bool
  | [] => part.isPrefixOf []
  | c :: rest => part.isPrefixOf (c :: rest) || occursIn part rest

theorem occursIn_eq_true_iff (part whole : List Char) :
    occursIn part whole = true ↔ part <:+: whole := by
  induction whole with
  | nil => simp [occursIn, List.isPrefixOf_iff_prefix]
  | cons c rest ih =>
      simp [occursIn, List.isPrefixOf_iff_prefix, ih, List.infix_cons_iff]

/-- Holds when `text` starts with `stem`. -/
def hasStem (stem text : String) : Bool :=
  stem.toList.isPrefixOf text.toList

theorem hasStem_eq_true_iff (stem text : String) :
    hasStem stem text = true ↔ stem.toList <+: text.toList := by
  simp [hasStem, List.isPrefixOf_iff_prefix]

/-- Holds when `part` stands somewhere in `text`. -/
def contains (text part : String) : Bool :=
  occursIn part.toList text.toList

theorem contains_eq_true_iff (text part : String) :
    contains text part = true ↔ part.toList <:+: text.toList :=
  occursIn_eq_true_iff part.toList text.toList

end CommandShell.Text
