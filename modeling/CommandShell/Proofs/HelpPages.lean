import CommandShell.Command.Help
import Mathlib.Data.List.Forall2

/-!
# What the page about a command tells

The page starts with the name of the command, its description and its usage;
another text stands for what lacks.  The help text, the flags and the bounds on
the arguments follow as far as there are any.  It does not matter for the page
whether the command is hidden.
-/

namespace CommandShell

/-- The schema as one that is not hidden. -/
def Schema.unhidden (schema : Schema) : Schema :=
  { schema with hidden := false }

namespace Help

/-! ## Parts of a page -/

/-- The one of two texts that a condition decides for. -/
inductive Chooses (condition : Prop) (text other : String) : String → Prop where
  | holds (met : condition) : Chooses condition text other text
  | fails (unmet : ¬ condition) : Chooses condition text other other

/-- The alias of a flag as it is written before the name. -/
inductive WritesAlias : Option Char → String → Prop where
  | none : WritesAlias none ""
  | some (c : Char) : WritesAlias (some c) ("-" ++ toString c ++ ", ")

/-- The type of the value as it is written behind the name of a flag. -/
inductive WritesType : ValueType → String → Prop where
  | text : WritesType .text " <string>"
  | integer : WritesType .integer " <int>"
  | real : WritesType .real " <float>"
  | switch : WritesType .switch ""

inductive DescribesFlag (flag : Flag) : String → Prop where
  | intro {short operand need description : String} (shortened : WritesAlias flag.short short)
      (typed : WritesType flag.type operand)
      (required : Chooses (flag.required = true) " (required)" "" need)
      (explained : Chooses (flag.description = "") ""
        ("      " ++ flag.description ++ "\n") description) :
      DescribesFlag flag
        ("  " ++ short ++ "--" ++ flag.name ++ operand ++ need ++ "\n" ++ description)

/-- The flags in the order of their declaration. -/
inductive DescribesFlags : List Flag → String → Prop where
  | none : DescribesFlags [] ""
  | some {flags : List Flag} {texts : List String} (nonempty : flags ≠ [])
      (each : List.Forall₂ DescribesFlag flags texts) :
      DescribesFlags flags ("Options:\n" ++ String.join texts ++ "\n")

inductive DescribesBounds (arity : Arity) : String → Prop where
  | none (least : arity.min = 0) (most : arity.max = 0) : DescribesBounds arity ""
  | some {most : String} (bounded : arity.min ≠ 0 ∨ arity.max ≠ 0)
      (greatest : Chooses (arity.max = 0) "unlimited" (toString arity.max) most) :
      DescribesBounds arity
        ("Arguments:\n  Minimum: " ++ toString arity.min ++ "\n  Maximum: " ++ most ++ "\n")

/-- Holds of the page about a command. -/
inductive Describes (schema : Schema) : String → Prop where
  | intro {description usage more flags bounds : String}
      (described : Chooses (schema.description = "") "No description" schema.description
        description)
      (used : Chooses (schema.usage = "") schema.name schema.usage usage)
      (explained : Chooses (schema.helpText = "") "" (schema.helpText ++ "\n\n") more)
      (options : DescribesFlags schema.flags flags)
      (limits : DescribesBounds schema.arity bounds) :
      Describes schema ("\n=== " ++ schema.name ++ " ===\n\n" ++
        "Description: " ++ description ++ "\n\n" ++ "Usage: " ++ usage ++ "\n\n" ++
        more ++ flags ++ bounds)

/-! ## The page has its parts -/

theorem chooses_ite (condition : Prop) [Decidable condition] (text other : String) :
    Chooses condition text other (if condition then text else other) := by
  split
  · exact .holds ‹_›
  · exact .fails ‹_›

theorem chooses_isEmpty (tested text other : String) :
    Chooses (tested = "") text other (if tested.isEmpty then text else other) := by
  rw [← String.isEmpty_iff]
  exact chooses_ite _ text other

theorem flagUsage_parts (flag : Flag) :
    ∃ short operand need, WritesAlias flag.short short ∧ WritesType flag.type operand ∧
      Chooses (flag.required = true) " (required)" "" need ∧
        flagUsage flag = short ++ "--" ++ flag.name ++ operand ++ need := by
  refine ⟨_, _, _, ?_, ?_, chooses_ite _ _ _, rfl⟩
  · cases flag.short with
    | none => exact .none
    | some c => exact .some c
  · cases flag.type with
    | text => exact .text
    | integer => exact .integer
    | real => exact .real
    | switch => exact .switch

theorem describesFlag_flagLines (flag : Flag) : DescribesFlag flag (flagLines flag) := by
  obtain ⟨short, operand, need, shortened, typed, required, usage⟩ := flagUsage_parts flag
  have parts := DescribesFlag.intro shortened typed required
    (chooses_isEmpty flag.description "" ("      " ++ flag.description ++ "\n"))
  have text : flagLines flag = "  " ++ flagUsage flag ++ "\n" ++
      if flag.description.isEmpty then "" else "      " ++ flag.description ++ "\n" := rfl
  rw [text, usage]
  simpa only [String.append_assoc] using parts

theorem describesFlags_options (flags : List Flag) : DescribesFlags flags (options flags) := by
  cases flags with
  | nil => exact .none
  | cons flag rest =>
      refine .some (List.cons_ne_nil flag rest) ?_
      rw [List.forall₂_map_right_iff]
      exact List.forall₂_same.mpr fun flag _ => describesFlag_flagLines flag

theorem describesBounds_argumentBounds (arity : Arity) :
    DescribesBounds arity (argumentBounds arity) := by
  unfold argumentBounds
  split
  · rename_i free
    rw [Bool.and_eq_true, decide_eq_true_iff, decide_eq_true_iff] at free
    exact .none free.1 free.2
  · rename_i bounded
    rw [Bool.and_eq_true, decide_eq_true_iff, decide_eq_true_iff, not_and_or] at bounded
    exact .some bounded (chooses_ite _ _ _)

/-- The page about a command tells what its schema says. -/
theorem describes_page (schema : Schema) : Describes schema (page schema) := by
  have parts := Describes.intro (chooses_isEmpty schema.description "No description" _)
    (chooses_isEmpty schema.usage schema.name _) (chooses_isEmpty schema.helpText "" _)
    (describesFlags_options schema.flags) (describesBounds_argumentBounds schema.arity)
  have text : page schema = String.join
      ["\n=== " ++ schema.name ++ " ===\n\n", "Description: " ++ descriptionOf schema ++ "\n\n",
        "Usage: " ++ orElse schema.usage schema.name ++ "\n\n",
        if schema.helpText.isEmpty then "" else schema.helpText ++ "\n\n",
        options schema.flags, argumentBounds schema.arity] := rfl
  rw [text]
  simpa only [orElse, descriptionOf, String.join_cons, String.join_nil, String.append_empty,
    String.append_assoc] using parts

theorem page_unhidden (schema : Schema) : page schema.unhidden = page schema := rfl

end Help

end CommandShell
