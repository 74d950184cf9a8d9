import CommandShell.Text.Cluster.Kind

/-!
# Clusters of characters

A cluster is what a reader takes for one character: a letter with its marks, a
syllable block, a flag, a sequence of joined pictographs.  Text is cut into
clusters by the rules of Unicode for extended grapheme clusters.  The main
statement is that the clusters of a text are the text again.
-/

namespace CommandShell.Text

/-- How far a conjunct of consonants has come at the end of a cluster. -/
inductive Conjunct where
  /-- The cluster does not end in a consonant and its marks. -/
  | absent
  /-- The cluster ends in a consonant and marks that do not link it. -/
  | begun
  /-- The cluster ends in a consonant and marks that link it to another one. -/
  | linked
  deriving DecidableEq

/-- What the end of a cluster says about the character after it. -/
structure ClusterEnd where
  kind : BreakKind
  /-- Holds when the last character is the first half of a flag. -/
  halfFlag : Bool
  /-- Holds when the end is a pictograph, extensions of it and at most one joiner. -/
  pictograph : Bool
  conjunct : Conjunct
  deriving DecidableEq

namespace BreakKind

/-- Holds of the kinds that extend the character before them, joiners included. -/
def attaches : BreakKind → Bool
  | extending | linking | nonJoiner | joiner => true
  | _ => false

end BreakKind

namespace ClusterEnd

/-- The end of a cluster of one character. -/
def start (kind : BreakKind) : ClusterEnd where
  kind := kind
  halfFlag := kind = .regional
  pictograph := kind = .pictograph
  conjunct := if kind = .consonant then .begun else .absent

/-- The state of a conjunct after one more character. -/
def nextConjunct : Conjunct → BreakKind → Conjunct
  | _, .consonant => .begun
  | .absent, _ => .absent
  | _, .linking => .linked
  | conjunct, .extending | conjunct, .joiner => conjunct
  | _, _ => .absent

/-- The end of a cluster after one more character. -/
def push (last : ClusterEnd) (kind : BreakKind) : ClusterEnd where
  kind := kind
  halfFlag := kind = .regional && !last.halfFlag
  pictograph := kind = .pictograph ||
    (last.pictograph && last.kind ≠ .joiner && kind.attaches)
  conjunct := nextConjunct last.conjunct kind

/-- Decides whether a character belongs to the cluster before it; the first rule that fits wins. -/
def joins (last : ClusterEnd) (kind : BreakKind) : Bool :=
  match last.kind, kind with
  | .carriageReturn, .lineFeed => true
  | .carriageReturn, _ | .lineFeed, _ | .control, _ => false
  | _, .carriageReturn | _, .lineFeed | _, .control => false
  | .leading, .leading | .leading, .vowel => true
  | .leading, .openSyllable | .leading, .closedSyllable => true
  | .openSyllable, .vowel | .openSyllable, .trailing => true
  | .vowel, .vowel | .vowel, .trailing => true
  | .closedSyllable, .trailing | .trailing, .trailing => true
  | _, .extending | _, .linking | _, .nonJoiner | _, .joiner | _, .spacing => true
  | .prepended, _ => true
  | _, .consonant => last.conjunct = .linked
  | .joiner, .pictograph => last.pictograph
  | .regional, .regional => last.halfFlag
  | _, _ => false

end ClusterEnd

/-- The clusters of a text of which one is begun; its characters are given last first. -/
def clustersFrom (last : ClusterEnd) (begun : List Char) : List Char → List (List Char)
  | [] => [begun.reverse]
  | c :: rest =>
      let kind := BreakKind.ofChar c
      if last.joins kind then clustersFrom (last.push kind) (c :: begun) rest
      else begun.reverse :: clustersFrom (.start kind) [c] rest

def clusters : List Char → List (List Char)
  | [] => []
  | c :: rest => clustersFrom (.start (.ofChar c)) [c] rest

theorem flatten_clustersFrom (last : ClusterEnd) (begun rest : List Char) :
    (clustersFrom last begun rest).flatten = begun.reverse ++ rest := by
  induction rest generalizing last begun with
  | nil => simp [clustersFrom]
  | cons c rest ih =>
    simp only [clustersFrom]
    split <;> simp [ih]

/-- Nothing is lost between the clusters of a text. -/
theorem flatten_clusters (chars : List Char) : (clusters chars).flatten = chars := by
  cases chars with
  | nil => rfl
  | cons c rest => simp [clusters, flatten_clustersFrom]

end CommandShell.Text
