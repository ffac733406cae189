/-
# Calculator.Text.Cluster — the characters a reader sees

A text falls into clusters, the units that a reader takes for one character.  Whether two neighbouring
characters stay together depends on their classes and, for flags, joined pictures and bound consonants,
on a little of what stands before them in the same cluster.  `Context` is that little.

Clusters are pieces of the text: put together again they are the text.
-/

import Calculator.Text.Break

namespace Calculator.Text

/-! ## Where clusters end -/

/-- How far a cluster has come towards binding another consonant. -/
inductive Conjunct where
  | absent
  | consonant
  | linked
  deriving DecidableEq

/-- What the next character needs to know about the cluster in front of it. -/
structure Context where
  last : Break
  /-- The cluster ends in a picture, perhaps with marks and then a joiner behind it. -/
  picture : Bool
  /-- The cluster ends in a regional indicator that has no partner yet. -/
  unpaired : Bool
  conjunct : Conjunct

namespace Context

/-- The context after the first character of a cluster. -/
def start (c : Char) : Context where
  last := Break.ofChar c
  picture := Break.ofChar c = .pictographic
  unpaired := Break.ofChar c = .regional
  conjunct := if isConjunctConsonant c then .consonant else .absent

/-- How far the cluster is towards another consonant after one more character.  Marks between the
two consonants do no harm, apart from the one that keeps letters from joining. -/
def conjunctAfter (context : Context) (c : Char) : Conjunct :=
  if isConjunctConsonant c then .consonant
  else if isConjunctLinker c then (if context.conjunct = .absent then .absent else .linked)
  else if c = nonJoiner then .absent
  else if Break.ofChar c = .extend ∨ Break.ofChar c = .joiner then context.conjunct
  else .absent

/-- The context after one more character of the same cluster. -/
def after (context : Context) (c : Char) : Context where
  last := Break.ofChar c
  picture :=
    match Break.ofChar c with
    | .pictographic => true
    | .extend | .joiner => context.picture && context.last ≠ .joiner
    | _ => false
  unpaired := Break.ofChar c = .regional && !context.unpaired
  conjunct := context.conjunctAfter c

/-- Whether a character belongs to the cluster in front of it. -/
def joins (context : Context) (c : Char) : Bool :=
  match context.last, Break.ofChar c with
  | .carriageReturn, .lineFeed => true
  | .carriageReturn, _ | .lineFeed, _ | .control, _ => false
  | _, .carriageReturn | _, .lineFeed | _, .control => false
  | .leadingJamo, .leadingJamo | .leadingJamo, .vowelJamo => true
  | .leadingJamo, .openSyllable | .leadingJamo, .closedSyllable => true
  | .openSyllable, .vowelJamo | .openSyllable, .trailingJamo => true
  | .vowelJamo, .vowelJamo | .vowelJamo, .trailingJamo => true
  | .closedSyllable, .trailingJamo | .trailingJamo, .trailingJamo => true
  | _, .extend | _, .joiner | _, .spacingMark => true
  | .leadingMark, _ => true
  | .joiner, .pictographic => context.picture
  | .regional, .regional => context.unpaired
  | _, _ => context.conjunct = .linked && isConjunctConsonant c

end Context

/-! ## Clusters -/

/-- The clusters of a text behind an open cluster, which is given in reverse. -/
def clustersFrom (context : Context) (cluster : List Char) : List Char → List (List Char)
  | [] => [cluster.reverse]
  | c :: rest =>
    if context.joins c then clustersFrom (context.after c) (c :: cluster) rest
    else cluster.reverse :: clustersFrom (.start c) [c] rest

/-- The clusters of a text, in order. -/
def clusters : List Char → List (List Char)
  | [] => []
  | c :: rest => clustersFrom (.start c) [c] rest

theorem flatten_clustersFrom (context : Context) (cluster cs : List Char) :
    (clustersFrom context cluster cs).flatten = cluster.reverse ++ cs := by
  induction cs generalizing context cluster with
  | nil => simp [clustersFrom]
  | cons c rest ih =>
    unfold clustersFrom
    split <;> simp [ih]

/-- Clusters lose no character and change none. -/
theorem flatten_clusters (cs : List Char) : (clusters cs).flatten = cs := by
  cases cs with
  | nil => rfl
  | cons c rest => simp [clusters, flatten_clustersFrom]

end Calculator.Text
