import FilterQuery.Text.BreakClass

/-!
# Clusters

A cluster is what a reader takes for one character: a letter with its marks, a Hangul syllable, a
flag, pictographs that are joined into one, a conjunct of consonants. Clusters follow each other
without gaps, so that a text is the concatenation of its clusters.
-/

namespace FilterQuery.Text

namespace BreakClass

/-- Whether a character of the class is a cluster of its own. -/
def isSeparate : BreakClass → Bool
  | .carriageReturn | .lineFeed | .control => true
  | _ => false

/-- Whether a character of the class belongs to the character before it. -/
def isAttached : BreakClass → Bool
  | .extending | .joiner | .spacing => true
  | _ => false

/-- Whether letters of the two classes stand side by side in one syllable. -/
def isSyllable : BreakClass → BreakClass → Bool
  | .leading, .leading | .leading, .vowel => true
  | .leading, .openSyllable | .leading, .closedSyllable => true
  | .openSyllable, .vowel | .openSyllable, .trailing => true
  | .vowel, .vowel | .vowel, .trailing => true
  | .closedSyllable, .trailing | .trailing, .trailing => true
  | _, _ => false

end BreakClass

/-! ## The end of a cluster -/

def isExtendingClass (c : Char) : Bool := BreakClass.ofChar c == .extending

def isRegional (c : Char) : Bool := BreakClass.ofChar c == .regional

/-- Whether a cluster, given from its end, ends with a pictograph, its marks and a joiner. -/
def endsWithJoinedPictograph : List Char → Bool
  | '\u200d' :: before =>
    (before.dropWhile isExtendingClass).head?.any fun c ↦ BreakClass.ofChar c == .pictograph
  | _ => false

/-- Whether a cluster, given from its end, ends with the first half of a flag. -/
def endsWithHalfFlag (cluster : List Char) : Bool :=
  (cluster.takeWhile isRegional).length % 2 == 1

/-- Whether a character may stand between the consonants of a conjunct. -/
def isConjunctMark (c : Char) : Bool := isExtendingClass c && c != '\u200c' || c == '\u200d'

/-- Whether a cluster, given from its end, ends with a consonant and a sign that joins it. -/
def endsWithLinkedConsonant (cluster : List Char) : Bool :=
  (cluster.takeWhile isConjunctMark).any isLinker &&
    (cluster.dropWhile isConjunctMark).head?.any fun c ↦ BreakClass.ofChar c == .consonant

/-! ## Splitting -/

/-- Whether a character belongs to the cluster before it, which is given from its end. -/
def joins (cluster : List Char) (c : Char) : Bool :=
  match cluster with
  | [] => false
  | last :: _ =>
    let first := BreakClass.ofChar last
    let second := BreakClass.ofChar c
    if first.isSeparate || second.isSeparate then first == .carriageReturn && second == .lineFeed
    else second.isAttached || first == .prepending || first.isSyllable second
      || second == .pictograph && endsWithJoinedPictograph cluster
      || second == .regional && endsWithHalfFlag cluster
      || second == .consonant && endsWithLinkedConsonant cluster

/-- The clusters of a text behind a cluster that has begun, which is given from its end. -/
def clustersFrom (begun : List Char) : List Char → List (List Char)
  | [] => [begun.reverse]
  | c :: cs =>
    if joins begun c then clustersFrom (c :: begun) cs
    else begun.reverse :: clustersFrom [c] cs

/-- The clusters of a text. -/
def clusters : List Char → List (List Char)
  | [] => []
  | c :: cs => clustersFrom [c] cs

theorem flatten_clustersFrom (begun cs : List Char) :
    (clustersFrom begun cs).flatten = begun.reverse ++ cs := by
  fun_induction clustersFrom begun cs with
  | case1 => simp
  | case2 begun c cs _ ih => simp [ih]
  | case3 begun c cs _ ih => simp [ih]

theorem flatten_clusters (cs : List Char) : (clusters cs).flatten = cs := by
  cases cs with
  | nil => rfl
  | cons c cs => simp [clusters, flatten_clustersFrom]

end FilterQuery.Text
