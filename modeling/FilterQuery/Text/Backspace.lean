import FilterQuery.Text.Cluster

/-!
# Backspaces in a typed line

A backspace takes back the cluster typed before it that is still there, and nothing at the start of
the line. The line keeps the sizes of its clusters in bytes, each modulo 256, and a cluster is taken
back by its size; so of a cluster longer than 255 bytes only a part goes.
-/

namespace FilterQuery.Text

/-- A line as far as it has been typed: its characters and its clusters' sizes, the last first. -/
structure TypedLine where
  text : List Char
  sizes : List UInt8
deriving DecidableEq, Repr

/-- Drops as many characters as fit in a number of bytes. -/
def dropBytes : Nat → List Char → List Char
  | _, [] => []
  | size, c :: cs => if c.utf8Size ≤ size then dropBytes (size - c.utf8Size) cs else c :: cs

def byteSize (cs : List Char) : Nat := cs.foldl (fun n c ↦ n + c.utf8Size) 0

namespace TypedLine

def empty : TypedLine := ⟨[], []⟩

/-- Takes back the last cluster. -/
def takeBack (line : TypedLine) : TypedLine :=
  match line.sizes with
  | [] => line
  | size :: sizes => ⟨dropBytes size.toNat line.text, sizes⟩

/-- Types a cluster. -/
def enter (line : TypedLine) (cluster : List Char) : TypedLine :=
  if cluster = ['\x08'] then line.takeBack
  else ⟨cluster.reverse ++ line.text, (byteSize cluster).toUInt8 :: line.sizes⟩

theorem text_foldl_enter {typed : List (List Char)} (h : ['\x08'] ∉ typed) (line : TypedLine) :
    (typed.foldl enter line).text = typed.flatten.reverse ++ line.text := by
  induction typed generalizing line with
  | nil => simp
  | cons cluster typed ih =>
    simp only [List.mem_cons, not_or] at h
    simp [ih h.2, enter, Ne.symm h.1]

end TypedLine

/-- What is left of a line when its backspaces have taken effect. -/
def applyBackspaces (cs : List Char) : List Char :=
  ((clusters cs).foldl TypedLine.enter .empty).text.reverse

theorem applyBackspaces_of_notMem {cs : List Char} (h : '\x08' ∉ cs) : applyBackspaces cs = cs := by
  have hclusters : ['\x08'] ∉ clusters cs := fun hmem ↦
    h (flatten_clusters cs ▸ List.mem_flatten.2 ⟨_, hmem, by simp⟩)
  simp [applyBackspaces, TypedLine.text_foldl_enter hclusters, TypedLine.empty, flatten_clusters]

end FilterQuery.Text
