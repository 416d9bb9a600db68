import WholeFile.Bytes
import WholeFile.Table

/-!
# The file table

Which node each path names. Paths are compared byte by byte.
-/

namespace WholeFile

/-- A file or a directory. -/
structure Node where
  content : Bytes := []
  mode : Nat := 0o644
  directory : Bool := false
  /-- The size reported in place of the content's length. -/
  reported : Option Nat := none
deriving DecidableEq, Repr

/-- The size that the node reports. -/
def Node.size (n : Node) : Nat := n.reported.getD n.content.length

/-- Everything before the last slash, if there is one. -/
def Path.parent? (p : Path) : Option Path :=
  if (0x2f : UInt8) ∈ p then some ((p.reverse.dropWhile (· ≠ 0x2f)).drop 1).reverse else none

example : Path.parent? [0x61, 0x2f, 0x62, 0x2f, 0x63] = some [0x61, 0x2f, 0x62] := by decide

abbrev FileTable := Table Path Node

namespace FileTable

/-- The content at a path; nothing if no node is there. -/
def content (t : FileTable) (p : Path) : Bytes := (t.find? p).elim [] Node.content

/-- Gives the node at `p` the content that `f` makes of its own. -/
def editContent (t : FileTable) (p : Path) (f : Bytes → Bytes) : FileTable :=
  match t.find? p with
  | some n => t.insert p { n with content := f n.content }
  | none => t

/-- The entries in the order of the paths' bytes. -/
def sorted (t : FileTable) : List (Path × Node) :=
  t.entries.mergeSort fun a b => decide (¬ b.1 < a.1)

theorem find?_editContent_of_ne (t : FileTable) {p q : Path} (f : Bytes → Bytes) (h : q ≠ p) :
    (t.editContent p f).find? q = t.find? q := by
  unfold editContent
  split
  · exact t.find?_insert_of_ne _ h
  · rfl

theorem content_editContent_self {t : FileTable} {p : Path} {n : Node} (f : Bytes → Bytes)
    (h : t.find? p = some n) : (t.editContent p f).content p = f (t.content p) := by
  simp [editContent, content, h]

end FileTable

end WholeFile
