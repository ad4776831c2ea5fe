import Regimen.Document

/-! A heading opens a section that ends before the next heading of the same or a higher rank. The
sections that hold more than their heading can be folded. -/
namespace Regimen

structure Heading where
  line : Nat
  level : Nat
deriving DecidableEq, Repr

/-- A foldable section, by its first and last line. -/
structure Fold where
  first : Nat
  last : Nat
deriving DecidableEq, Repr

namespace Fold

def le (a b : Fold) : Bool := a.first < b.first || (a.first == b.first && a.last ≤ b.last)

def sort (folds : List Fold) : List Fold := folds.mergeSort le

end Fold

namespace Heading

def fold? (h : Heading) (last : Nat) : Option Fold :=
  if h.line < last then some ⟨h.line, last⟩ else none

/-- The folds of a run of headings, given those still open above it, the innermost first. A heading
closes every open one that it does not lie below; at the end of the document all are closed. -/
def folds (last : Nat) : List Heading → List Heading → List Fold
  | above, [] => above.filterMap (·.fold? last)
  | above, h :: rest =>
    let closes := fun (g : Heading) => decide (h.level ≤ g.level)
    (above.takeWhile closes).filterMap (·.fold? (h.line - 1))
      ++ folds last (h :: above.dropWhile closes) rest

end Heading

namespace Document

def headings (d : Document) : List Heading :=
  d.lines.filterMap fun l => l.level?.map fun level => ⟨l.index, level⟩

/-- The folds of a document in the order in which their sections end, inner before outer. -/
def folds (d : Document) : List Fold := Heading.folds d.lastIndex [] d.headings

end Document
end Regimen
