import Regimen.Line
import Regimen.Text.Lines

/-! A document is the numbered list of its lines. Lines end at a line feed, and a carriage return
before it belongs to the terminator. -/
namespace Regimen

structure Document where
  lines : List Line
deriving DecidableEq, Repr

namespace Document

def ofLines (raws : List Text) : Document where
  lines := raws.mapIdx fun i raw => ⟨i, raw⟩

def ofText (t : Text) : Document := ofLines ((Text.pieces t).map Text.dropReturn)

def lineCount (d : Document) : Nat := d.lines.length

def lastIndex (d : Document) : Nat := d.lineCount - 1

@[simp] theorem lineCount_ofText (t : Text) : (ofText t).lineCount = t.count '\n' + 1 := by
  simp [ofText, ofLines, lineCount, Text.length_pieces]

@[simp] theorem lastIndex_ofText (t : Text) : (ofText t).lastIndex = t.count '\n' := by
  simp [lastIndex]

end Document
end Regimen
