import Regimen.Block
import Regimen.Document
import Regimen.Slash

/-! The layout of a document. Each line gets a number of indentation units and a content; the width
of a unit matters only when the line is written out. -/
namespace Regimen.Layout

/-- What the lines read so far say about the next one. -/
structure Context where
  inBlock : Bool := false
  /-- Braces open in the current block. -/
  depth : Nat := 0
  /-- Whether the last heading is below the top level. -/
  underSubheading : Bool := false
deriving DecidableEq, Repr

namespace Context

def enterBlock (c : Context) : Context := { c with inBlock := true, depth := 0 }

def exitBlock (c : Context) : Context := { c with inBlock := false, depth := 0 }

def indent (c : Context) : Context := { c with depth := c.depth + 1 }

/-- An unmatched closing brace leaves the depth at zero. -/
def dedent (c : Context) : Context := { c with depth := c.depth - 1 }

def bodyUnits (c : Context) : Nat := if c.underSubheading then 2 else 0

end Context

structure Placed where
  units : Nat
  content : Text
deriving DecidableEq, Repr

def Placed.render (width : Nat) (p : Placed) : Text :=
  List.replicate (width * p.units) ' ' ++ p.content

def lead (before : Text) : Text := if before = [] then [] else Slash.space before ++ [' ']

def trail (after : Text) : Text := if after = [] then [] else ' ' :: after

def placeCode (c : Context) (s : Text) : Context × Placed :=
  if Text.has Block.closeMark s then (c.exitBlock, ⟨c.bodyUnits, s⟩)
  else if commentMark.isPrefixOf s then (c, ⟨c.bodyUnits, s⟩)
  else
    let c := if s.head? = some '}' then c.dedent else c
    let opens := s.getLast? = some '{' ∧ '}' ∉ s
    (if opens then c.indent else c, ⟨c.bodyUnits + (c.depth + 1), s⟩)

def placeBody (c : Context) (s : Text) : Context × Placed :=
  match Block.divide s with
  | .single before block after => (c, ⟨c.bodyUnits, lead before ++ block ++ trail after⟩)
  | .opening before block => (c.enterBlock, ⟨c.bodyUnits, lead before ++ block⟩)
  | .none => (c, ⟨c.bodyUnits, if commentMark.isPrefixOf s then s else Slash.space s⟩)

/-- Places a line by its content and says what the next line is to know. -/
def place (c : Context) (s : Text) : Context × Placed :=
  match Role.ofContent s with
  | .blank => (c, ⟨0, []⟩)
  | .heading level =>
    if 2 ≤ level then ({ c with underSubheading := true }, ⟨1, s⟩)
    else ({ c with underSubheading := false }, ⟨0, s⟩)
  | _ => if c.inBlock then placeCode c s else placeBody c s

def placeAll (c : Context) : List Text → Context × List Placed
  | [] => (c, [])
  | s :: rest =>
    let (c, p) := place c s
    let (c, ps) := placeAll c rest
    (c, p :: ps)

@[simp] theorem length_placeAll (c : Context) (ss : List Text) :
    (placeAll c ss).2.length = ss.length := by
  induction ss generalizing c with
  | nil => rfl
  | cons s rest ih => simp [placeAll, ih]

theorem placeAll_append (c : Context) (ss ts : List Text) :
    placeAll c (ss ++ ts) =
      ((placeAll (placeAll c ss).1 ts).1, (placeAll c ss).2 ++ (placeAll (placeAll c ss).1 ts).2) := by
  induction ss generalizing c with
  | nil => rfl
  | cons s rest ih => simp [placeAll, ih]

def formatLine (width : Nat) (c : Context) (l : Line) : Context × Text :=
  let (c, p) := place c l.content
  (c, p.render width)

/-- Past the last word the units of a line of code start again at those of the body. -/
def Placed.wrap (body : Nat) (p : Placed) : Placed :=
  if p.units = body + UInt64.size then { p with units := body } else p

/-- What is kept between lines that are formatted one by one. The depth is a word and wraps around. -/
structure Scan where
  inBlock : Bool := false
  depth : UInt64 := 0
  underSubheading : Bool := false
deriving DecidableEq, Repr

namespace Scan

def context (s : Scan) : Context := ⟨s.inBlock, s.depth.toNat, s.underSubheading⟩

def ofContext (c : Context) : Scan := ⟨c.inBlock, .ofNat c.depth, c.underSubheading⟩

def update (f : Context → Context) (s : Scan) : Scan := ofContext (f s.context)

def formatLine (width : Nat) (s : Scan) (l : Line) : Scan × Text :=
  let (c, p) := place s.context l.content
  (ofContext c, (p.wrap s.context.bodyUnits).render width)

end Scan

def formatLines (width : Nat) (d : Document) : List Text :=
  (placeAll {} (d.lines.map Line.content)).2.map (Placed.render width)

/-- The document laid out with indentation units of the given width. -/
def format (width : Nat) (t : Text) : Text :=
  Text.joinLines (formatLines width (Document.ofText t))

def defaultWidth : Nat := 4

end Regimen.Layout
