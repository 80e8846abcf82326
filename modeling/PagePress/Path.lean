import PagePress.Text.Split

/-!
Paths in normal form: an anchor and parts, without empty parts and without the part that stays where
it is. The part that goes up is kept.
-/

set_option autoImplicit false

namespace PagePress

open Text

/-- Where a path starts: where the reader stands, at the root, or at the root written with two
slashes. -/
inductive Anchor
  | here
  | root
  | doubleRoot
  deriving DecidableEq, Repr

/-- A path in normal form. -/
structure Path where
  anchor : Anchor
  parts : List String
  deriving DecidableEq, Repr

def Anchor.text : Anchor → String
  | .here => ""
  | .root => "/"
  | .doubleRoot => "//"

namespace Path

def here : Path := ⟨.here, []⟩

def anchorOf (slashes : Nat) : Anchor :=
  if slashes = 0 then .here else if slashes = 2 then .doubleRoot else .root

def isPart (part : String) : Bool := part != "" && part != "."

def ofString (s : String) : Path :=
  ⟨anchorOf (s.toList.takeWhile (· == '/')).length, (Split.partsText '/' s).filter isPart⟩

/-- The text of a path; the path that stays where it is is a dot. -/
def toString (p : Path) : String :=
  if p.anchor = .here && p.parts.isEmpty then "."
  else p.anchor.text ++ "/".intercalate p.parts

/-- The path `q` seen from `p`: an anchored path does not look where it is seen from. -/
def join (p q : Path) : Path :=
  if q.anchor = .here then ⟨p.anchor, p.parts ++ q.parts⟩ else q

/-- The path whose pieces are seen one from the other. -/
def ofPieces (pieces : List String) : Path :=
  pieces.foldl (fun p piece => p.join (ofString piece)) here

def components (p : Path) : List String :=
  if p.anchor = .here then p.parts else p.anchor.text :: p.parts

/-- The last part, or nothing. -/
def name (p : Path) : String := p.parts.getLast?.getD ""

def parent (p : Path) : Path := ⟨p.anchor, p.parts.dropLast⟩

/-- Whether `q` is reached from `p` by going up at least once. -/
def isAbove (q p : Path) : Bool :=
  q.anchor = p.anchor && q.parts.length < p.parts.length && q.parts.isPrefixOf p.parts

def relativeTo? (p q : Path) : Option Path :=
  if p.anchor = q.anchor && q.parts.isPrefixOf p.parts then
    some ⟨.here, p.parts.drop q.parts.length⟩
  else none

/-- The number of characters before the point of a name's suffix, when it has one: the last point,
unless it is the first or the last character. -/
def stemLength? (cs : List Char) : Option Nat :=
  let tail := (cs.reverse.takeWhile (· != '.')).length
  let stem := cs.length - tail - 1
  if tail < cs.length && tail ≠ 0 && stem ≠ 0 then some stem else none

/-- The suffix of a path: the end of its name from the last point on. -/
def suffix (p : Path) : String :=
  let cs := p.name.toList
  match stemLength? cs with
  | some stem => String.ofList (cs.drop stem)
  | none => ""

def stem (p : Path) : String :=
  let cs := p.name.toList
  match stemLength? cs with
  | some stem => String.ofList (cs.take stem)
  | none => p.name

def withSuffix? (p : Path) (suffix : String) : Option Path :=
  if p.name = "" then none else some ⟨p.anchor, p.parts.dropLast ++ [p.stem ++ suffix]⟩

example : (ofString "a//b/./c/").toString = "a/b/c" ∧ (ofString "//two").toString = "//two" ∧
    (ofString "").toString = "." := by decide +kernel

example : (ofString "a/b.tar.gz").suffix = ".gz" ∧ (ofString ".py").suffix = "" ∧
    (ofString "x.").suffix = "" := by decide +kernel

end Path

end PagePress
