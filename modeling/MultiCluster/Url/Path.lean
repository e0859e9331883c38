/-
Paths of URLs. A path is read as segments between slashes; a segment of one dot stands for the place
itself and one of two dots for the place above, so neither is left in what is read.
-/
import MultiCluster.Text.Blank
import MultiCluster.Text.Cut
import MultiCluster.Url.Percent
namespace MultiCluster.Url

/-- A segment with its encoded dots read as dots. -/
def plainDots : List Char → List Char
  | '%' :: '2' :: c :: r => if c = 'e' ∨ c = 'E' then '.' :: plainDots r else '%' :: '2' :: c :: plainDots r
  | c :: r => c :: plainDots r
  | [] => []

def isHere (s : List Char) : Bool := plainDots s == ['.']

def isAbove (s : List Char) : Bool := plainDots s == ['.', '.']

/-- Follows segments from the place that `above` leads to, the nearest first. -/
def resolve (above : List (List Char)) : List (List Char) → List (List Char)
  | [] => above.reverse
  | [s] =>
    if isAbove s then (above.tail.reverse ++ [[]])
    else if isHere s then above.reverse ++ [[]]
    else above.reverse ++ [s]
  | s :: t :: r =>
    if isAbove s then resolve above.tail (t :: r)
    else if isHere s then resolve above (t :: r)
    else resolve (s :: above) (t :: r)

/-- The segments of what stands behind the first slash. -/
def segments (special : Bool) (s : List Char) : List (List Char) :=
  Text.split '/' (if special then s.map fun c => if c = '\\' then '/' else c else s)

/-- The path that a text names, which may begin with a slash; it always gets one. -/
def readPath (special : Bool) (s : List Char) : List Char :=
  let body := match s with
    | '/' :: r => r
    | '\\' :: r => if special then r else '\\' :: r
    | s => s
  (resolve [] ((segments special body).map (percentText keptInPath))).flatMap fun p => '/' :: p

end MultiCluster.Url
