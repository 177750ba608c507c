/-!
Paths as text: components between slashes, some of which say nothing.
-/

namespace StateDescription.Path

/-- The parts between slashes, one more than there are slashes. -/
def split : List Char → List (List Char)
  | [] => [[]]
  | c :: cs =>
    if c = '/' then [] :: split cs
    else
      match split cs with
      | [] => [[c]]
      | part :: parts => (c :: part) :: parts

def components (path : String) : List String :=
  (split path.toList).map String.ofList

/-- An empty component and a single dot stay where they are. -/
def isIdle (component : String) : Bool :=
  component = "" || component = "."

/-- The slashes that an absolute path starts with: exactly two are kept, any other number
counts as one. -/
def root (path : String) : String :=
  match (path.toList.takeWhile (· = '/')).length with
  | 0 => ""
  | 2 => "//"
  | _ => "/"

/-- The components that say something. -/
def steps (path : String) : List String :=
  (components path).filter (!isIdle ·)

/-- The path without idle components. A path of nothing else is a dot. -/
def normalised (path : String) : String :=
  let text := root path ++ String.intercalate "/" (steps path)
  if text = "" then "." else text

def fileName (path : String) : String :=
  (steps path).getLastD ""

end StateDescription.Path
