namespace BraceScript.Braces

def opening : Char := '\x7b'
def closing : Char := '\x7d'

/-- The character that stands for a brace which is ordinary text. It is as wide as a brace. -/
def masked : Char := '\x01'

def maxNesting : Nat := 256

/-- Masks `text` when the braces of `stack` are open before it, innermost first. An entry of
`stack` says whether its brace was met within the nesting limit, and `depth` counts those that
were. Next to the masked text stands the fate of each open brace: whether it stays a brace. -/
def maskFrom : List Char → List Bool → Nat → List Char × List Bool
  | [], stack, _ => ([], stack.map fun _ ↦ false)
  | c :: text, stack, depth =>
    if c = opening then
      let kept := decide (depth < maxNesting)
      match maskFrom text (kept :: stack) (if kept then depth + 1 else depth) with
      | (rest, stays :: fates) => ((if stays then c else masked) :: rest, fates)
      | (rest, []) => (masked :: rest, [])
    else if c = closing then
      match stack with
      | [] =>
        let (rest, fates) := maskFrom text [] depth
        (masked :: rest, fates)
      | kept :: stack =>
        let (rest, fates) := maskFrom text stack (if kept then depth - 1 else depth)
        ((if kept then c else masked) :: rest, kept :: fates)
    else
      let (rest, fates) := maskFrom text stack depth
      (c :: rest, fates)

def mask (text : List Char) : List Char := (maskFrom text [] 0).1

end BraceScript.Braces
